import Rubric.Proofs.Agreement
import Rubric.Proofs.ProjectSection

/-!
# Three readers of a depth

A search depth is given in a requirement document, in the settings of a project or to the setter of
an engine. The settings and the setter take the positive integers and nothing else. The document
takes these, and besides them other values that pass for one (`Value.Passes`): the true one of the
truth values, a number without a fraction, and a text that spells an integer.

`Depth.readers_agree_iff` states for each of the three which values it takes and what it makes of
them, and that document and settings agree on a value exactly if it does not pass for a positive
integer without being one. What else the document and the settings hold does not matter, as long as
it is sound.
-/

namespace Rubric

/-- A value that is no integer passes for one in a document. -/
inductive Value.Passes : Value → Int → Prop
  | truth (b : Bool) : Passes (.bool b) (if b then 1 else 0)
  | whole {x : Binary64} {n : Int} (whole : x.toInt? = some n)
      (fits : -9223372036854775808 < n ∧ n < 9223372036854775808) : Passes (.float x) n
  | spelled {s : String} {n : Int} (spelled : Checked.integerText s = .ok n) :
      Passes (.string s) n

/-! ## A place for a member -/

/-- Members with a place for one more, whose key they do not have. -/
structure Members.Gap (key : String) where
  before : Members
  after : Members
  free : Members.get? (before ++ after) key = none

namespace Members.Gap

variable {key : String}

def rest (gap : Gap key) : Members :=
  gap.before ++ gap.after

def filled (gap : Gap key) (value : Value) : Members :=
  gap.before ++ (key, value) :: gap.after

theorem get?_filled (gap : Gap key) (value : Value) (other : String) :
    (gap.filled value).get? other = if key = other then some value else gap.rest.get? other := by
  have hbefore : gap.before.get? key = none := by
    have hfree := gap.free
    rw [get?, List.lookup_append, Option.or_eq_none_iff] at hfree
    exact hfree.1
  rw [filled, rest, get?, get?, List.lookup_append, List.lookup_append]
  show (gap.before.get? other).or (Members.get? ((key, value) :: gap.after) other) = _
  rw [get?_cons]
  by_cases h : key = other
  · subst h
    rw [hbefore, if_pos rfl, if_pos rfl]
    rfl
  · rw [if_neg h, if_neg h]
    rfl

theorem has_filled (gap : Gap key) (value : Value) {other : String} (h : key ≠ other) :
    (gap.filled value).has other = gap.rest.has other := by
  rw [Bool.eq_iff_iff, ← Bool.not_eq_false, ← Bool.not_eq_false, ← get?_eq_none_iff,
    ← get?_eq_none_iff, get?_filled, if_neg h]

theorem has_rest (gap : Gap key) : gap.rest.has key = false :=
  get?_eq_none_iff.mp gap.free

theorem ne_of_mem_rest (gap : Gap key) {member : String × Value} (h : member ∈ gap.rest) :
    member.1 ≠ key := by
  intro hname
  have hhas := gap.has_rest
  rw [has_eq_true_iff.mpr ⟨member, h, hname⟩] at hhas
  cases hhas

theorem mem_filled {gap : Gap key} {value : Value} {member : String × Value} :
    member ∈ gap.filled value ↔ member = (key, value) ∨ member ∈ gap.rest := by
  simp only [filled, rest, List.mem_append, List.mem_cons]
  exact or_left_comm

end Members.Gap

/-! ## Documents -/

namespace Checked

theorem Field.ReadsAs.unique {α : Type} {read : Value → Checked α} {absent x y : α}
    {held : Option Value} (hx : ReadsAs read absent held x) (hy : ReadsAs read absent held y) :
    y = x := by
  cases held with
  | none => exact Eq.trans hy (Eq.symm hx)
  | some value => exact Except.ok.inj (Eq.trans (Eq.symm hy) hx)

theorem ofFloat?_eq_some_iff {x : Binary64} {n : Int} : ofFloat? x = some n ↔
    x.toInt? = some n ∧ -9223372036854775808 < n ∧ n < 9223372036854775808 := by
  rw [ofFloat?, Option.filter_eq_some_iff, Bool.and_eq_true, decide_eq_true_eq, decide_eq_true_eq]

theorem integer_float_eq_ok_iff {x : Binary64} {n : Int} :
    integer (.float x) = .ok n ↔ ofFloat? x = some n := by
  cases x with
  | finite negative mantissa exponent =>
      cases hx : ofFloat? (.finite negative mantissa exponent) with
      | some m => simp [integer, hx, Binary64.isFinite]
      | none =>
          simp only [integer, hx, Binary64.isFinite, Bool.not_true, Bool.false_eq_true, if_false,
            reduceCtorEq, iff_false]
          split <;> simp [fail]
  | infinite negative => simp [integer, Binary64.isFinite, ofFloat?, Binary64.toInt?, fail]
  | nan => simp [integer, Binary64.isFinite, ofFloat?, Binary64.toInt?, fail]

/-- Reading an integer takes the integers and what passes for one. -/
theorem integer_eq_ok_iff {value : Value} {n : Int} :
    integer value = .ok n ↔ value = .int n ∨ value.Passes n := by
  constructor
  · intro h
    cases value with
    | int m =>
        cases h
        exact .inl rfl
    | bool b =>
        cases h
        exact .inr (.truth b)
    | string s => exact .inr (.spelled h)
    | float x =>
        obtain ⟨hwhole, hfits⟩ := ofFloat?_eq_some_iff.mp (integer_float_eq_ok_iff.mp h)
        exact .inr (.whole hwhole hfits)
    | _ => cases h
  · rintro (rfl | hpasses)
    · rfl
    · cases hpasses with
      | truth b => rfl
      | whole whole fits =>
          exact integer_float_eq_ok_iff.mpr (ofFloat?_eq_some_iff.mpr ⟨whole, fits⟩)
      | spelled spelled => exact spelled

theorem keyIn?_filled_self {key : String} (gap : Members.Gap key) (value : Value) :
    Field.keyIn? { key } (gap.filled value) = some key :=
  Field.keyIn?_eq_some_iff.mpr ⟨.inl rfl, Members.has_eq_true_iff.mpr
    ⟨(key, value), Members.Gap.mem_filled.mpr (.inl rfl), rfl⟩⟩

theorem keyIn?_filled_of_ne {key : String} (gap : Members.Gap key) (value : Value) {field : Field}
    (hkey : field.key ≠ key) {name : String} (hname : name ≠ key) :
    field.keyIn? (gap.filled value) = some name ↔ field.keyIn? gap.rest = some name := by
  rw [Field.keyIn?_eq_some_iff, Field.keyIn?_eq_some_iff, gap.has_filled value hkey.symm,
    gap.has_filled value hname.symm]

/-- A value in the place of a key that is a field of its own is no stranger. It changes nothing for
the other fields. -/
theorem strangers_filled {key : String} (gap : Members.Gap key) (value : Value)
    {fields : List Field} (hfield : { key } ∈ fields)
    (hothers : ∀ field ∈ fields, field = { key } ∨ field.key ≠ key) :
    strangers fields (gap.filled value) = [] ↔ strangers fields gap.rest = [] := by
  rw [strangers_eq_nil_iff, strangers_eq_nil_iff]
  constructor
  · intro h member hmember
    have hrest := gap.ne_of_mem_rest hmember
    obtain ⟨field, hmem, hname⟩ := h member (Members.Gap.mem_filled.mpr (.inr hmember))
    rcases hothers field hmem with rfl | hkey
    · rw [keyIn?_filled_self] at hname
      -- The field is used by the new value, hence by no other member.
      exact absurd (Option.some.inj hname).symm hrest
    · exact ⟨field, hmem, (keyIn?_filled_of_ne gap value hkey hrest).mp hname⟩
  · intro h member hmember
    rcases Members.Gap.mem_filled.mp hmember with rfl | hmember
    · exact ⟨_, hfield, keyIn?_filled_self gap value⟩
    · have hrest := gap.ne_of_mem_rest hmember
      obtain ⟨field, hmem, hname⟩ := h member hmember
      refine ⟨field, hmem, ?_⟩
      rcases hothers field hmem with rfl | hkey
      · rcases (Field.keyIn?_eq_some_iff.mp hname).1 with heq | ⟨-, ⟨⟩⟩
        exact absurd heq.symm hrest
      · exact (keyIn?_filled_of_ne gap value hkey hrest).mpr hname

end Checked

namespace Document

variable {bounds : Bounds} {gap : Members.Gap "recursion_depth"} {value : Value}
  {document found : Document}

theorem checkDepth_eq_ok_iff {depth : Depth} :
    checkDepth value = .ok depth ↔ value = .int depth.val ∨ value.Passes depth.val := by
  rw [← Checked.integer_eq_ok_iff, checkDepth]
  obtain ⟨n, hn⟩ := depth
  cases hvalue : Checked.integer value with
  | error complaints => simp
  | ok m =>
      rcases m with (_ | m) | m
      · have hzero : (0 : Int) ≠ n := by omega
        simpa [Checked.fail] using hzero
      · constructor
        · rintro ⟨⟩
          rfl
        · rintro ⟨⟩
          rfl
      · simp [Checked.fail]

theorem orNull_checkDepth_eq_ok_iff {taken : Option Depth} :
    Checked.orNull checkDepth value = .ok taken ↔
      (∃ depth : Depth, (value = .int depth.val ∨ value.Passes depth.val) ∧ taken = some depth) ∨
        value = .null ∧ taken = none := by
  by_cases hnull : value = .null
  · subst hnull
    constructor
    · rintro ⟨⟩
      exact .inr ⟨rfl, rfl⟩
    · rintro (⟨_, ⟨⟨⟩⟩ | ⟨⟨⟩⟩, -⟩ | ⟨-, rfl⟩)
      rfl
  · have hread : Checked.orNull checkDepth value = (checkDepth value).map some := by
      cases value with
      | null => exact absurd rfl hnull
      | _ => rfl
    rw [hread, Checked.map_eq_ok_iff]
    simp only [checkDepth_eq_ok_iff, hnull, false_and, or_false, eq_comm (a := taken)]

/-- A document with a value in the place of the depth is sound if the rest of it is and the value
can be read. -/
theorem check_filled_eq_ok_iff_read (h : check bounds (.object gap.rest) = .ok document) :
    check bounds (.object (gap.filled value)) = .ok found ↔
      ∃ depth, Checked.orNull checkDepth value = .ok depth ∧ found = { document with depth } := by
  obtain ⟨-, hgoal, hmust, hmustNot, hstructures, hstrange⟩ := check_object_eq_ok_iff.mp h
  have hothers : ∀ field ∈ [depthField, goalField, mustField, mustNotField, structuresField],
      field = { key := "recursion_depth" } ∨ field.key ≠ "recursion_depth" := by
    simp [depthField, goalField, mustField, mustNotField, structuresField]
  have hfilled : Checked.strangers [depthField, goalField, mustField, mustNotField,
      structuresField] (gap.filled value) = [] :=
    (Checked.strangers_filled gap value List.mem_cons_self hothers).mpr hstrange
  rw [check_object_eq_ok_iff, hfilled]
  simp only [gap.get?_filled, String.reduceEq, if_true, if_false, and_true]
  constructor
  · rintro ⟨hdepth, hgoal', hmust', hmustNot', hstructures'⟩
    refine ⟨found.depth, hdepth, ?_⟩
    rw [← hgoal.unique hgoal', ← hmust.unique hmust', ← hmustNot.unique hmustNot',
      ← hstructures.unique hstructures']
  · rintro ⟨depth, hdepth, rfl⟩
    exact ⟨hdepth, hgoal, hmust, hmustNot, hstructures⟩

theorem check_filled_eq_ok_iff (h : check bounds (.object gap.rest) = .ok document) :
    check bounds (.object (gap.filled value)) = .ok found ↔
      (∃ depth : Depth, (value = .int depth.val ∨ value.Passes depth.val) ∧
        found = { document with depth := some depth }) ∨
      value = .null ∧ found = { document with depth := none } := by
  rw [check_filled_eq_ok_iff_read h]
  simp only [orNull_checkDepth_eq_ok_iff]
  constructor
  · rintro ⟨_, ⟨depth, hvalue, rfl⟩ | ⟨hvalue, rfl⟩, hfound⟩
    · exact .inl ⟨depth, hvalue, hfound⟩
    · exact .inr ⟨hvalue, hfound⟩
  · rintro (⟨depth, hvalue, hfound⟩ | ⟨hvalue, hfound⟩)
    · exact ⟨_, .inl ⟨depth, hvalue, rfl⟩, hfound⟩
    · exact ⟨_, .inr ⟨hvalue, rfl⟩, hfound⟩

end Document

/-! ## Settings and engines -/

namespace Settings

variable {bounds : Bounds} {gap : Members.Gap "recursion_depth"} {value : Value} {root : Path}
  {settings found : Settings}

/-- A project file whose section is a table with some members. -/
def HoldsSection (tree : FileTree) (here : List String) (path : Path) (members : Members) : Prop :=
  ∃ project tool, Holds tree here path project ∧ project.get? "tool" = some (.object tool) ∧
    Members.get? tool "proctor" = some (.object members)

theorem load_of_holdsSection {tree : FileTree} {here : List String} {path : Path}
    {members : Members} (h : HoldsSection tree here path members) :
    load bounds tree here path = ofTable bounds path.parent members := by
  obtain ⟨project, tool, hholds, htool, hsection⟩ := h
  rw [load_of_holds hholds, ofProject_of_section bounds path.parent htool hsection,
    ofSection_object]

/-- A table with a value in the place of the depth gives settings if the rest of it does and the
value is a positive integer. -/
theorem ofTable_filled_eq_ok_iff (h : ofTable bounds root gap.rest = .ok settings) :
    ofTable bounds root (gap.filled value) = .ok found ↔
      ∃ depth : Depth, value = .int depth.val ∧ found = { settings with depth := some depth } := by
  have hrequirements : requirementsIn root (gap.filled value) = requirementsIn root gap.rest := by
    rw [requirementsIn, requirementsIn, gap.get?_filled, if_neg (by decide)]
  have hgoal : goalIn bounds (gap.filled value) = goalIn bounds gap.rest := by
    rw [goalIn, goalIn, gap.get?_filled, if_neg (by decide)]
  -- The other settings stand under other keys, so only this one sees the value.
  have hdepth : ∀ taken, depthIn bounds (gap.filled value) = .ok taken ↔
      ∃ depth : Depth, value = .int depth.val ∧ taken = some depth := by
    intro taken
    rw [depthIn_eq, gap.get?_filled, if_pos rfl,
      settingIn_eq_ok_iff fun _ _ => Depth.ofValue?_eq_some_iff]
    cases taken <;> simp
  simp only [ofTable, bind_eq_ok_iff] at h ⊢
  obtain ⟨⟨⟩, hkeys, requirements, hpath, depth, -, goal, hword, hmade⟩ := h
  have hknown : checkKeys ((gap.filled value).map (·.1)) = .ok () := by
    rw [checkKeys_eq_ok_iff, List.forall_mem_map] at hkeys ⊢
    intro member hmember
    rcases Members.Gap.mem_filled.mp hmember with rfl | hrest
    · exact List.mem_cons_of_mem _ List.mem_cons_self
    · exact hkeys member hrest
  cases hmade
  constructor
  · rintro ⟨⟨⟩, -, path, hfound, taken, htaken, word, hfoundWord, hmake⟩
    cases hpath.symm.trans (hrequirements ▸ hfound)
    cases hword.symm.trans (hgoal ▸ hfoundWord)
    cases hmake
    obtain ⟨depth, hvalue, rfl⟩ := (hdepth taken).mp htaken
    exact ⟨depth, hvalue, rfl⟩
  · rintro ⟨depth, hvalue, rfl⟩
    exact ⟨(), hknown, requirements, hrequirements ▸ hpath, some depth,
      (hdepth _).mpr ⟨depth, hvalue, rfl⟩, goal, hgoal ▸ hword, rfl⟩

end Settings

theorem Engine.setDepth_eq_quiet_iff {bounds : Bounds} {engine found : Engine} {value : Value} :
    engine.setDepth bounds value = .quiet found ↔
      ∃ depth : Depth, value = .int depth.val ∧ found = { engine with depth } := by
  rw [(tolerant_setDepth bounds).eq_quiet_iff reads_depth]
  simp only [DepthFits, eq_comm]

namespace Depth

/-- The settings of a project and the setter of an engine take the positive integers and nothing
else. A document takes these and what passes for one, and null for no depth. So apart from null,
which no file can hold, all three agree on a value unless it passes for a positive integer. -/
theorem readers_agree_iff (bounds : Bounds) (value : Value) (engine : Engine) {document : Document}
    {documentGap : Members.Gap "recursion_depth"}
    (hdocument : Document.check bounds (.object documentGap.rest) = .ok document)
    {tree : FileTree} {here : List String} {path : Path} {settings : Settings}
    {settingsGap : Members.Gap "recursion_depth"}
    (hsettings : Settings.ofTable bounds path.parent settingsGap.rest = .ok settings)
    (hsection : Settings.HoldsSection tree here path (settingsGap.filled value)) :
    (∀ found, Settings.load bounds tree here path = .ok found ↔
      ∃ depth : Depth, value = .int depth.val ∧ found = { settings with depth := some depth }) ∧
    (∀ found, engine.setDepth bounds value = .quiet found ↔
      ∃ depth : Depth, value = .int depth.val ∧ found = { engine with depth }) ∧
    (∀ found, Document.check bounds (.object (documentGap.filled value)) = .ok found ↔
      (∃ depth : Depth, (value = .int depth.val ∨ value.Passes depth.val) ∧
        found = { document with depth := some depth }) ∨
      value = .null ∧ found = { document with depth := none }) ∧
    (value ≠ .null →
      (((∃ found, Document.check bounds (.object (documentGap.filled value)) = .ok found) ↔
          ∃ found, Settings.load bounds tree here path = .ok found) ↔
        ∀ depth : Depth, ¬value.Passes depth.val)) := by
  have hload : ∀ found, Settings.load bounds tree here path = .ok found ↔
      ∃ depth : Depth, value = .int depth.val ∧ found = { settings with depth := some depth } := by
    intro found
    rw [Settings.load_of_holdsSection hsection]
    exact Settings.ofTable_filled_eq_ok_iff hsettings
  refine ⟨hload, fun found => Engine.setDepth_eq_quiet_iff,
    fun found => Document.check_filled_eq_ok_iff hdocument, fun hnull => ?_⟩
  simp only [hload, Document.check_filled_eq_ok_iff hdocument, hnull, false_and, or_false]
  constructor
  · -- The document takes what passes for an integer, and an integer does not.
    intro hagree depth hpasses
    obtain ⟨_, other, rfl, -⟩ := hagree.mp ⟨_, depth, .inr hpasses, rfl⟩
    cases hpasses
  · intro hnone
    constructor
    · rintro ⟨_, depth, hvalue | hpasses, -⟩
      · exact ⟨_, depth, hvalue, rfl⟩
      · exact absurd hpasses (hnone depth)
    · rintro ⟨_, depth, hvalue, -⟩
      exact ⟨_, depth, .inl hvalue, rfl⟩

/-- A place for the depth of a document, among other members. -/
def loopGap : Members.Gap "recursion_depth" where
  before := [("must", .strings ["ForStatement"])]
  after := [("must_not", .strings ["WhileStatement"])]
  free := by decide

/-- A place for the depth of settings, among the other two. -/
def fullGap : Members.Gap "recursion_depth" where
  before := [("requirements", .string "r.toml")]
  after := [("source_type", .string "module")]
  free := by decide

theorem readers_agree_five :
    Document.check ⟨4, 4, 4⟩ (.object loopGap.rest) =
      .ok { must := ["ForStatement"], mustNot := ["WhileStatement"] } ∧
    Settings.ofTable ⟨4, 4, 4⟩ ⟨.root, []⟩ fullGap.rest =
      .ok ⟨some ⟨.root, ["r.toml"]⟩, none, some .module, some ⟨.root, []⟩⟩ ∧
    Settings.HoldsSection (Settings.treeOf Settings.fullText) []
      ⟨.root, [Settings.projectFile]⟩ (fullGap.filled (.int 5)) ∧
    Document.check ⟨4, 4, 4⟩ (.object (loopGap.filled (.int 5))) = .ok
      { depth := some { val := 5 }, must := ["ForStatement"], mustNot := ["WhileStatement"] } ∧
    Settings.load ⟨4, 4, 4⟩ (Settings.treeOf Settings.fullText) [] ⟨.root, [Settings.projectFile]⟩ =
      .ok ⟨some ⟨.root, ["r.toml"]⟩, some { val := 5 }, some .module, some ⟨.root, []⟩⟩ ∧
    ({} : Engine).setDepth ⟨4, 4, 4⟩ (.int 5) = .quiet { depth := { val := 5 } } := by
  have hdocument : Document.check ⟨4, 4, 4⟩ (.object loopGap.rest) =
      .ok { must := ["ForStatement"], mustNot := ["WhileStatement"] } := by rfl
  have hsettings : Settings.ofTable ⟨4, 4, 4⟩ (Path.parent ⟨.root, [Settings.projectFile]⟩)
      fullGap.rest = .ok ⟨some ⟨.root, ["r.toml"]⟩, none, some .module, some ⟨.root, []⟩⟩ := by rfl
  have hsection : Settings.HoldsSection (Settings.treeOf Settings.fullText) []
      ⟨.root, [Settings.projectFile]⟩ (fullGap.filled (.int 5)) :=
    ⟨_, _, Settings.holds_fullText, rfl, rfl⟩
  obtain ⟨hload, hengine, hcheck, -⟩ :=
    readers_agree_iff ⟨4, 4, 4⟩ (.int 5) {} hdocument hsettings hsection
  exact ⟨hdocument, hsettings, hsection,
    (hcheck _).mpr (.inl ⟨{ val := 5 }, .inl rfl, rfl⟩),
    (hload _).mpr ⟨{ val := 5 }, rfl, rfl⟩, (hengine _).mpr ⟨{ val := 5 }, rfl, rfl⟩⟩

/-- A section in which the depth is a truth value. -/
def trueText : String := "[tool.proctor]\nrecursion_depth = true\n"

theorem holds_trueText : Settings.Holds (Settings.treeOf trueText) []
    ⟨.root, [Settings.projectFile]⟩
    [("tool", .object [("proctor", .object [("recursion_depth", .bool true)])])] :=
  Settings.holds_treeOf (by decide +kernel)

/-- A document takes `true` for a depth of one. The settings and the setter refuse it. -/
theorem readers_disagree_true :
    Document.check ⟨4, 4, 4⟩ (.object [("recursion_depth", .bool true)]) =
      .ok { depth := some { val := 1 } } ∧
    Settings.load ⟨4, 4, 4⟩ (Settings.treeOf trueText) [] ⟨.root, [Settings.projectFile]⟩ =
      .error (.invalidDepth "True") ∧
    ({} : Engine).setDepth ⟨4, 4, 4⟩ (.bool true) = ⟨.ok {}, [.depth (.bool true) .standard]⟩ := by
  refine ⟨rfl, Settings.load_of_holds holds_trueText, ?_⟩
  refine (Engine.ignores_setDepth rfl {}).eq_of_ne ?_
  rw [Value.shown]
  rintro ⟨⟩

end Depth

end Rubric
