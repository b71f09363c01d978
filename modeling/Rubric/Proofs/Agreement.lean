import Rubric.Document
import Rubric.Proofs.Setters

/-!
# Documents and setters

A document is read strictly, and the setters of a requirement set are tolerant, but both accept the
same values: `check_agrees` states that the members of a sound document go through the setters
without a warning and give the requirements of the document, and that members which go through the
setters without a warning make a sound document, as long as no other key and no second spelling of
one stands beside them.
-/

namespace Rubric

/-! ## One collection -/

theorem Checked.items_text_eq_ok_iff {value : Value} {types : List String} :
    items text value = .ok types ↔ value = .strings types := by
  simp only [items_eq_ok_iff, text_eq_ok_iff]
  constructor
  · rintro ⟨values, rfl, h⟩
    rw [Value.strings, Value.array.injEq, ← List.forall₂_eq_eq_eq, List.forall₂_map_right_iff]
    exact h
  · rintro rfl
    refine ⟨_, rfl, ?_⟩
    rw [List.forall₂_map_left_iff, List.forall₂_same]
    exact fun _ _ => rfl

theorem Checked.items_requirement_eq_ok_iff {bounds : Bounds} {value : Value}
    {requirements : List Requirement} :
    items (Requirement.check bounds.readRequirements) value = .ok requirements ↔
      StructuresFit bounds value requirements := by
  simp only [items_eq_ok_iff, Requirement.check_eq_ok_iff]
  exact exists_congr fun _ => and_congr_right fun _ => ⟨.flip, .flip⟩

namespace RequirementSet

open Checked (items text)
open Checked.Field (ReadsAs)

variable {bounds : Bounds} {set next : RequirementSet} {members : Members}

theorem setMust_eq_quiet_iff {value : Value} : set.setMust bounds value = .quiet next ↔
    ∃ types, items text value = .ok types ∧ { set with must := types } = next := by
  simp only [Checked.items_text_eq_ok_iff]
  exact (tolerant_setMust bounds).eq_quiet_iff reads_types

theorem setMustNot_eq_quiet_iff {value : Value} : set.setMustNot bounds value = .quiet next ↔
    ∃ types, items text value = .ok types ∧ { set with mustNot := types } = next := by
  simp only [Checked.items_text_eq_ok_iff]
  exact (tolerant_setMustNot bounds).eq_quiet_iff reads_types

theorem setStructures_eq_quiet_iff {value : Value} : set.setStructures bounds value = .quiet next ↔
    ∃ requirements, items (Requirement.check bounds.readRequirements) value = .ok requirements ∧
      { set with structures := requirements } = next := by
  simp only [Checked.items_requirement_eq_ok_iff]
  exact (tolerant_setStructures bounds).eq_quiet_iff (reads_structures bounds)

/-- If a setter reads a value as `read` does, then so does the setter for what is under a key. What
the set has already is kept if the key is absent. -/
theorem setFrom_eq_quiet_iff {α : Type} {apply : RequirementSet → Given → Noted RequirementSet}
    {read : Value → Checked α} {put : RequirementSet → α → RequirementSet}
    {part : RequirementSet → α} (hpart : ∀ set, put set (part set) = set)
    (hquiet : ∀ {set next : RequirementSet} {value : Value}, apply set value = .quiet next ↔
      ∃ x, read value = .ok x ∧ put set x = next) (key : String) :
    setFrom members key apply set = .quiet next ↔
      ∃ x, ReadsAs read (part set) (members.get? key) x ∧ put set x = next := by
  unfold setFrom
  cases members.get? key with
  | some value => exact hquiet
  | none => simp [ReadsAs, Noted.quiet, hpart]

theorem ofMembers_eq_quiet_iff : ofMembers bounds members = .quiet next ↔
    ReadsAs (items text) [] (members.get? "must") next.must ∧
    (∃ first, ReadsAs (items text) [] (members.get? "mustNot") first ∧
      ReadsAs (items text) first (members.get? "must_not") next.mustNot) ∧
    ReadsAs (items (Requirement.check bounds.readRequirements)) [] (members.get? "structure")
      next.structures := by
  unfold ofMembers
  simp only [Noted.bind_eq_quiet_iff,
    setFrom_eq_quiet_iff (fun _ => rfl) setMust_eq_quiet_iff,
    setFrom_eq_quiet_iff (fun _ => rfl) setMustNot_eq_quiet_iff,
    setFrom_eq_quiet_iff (fun _ => rfl) setStructures_eq_quiet_iff]
  constructor
  · rintro ⟨_, ⟨must, hmust, rfl⟩, _, ⟨first, hfirst, rfl⟩, _, ⟨mustNot, hmustNot, rfl⟩,
      structures, hstructures, rfl⟩
    exact ⟨hmust, ⟨first, hfirst, hmustNot⟩, hstructures⟩
  · rintro ⟨hmust, ⟨first, hfirst, hmustNot⟩, hstructures⟩
    exact ⟨_, ⟨_, hmust, rfl⟩, _, ⟨first, hfirst, rfl⟩, _, ⟨_, hmustNot, rfl⟩, _, hstructures, rfl⟩

end RequirementSet

/-! ## Documents -/

namespace Document

open Checked (items text)
open Checked.Field (ReadsAs)

variable {bounds : Bounds} {members : Members} {document : Document}

theorem check_object_eq_ok_iff : check bounds (.object members) = .ok document ↔
    ReadsAs (Checked.orNull checkDepth) none (members.get? "recursion_depth") document.depth ∧
    ReadsAs (Checked.orNull checkGoal) none (members.get? "source_type") document.goal ∧
    ReadsAs (items text) [] (members.get? "must") document.must ∧
    ReadsAs (items text) [] ((members.get? "mustNot").or (members.get? "must_not"))
      document.mustNot ∧
    ReadsAs (items (Requirement.check bounds.readRequirements)) [] (members.get? "structure")
      document.structures ∧
    Checked.strangers [depthField, goalField, mustField, mustNotField, structuresField]
      members = [] := by
  obtain ⟨depth, goal, must, mustNot, structures⟩ := document
  rw [check, checkMembers]
  simp only [Checked.butFor_eq_ok_iff, Checked.apply_eq_ok_iff, Checked.map_eq_ok_iff,
    Checked.Field.optional_eq_ok_iff, depthField, goalField, mustField, mustNotField,
    structuresField, Checked.Field.held?_alone, Checked.Field.held?_either]
  constructor
  · rintro ⟨⟨_, _, ⟨_, _, ⟨_, _, ⟨_, _, ⟨_, hdepth, rfl⟩, hgoal, rfl⟩, hmust, rfl⟩, hmustNot, rfl⟩,
      hstructures, hmk⟩, hstrange⟩
    cases hmk
    exact ⟨hdepth, hgoal, hmust, hmustNot, hstructures, hstrange⟩
  · rintro ⟨hdepth, hgoal, hmust, hmustNot, hstructures, hstrange⟩
    exact ⟨⟨_, _, ⟨_, _, ⟨_, _, ⟨_, _, ⟨_, hdepth, rfl⟩, hgoal, rfl⟩, hmust, rfl⟩, hmustNot, rfl⟩,
      hstructures, rfl⟩, hstrange⟩

theorem has_must_not_eq_false (h : Checked.strangers
      [depthField, goalField, mustField, mustNotField, structuresField] members = [])
    (hcamel : members.has "mustNot" = true) : members.has "must_not" = false := by
  refine Bool.eq_false_iff.mpr fun hsnake => ?_
  obtain ⟨member, hmember, hname⟩ := Members.has_eq_true_iff.mp hsnake
  have hused := Checked.strangers_eq_nil_iff.mp h member hmember
  simp [hname, Checked.Field.keyIn?_eq_some_iff, depthField, goalField, mustField, mustNotField,
    structuresField, hcamel] at hused

/-- Without other keys, and without both spellings of one field, there are no strangers. -/
theorem strangers_eq_nil (hkeys : ∀ member ∈ members, member.1 ∈ RequirementSet.keys)
    (hboth : members.has "mustNot" = true → members.has "must_not" = false) :
    Checked.strangers [depthField, goalField, mustField, mustNotField, structuresField]
      members = [] := by
  refine Checked.strangers_eq_nil_iff.mpr fun member hmember => ?_
  have hhas : members.has member.1 = true := Members.has_eq_true_iff.mpr ⟨member, hmember, rfl⟩
  have hkey := hkeys member hmember
  simp only [RequirementSet.keys, List.mem_cons, List.not_mem_nil, or_false] at hkey
  rcases hkey with hkey | hkey | hkey | hkey
  · exact ⟨mustField, by simp, Checked.Field.keyIn?_eq_some_iff.mpr ⟨.inl hkey.symm, hhas⟩⟩
  · exact ⟨mustNotField, by simp, Checked.Field.keyIn?_eq_some_iff.mpr ⟨.inl hkey.symm, hhas⟩⟩
  · refine ⟨mustNotField, by simp, Checked.Field.keyIn?_eq_some_iff.mpr ⟨.inr ⟨?_, ?_⟩, hhas⟩⟩
    · rw [hkey] at hhas
      exact Bool.eq_false_iff.mpr fun hcamel => by simp [hboth hcamel] at hhas
    · exact congrArg some hkey.symm
  · exact ⟨structuresField, by simp, Checked.Field.keyIn?_eq_some_iff.mpr ⟨.inl hkey.symm, hhas⟩⟩

/-- With at most one spelling, one reading after the other is the reading of the one that is
there. -/
theorem readsAs_or_iff {mustNot : List String}
    (hboth : members.has "mustNot" = true → members.has "must_not" = false) :
    (∃ first, ReadsAs (items text) [] (members.get? "mustNot") first ∧
      ReadsAs (items text) first (members.get? "must_not") mustNot) ↔
    ReadsAs (items text) [] ((members.get? "mustNot").or (members.get? "must_not")) mustNot := by
  cases hcamel : members.get? "mustNot" with
  | none => simp [ReadsAs]
  | some value =>
      have hsnake := Members.get?_eq_none_iff.mpr (hboth (Members.has_of_get?_eq_some hcamel))
      simp [hsnake, ReadsAs]

theorem get?_eq_none_of_keys (hkeys : ∀ member ∈ members, member.1 ∈ RequirementSet.keys)
    {key : String} (hkey : key ∉ RequirementSet.keys) : members.get? key = none := by
  rw [Members.get?_eq_none_iff]
  refine Bool.eq_false_iff.mpr fun hhas => hkey ?_
  obtain ⟨member, hmember, rfl⟩ := Members.has_eq_true_iff.mp hhas
  exact hkeys member hmember

def requirements (document : Document) : RequirementSet :=
  ⟨document.must, document.mustNot, document.structures⟩

/-- The requirements of a document go through the setters quietly and whole. -/
theorem toSet_eq (document : Document) : document.toSet bounds = .quiet document.requirements :=
  RequirementSet.ofGiven_held _ _ _

/-- Strict and tolerant reading agree. The requirements of a sound document go through the setters
without a warning and without a loss, and so do its members. Members that the setters take without a
warning make a sound document, if they have no other key and not both spellings of one. -/
theorem check_agrees (bounds : Bounds) (members : Members) :
    (∀ document, check bounds (.object members) = .ok document →
      document.toSet bounds = .quiet ⟨document.must, document.mustNot, document.structures⟩ ∧
      RequirementSet.ofMembers bounds members =
        .quiet ⟨document.must, document.mustNot, document.structures⟩) ∧
    ((∀ member ∈ members, member.1 ∈ RequirementSet.keys) →
      ¬ (members.has "mustNot" = true ∧ members.has "must_not" = true) →
      ∀ set, RequirementSet.ofMembers bounds members = .quiet set →
      ∃ document, check bounds (.object members) = .ok document) := by
  constructor
  · intro document h
    -- A second spelling would be a stranger, so the setter that comes last has nothing to undo.
    obtain ⟨-, -, hmust, hmustNot, hstructures, hstrange⟩ := check_object_eq_ok_iff.mp h
    refine ⟨toSet_eq document, RequirementSet.ofMembers_eq_quiet_iff.mpr ?_⟩
    exact ⟨hmust, (readsAs_or_iff (has_must_not_eq_false hstrange)).mpr hmustNot, hstructures⟩
  · intro hkeys hnot set hmade
    have hboth : members.has "mustNot" = true → members.has "must_not" = false :=
      fun hcamel => Bool.eq_false_iff.mpr fun hsnake => hnot ⟨hcamel, hsnake⟩
    obtain ⟨hmust, hmustNot, hstructures⟩ := RequirementSet.ofMembers_eq_quiet_iff.mp hmade
    refine ⟨⟨none, none, set.must, set.mustNot, set.structures⟩, check_object_eq_ok_iff.mpr ?_⟩
    refine ⟨?_, ?_, hmust, (readsAs_or_iff hboth).mp hmustNot, hstructures,
      strangers_eq_nil hkeys hboth⟩
    · rw [get?_eq_none_of_keys hkeys (by decide)]
      rfl
    · rw [get?_eq_none_of_keys hkeys (by decide)]
      rfl

/-- A table with a nested structure and the second spelling. -/
def loopTable : Members :=
  [("structure", .array [.object [("parent_type", .string "ForStatement"), ("contains",
      .array [.string "CallExpression", .object [("type", .string "IfStatement")]])]]),
    ("must_not", .strings ["WhileStatement", "WhileStatement"])]

theorem check_loopTable_agrees :
    ∃ document, check ⟨3, 3, 2⟩ (.object loopTable) = .ok document ∧
      document.toSet ⟨3, 3, 2⟩ = .quiet ⟨[], ["WhileStatement", "WhileStatement"],
        [⟨"ForStatement", [.type "CallExpression", .nested "IfStatement" []]⟩]⟩ := by
  obtain ⟨document, h⟩ := (check_agrees ⟨3, 3, 2⟩ loopTable).2 (by decide) (by decide) _ rfl
  obtain ⟨hset, hmembers⟩ := (check_agrees ⟨3, 3, 2⟩ loopTable).1 document h
  exact ⟨document, h, hset.trans hmembers.symm⟩

end Document

end Rubric
