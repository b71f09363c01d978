import Rubric.RequirementSet

/-!
# What requirements mention

A requirement mentions a type if an entry inside it, at any level, asks for it
(`Entry.exists_inside_of_mem_nodeTypes`), and a requirement set mentions a type if one of its
requirements does (`RequirementSet.mem_nodeTypes_iff`). A vocabulary tells of mentioned types which
it does not know and which it knows to hold no statements.
-/

namespace Rubric

/-! ## Vocabularies -/

namespace Vocabulary

theorem mem_sortedDistinct {text : String} {texts : List String} :
    text ∈ sortedDistinct texts ↔ text ∈ texts := by
  rw [sortedDistinct, List.mem_mergeSort, List.mem_eraseDups]

theorem mem_unknownTypes_iff {vocabulary : Vocabulary} {type : String} {types : List String} :
    type ∈ vocabulary.unknownTypes types ↔ type ∈ types ∧ vocabulary.knows type = false := by
  rw [unknownTypes, mem_sortedDistinct, List.mem_filter, Bool.not_eq_true']

theorem mem_nonStructuralTypes_iff {vocabulary : Vocabulary} {type : String}
    {types : List String} :
    type ∈ vocabulary.nonStructuralTypes types ↔
      type ∈ types ∧ ∃ kind, vocabulary.find? type = some kind ∧ kind.structural = false := by
  rw [nonStructuralTypes, mem_sortedDistinct, List.mem_filter]
  cases vocabulary.find? type with
  | none => simp
  | some kind => simp

theorem mem_kinds_of_find?_eq_some {vocabulary : Vocabulary} {type : String} {kind : Kind}
    (h : vocabulary.find? type = some kind) : kind ∈ vocabulary.kinds ∧ kind.name = type := by
  rw [find?] at h
  have hname := List.find?_some h
  exact ⟨List.mem_of_find?_eq_some h, eq_of_beq hname⟩

end Vocabulary

/-! ## Entries inside an entry -/

namespace Entry

/-- The type that an entry asks a statement to have. -/
def asked : Entry → String
  | .type name => name
  | .nested parent _ => parent

/-- An entry is inside another if it is that entry or is inside one that it contains. -/
inductive Inside : Entry → Entry → Prop
  | self {entry : Entry} : Inside entry entry
  | member {inner entry : Entry} (parent : String) {contains : List Entry}
      (mem : entry ∈ contains) (inside : Inside inner entry) :
      Inside inner (.nested parent contains)

theorem mem_nodeTypesOfList {name : String} {entries : List Entry} :
    name ∈ nodeTypesOfList entries ↔ ∃ entry ∈ entries, name ∈ entry.nodeTypes := by
  induction entries with
  | nil => simp [nodeTypesOfList]
  | cons entry entries ih => simp [nodeTypesOfList, ih]

/-- A type that an entry mentions is asked for by an entry inside it. -/
theorem exists_inside_of_mem_nodeTypes {name : String} : (entry : Entry) →
    name ∈ entry.nodeTypes → ∃ inner : Entry, inner.Inside entry ∧ inner.asked = name
  | .type other, h => by
      rw [nodeTypes, List.mem_singleton] at h
      exact ⟨.type other, .self, h.symm⟩
  | .nested parent contains, h => by
      rw [nodeTypes, List.mem_cons, mem_nodeTypesOfList] at h
      rcases h with rfl | ⟨entry, hentry, hname⟩
      · exact ⟨.nested name contains, .self, rfl⟩
      · obtain ⟨inner, hinside, hasked⟩ := exists_inside_of_mem_nodeTypes entry hname
        exact ⟨inner, .member parent hentry hinside, hasked⟩

end Entry

/-! ## Requirement sets -/

theorem RequirementSet.mem_nodeTypes_iff {set : RequirementSet} {name : String} :
    name ∈ set.nodeTypes ↔ name ∈ set.must ∨ name ∈ set.mustNot ∨
      ∃ requirement ∈ set.structures, name ∈ requirement.nodeTypes := by
  rw [nodeTypes, Vocabulary.mem_sortedDistinct, List.mem_append, List.mem_append, List.mem_flatMap,
    or_assoc]

end Rubric
