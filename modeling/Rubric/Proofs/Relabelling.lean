import Rubric.Grading
import Rubric.Proofs.Assignment
import Rubric.Proofs.Counting
import Rubric.Proofs.Mention

/-!
# Grading what has been relabelled

The types of a tree may be replaced by others, as long as those that the requirements mention stay
as they are and no other type becomes one of them. `Grading.tree_relabel` states that this makes no
difference to a report. So grading looks at no type beyond those that the requirement set lists as
mentioned: what it says of a tree is decided by where the mentioned types stand in it.

All that grading ever asks of a type is whether it is a given mentioned one. A relabelling that
`Preserves` some types gives the same answer before and after for each of them. This is inherited by
the types of a single requirement and of the entries inside it, down to which the proof goes.
-/

namespace Rubric

/-- A tree in which every node has got the type that a function gives for its own. -/
def Node.relabel (label : String → String) : Node → Node
  | .node type children => .node (label type) (children.map (Node.relabel label))

/-- A relabelling preserves some types if exactly the nodes of such a type have it afterwards. -/
def Preserves (label : String → String) (types : List String) : Prop :=
  ∀ name ∈ types, ∀ type, label type = name ↔ type = name

namespace Preserves

variable {label : String → String} {types : List String}

/-- Types are preserved if they are left as they are and no other type becomes one of them. -/
theorem of_fixed (hfixed : ∀ type ∈ types, label type = type)
    (hapart : ∀ type, type ∉ types → label type ∉ types) : Preserves label types := by
  intro name hname type
  constructor
  · intro hlabel
    by_cases htype : type ∈ types
    · rw [← hlabel, hfixed type htype]
    · exact absurd (hlabel ▸ hname) (hapart type htype)
  · rintro rfl
    exact hfixed type hname

theorem mono (h : Preserves label types) {others : List String}
    (hsub : ∀ name ∈ others, name ∈ types) : Preserves label others :=
  fun name hname => h name (hsub name hname)

end Preserves

namespace Node

variable {label : String → String}

@[simp] theorem relabel_type (node : Node) : (node.relabel label).type = label node.type := by
  cases node with
  | node type children =>
      rw [relabel]
      rfl

@[simp] theorem relabel_children (node : Node) :
    (node.relabel label).children = node.children.map (relabel label) := by
  cases node with
  | node type children =>
      rw [relabel]
      rfl

theorem preorder_relabel (depth : Nat) (nodes : List Node) :
    preorder depth (nodes.map (relabel label)) = (preorder depth nodes).map (relabel label) := by
  induction depth generalizing nodes with
  | zero => rfl
  | succ depth ih =>
      simp only [preorder, List.flatMap_map, List.map_flatMap, List.map_cons, relabel_children, ih]

theorem count_relabel {types : List String} (h : Preserves label types) {name : String}
    (hname : name ∈ types) (nodes : List Node) :
    ((nodes.map (relabel label)).map Node.type).count name = (nodes.map Node.type).count name := by
  induction nodes with
  | nil => rfl
  | cons node nodes ih =>
      simp only [List.map_cons, List.count_cons, relabel_type, ih, beq_iff_eq,
        h name hname node.type]

end Node

/-! ## Structure requirements -/

namespace Matching

variable {label : String → String}

theorem seating_relabel_iff {entries : List Entry}
    (h : ∀ entry ∈ entries, ∀ node : Node, (node.relabel label).Fits entry ↔ node.Fits entry)
    (body : List Node) (seats : List Nat) :
    Seating (body.map (Node.relabel label)) entries seats ↔ Seating body entries seats := by
  have hseat : ∀ entry ∈ entries, ∀ seat : Nat,
      (∃ child, (body.map (Node.relabel label))[seat]? = some child ∧ child.Fits entry) ↔
        ∃ child, body[seat]? = some child ∧ child.Fits entry := by
    intro entry hentry seat
    simp only [List.getElem?_map, Option.map_eq_some_iff]
    constructor
    · rintro ⟨_, ⟨child, hchild, rfl⟩, hfits⟩
      exact ⟨child, hchild, (h entry hentry child).mp hfits⟩
    · rintro ⟨child, hchild, hfits⟩
      exact ⟨child.relabel label, ⟨child, hchild, rfl⟩, (h entry hentry child).mpr hfits⟩
  constructor
  · rintro ⟨hseated, hapart⟩
    exact ⟨(forall₂_congr_of_mem hseat seats).mp hseated, hapart⟩
  · rintro ⟨hseated, hapart⟩
    exact ⟨(forall₂_congr_of_mem hseat seats).mpr hseated, hapart⟩

end Matching

namespace Node

variable {label : String → String}

theorem satisfies_relabel_iff_of_fits {entries : List Entry}
    (h : ∀ entry ∈ entries, ∀ node : Node, (node.relabel label).Fits entry ↔ node.Fits entry)
    (node : Node) : (node.relabel label).Satisfies entries ↔ node.Satisfies entries := by
  rw [Matching.satisfies_iff_exists_seating, Matching.satisfies_iff_exists_seating,
    relabel_children]
  exact exists_congr fun seats => Matching.seating_relabel_iff h node.children seats

/-- Relabelling does not change which statements fit an entry whose types are preserved. -/
theorem fits_relabel_iff : (entry : Entry) → Preserves label entry.nodeTypes →
    ∀ statement : Node, (statement.relabel label).Fits entry ↔ statement.Fits entry
  | .type name, h, statement => by
      rw [Fits, Fits, relabel_type]
      exact h name (List.mem_singleton_self name) statement.type
  | .nested parent contains, h, statement => by
      have hcontains : ∀ entry ∈ contains, ∀ node : Node,
          (node.relabel label).Fits entry ↔ node.Fits entry := by
        intro entry hentry
        refine fits_relabel_iff entry (h.mono fun name hname => ?_)
        rw [Entry.nodeTypes]
        exact List.mem_cons_of_mem _ (Entry.mem_nodeTypesOfList.mpr ⟨entry, hentry, hname⟩)
      rw [Fits, Fits, relabel_type, satisfies_relabel_iff_of_fits hcontains]
      exact and_congr_left fun _ => h parent List.mem_cons_self statement.type

end Node

theorem Requirement.holdsAmong_relabel {label : String → String} {requirement : Requirement}
    (h : Preserves label requirement.nodeTypes) (nodes : List Node) :
    requirement.holdsAmong (nodes.map (Node.relabel label)) = requirement.holdsAmong nodes := by
  have hfits : ∀ node : Node, (node.relabel label).Fits requirement.entry ↔
      node.Fits requirement.entry := Node.fits_relabel_iff requirement.entry h
  rw [Bool.eq_iff_iff, holdsAmong_iff, holdsAmong_iff]
  constructor
  · rintro ⟨_, hmem, hholds⟩
    obtain ⟨node, hnode, rfl⟩ := List.mem_map.mp hmem
    exact ⟨node, hnode, (hfits node).mp hholds⟩
  · rintro ⟨node, hnode, hholds⟩
    exact ⟨node.relabel label, List.mem_map_of_mem hnode, (hfits node).mpr hholds⟩

/-! ## Reports -/

namespace Grading

variable {label : String → String}

theorem mustItems_relabel {types : List String} (h : Preserves label types) (nodes : List Node) :
    mustItems types (nodes.map (Node.relabel label)) = mustItems types nodes := by
  have htally : Matching.tally types (nodes.map (Node.relabel label)) =
      Matching.tally types nodes :=
    Matching.tally_congr fun name hname => Node.count_relabel h hname nodes
  rw [mustItems, mustItems, Matching.types_eq_tally, Matching.types_eq_tally, htally]

theorem mustNotItems_relabel {types : List String} (h : Preserves label types)
    (nodes : List Node) :
    mustNotItems types (nodes.map (Node.relabel label)) = mustNotItems types nodes := by
  rw [mustNotItems, mustNotItems]
  refine List.map_congr_left fun name hname => ?_
  have hfound : (nodes.map (Node.relabel label)).any (·.type == name) =
      nodes.any (·.type == name) := by
    rw [List.any_map, Bool.eq_iff_iff]
    simp only [List.any_eq_true, Function.comp_apply, Node.relabel_type, beq_iff_eq,
      h name hname]
  simp only [hfound]

theorem structureItems_relabel {requirements : List Requirement}
    (h : ∀ requirement ∈ requirements, Preserves label requirement.nodeTypes)
    (nodes : List Node) :
    structureItems requirements (nodes.map (Node.relabel label)) =
      structureItems requirements nodes := by
  rw [structureItems, structureItems]
  refine List.map_congr_left fun requirement hrequirement => ?_
  simp only [Requirement.holdsAmong_relabel (h requirement hrequirement)]

/-- A report depends on a tree only through the types that the requirements mention: if these are
left as they are and no other type becomes one of them, the report stays the same, texts
included. -/
theorem tree_relabel (set : RequirementSet) (depth : Depth) (root : Node) {label : String → String}
    (hfixed : ∀ type ∈ set.nodeTypes, label type = type)
    (hapart : ∀ type, type ∉ set.nodeTypes → label type ∉ set.nodeTypes) :
    tree set depth (root.relabel label) = tree set depth root := by
  have hall := Preserves.of_fixed hfixed hapart
  have hmust : Preserves label set.must :=
    hall.mono fun _ hname => RequirementSet.mem_nodeTypes_iff.mpr (Or.inl hname)
  have hmustNot : Preserves label set.mustNot :=
    hall.mono fun _ hname => RequirementSet.mem_nodeTypes_iff.mpr (Or.inr (Or.inl hname))
  have hstructures : ∀ requirement ∈ set.structures, Preserves label requirement.nodeTypes :=
    fun requirement hrequirement => hall.mono fun _ hname =>
      RequirementSet.mem_nodeTypes_iff.mpr (Or.inr (Or.inr ⟨requirement, hrequirement, hname⟩))
  simp only [tree, Node.within_eq_preorder, Node.relabel_children, Node.preorder_relabel,
    mustItems_relabel hmust, mustNotItems_relabel hmustNot, structureItems_relabel hstructures]

/-- A loop is forbidden, a branch demanded, and a branch inside a loop as well. -/
def branchInLoop : RequirementSet :=
  ⟨["IfStatement"], ["WhileStatement"], [⟨"WhileStatement", [.nested "IfStatement" []]⟩]⟩

def hideOthers (type : String) : String :=
  if type = "IfStatement" ∨ type = "WhileStatement" then type else "Hidden"

/-- A program, and a statement inside its loop, get a type that no requirement mentions. -/
theorem tree_relabel_loop :
    (∀ type ∈ branchInLoop.nodeTypes, hideOthers type = type) ∧
    (∀ type, type ∉ branchInLoop.nodeTypes → hideOthers type ∉ branchInLoop.nodeTypes) ∧
    tree branchInLoop .standard (.node "Hidden" [.node "WhileStatement"
        [.node "Hidden" [], .node "IfStatement" []]]) =
      tree branchInLoop .standard (.node "Program" [.node "WhileStatement"
        [.node "ReturnStatement" [], .node "IfStatement" []]]) := by
  have hmentioned : ∀ type, type ∈ branchInLoop.nodeTypes ↔
      type = "IfStatement" ∨ type = "WhileStatement" := by
    intro type
    simp only [RequirementSet.mem_nodeTypes_iff, branchInLoop, Requirement.nodeTypes,
      Requirement.entry, Entry.nodeTypes, Entry.nodeTypesOfList, List.mem_cons, List.not_mem_nil,
      List.append_nil, exists_eq_left, or_false]
    tauto
  have hfixed : ∀ type ∈ branchInLoop.nodeTypes, hideOthers type = type :=
    fun type htype => if_pos ((hmentioned type).mp htype)
  have hapart : ∀ type, type ∉ branchInLoop.nodeTypes →
      hideOthers type ∉ branchInLoop.nodeTypes := by
    intro type htype
    rw [hmentioned] at htype ⊢
    rw [hideOthers, if_neg htype]
    decide
  refine ⟨hfixed, hapart, ?_⟩
  have hsame := tree_relabel branchInLoop .standard (.node "Program" [.node "WhileStatement"
    [.node "ReturnStatement" [], .node "IfStatement" []]]) hfixed hapart
  simpa [Node.relabel, hideOthers] using hsame

end Grading

end Rubric
