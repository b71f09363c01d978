import Mathlib.Data.List.FinRange
import Mathlib.Data.List.Perm.Basic
import Rubric.Grading
import Rubric.Proofs.Assignment

/-!
# Grading what has been rearranged

Every part of grading goes through its data in some order: the walk, the service of demands, the
search for an assignment. None of these orders shows in a report. `Node.Rearranged` relates two
trees that differ in the order of children at any levels, `Entry.Rearranged` two entries that differ
in the order of what they contain. `Grading.eq_of_rearranged` states that the first makes no
difference to a report, texts included, and the second none to whether a requirement holds.

What both have in common is a list that is reordered and whose members may be rearranged in turn
(`Reordered`). Such a list has a position for each position of the other, and an assignment is
carried over along the positions.
-/

namespace Rubric

/-- One list is a reordering of the other, up to a relation between the members. -/
def Reordered {α : Type} (related : α → α → Prop) (items others : List α) : Prop :=
  ∃ moved, items.Perm moved ∧ List.Forall₂ related moved others

namespace Reordered

variable {α : Type} {related : α → α → Prop} {items others : List α}

theorem nil : Reordered related [] [] :=
  ⟨[], .refl _, .nil⟩

theorem append {more others' : List α} (h : Reordered related items others)
    (h' : Reordered related more others') :
    Reordered related (items ++ more) (others ++ others') := by
  obtain ⟨moved, hperm, heach⟩ := h
  obtain ⟨moved', hperm', heach'⟩ := h'
  exact ⟨moved ++ moved', hperm.append hperm', List.rel_append heach heach'⟩

theorem cons {item other : α} (hitem : related item other) (h : Reordered related items others) :
    Reordered related (item :: items) (other :: others) :=
  append ⟨[item], .refl _, .cons hitem .nil⟩ h

theorem flip (h : Reordered related items others) :
    Reordered (fun a b => related b a) others items := by
  obtain ⟨moved, hperm, heach⟩ := h
  obtain ⟨placed, hplaced, horder⟩ := List.perm_comp_forall₂ hperm heach
  exact ⟨placed, horder.symm, hplaced.flip⟩

/-- Each member of the second list comes from a position of its own in the first. -/
theorem exists_source (h : Reordered related items others) :
    ∃ source : Fin others.length → Fin items.length, Function.Injective source ∧
      ∀ i, related (items.get (source i)) (others.get i) := by
  obtain ⟨moved, hperm, heach⟩ := h
  -- The positions of the first list, in the order in which its members were moved.
  have hself : List.Forall₂ (fun item position => items.get position = item) items
      (List.finRange items.length) := by
    rw [List.forall₂_iff_get]
    exact ⟨(List.length_finRange).symm, fun i _ _ => by simp⟩
  obtain ⟨positions, hmoved, hpositions⟩ := List.perm_comp_forall₂ hperm.symm hself
  have hlength : others.length = positions.length := heach.length_eq.symm.trans hmoved.length_eq
  have hnodup : positions.Nodup := hpositions.symm.nodup (List.nodup_finRange _)
  refine ⟨fun i => positions.get (i.cast hlength), ?_, ?_⟩
  · intro i j hij
    exact Fin.cast_injective hlength (List.nodup_iff_injective_get.mp hnodup hij)
  · intro i
    have hi : i.val < moved.length := by
      rw [heach.length_eq]
      exact i.isLt
    have hget : items.get (positions.get (i.cast hlength)) = moved.get ⟨i, hi⟩ :=
      hmoved.get hi (i.cast hlength).isLt
    show related (items.get (positions.get (i.cast hlength))) (others.get i)
    rw [hget]
    exact heach.get hi i.isLt

/-- Each member of the first list goes to a position of its own in the second. -/
theorem exists_target (h : Reordered related items others) :
    ∃ target : Fin items.length → Fin others.length, Function.Injective target ∧
      ∀ i, related (items.get i) (others.get (target i)) :=
  h.flip.exists_source

theorem exists_mem (h : Reordered related items others) {item : α} (hitem : item ∈ items) :
    ∃ other ∈ others, related item other := by
  obtain ⟨target, -, hrelated⟩ := h.exists_target
  obtain ⟨i, rfl⟩ := List.mem_iff_get.mp hitem
  exact ⟨_, List.get_mem others (target i), hrelated i⟩

end Reordered

/-- Two trees differ in the order of children: the children of the root are reordered, and each of
them is rearranged in turn. -/
inductive Node.Rearranged : Node → Node → Prop
  | node (type : String) {children moved others : List Node} (order : children.Perm moved)
      (each : List.Forall₂ Node.Rearranged moved others) :
      Node.Rearranged (.node type children) (.node type others)

/-- Two entries differ in the order of what they contain: the entries inside are reordered, and each
of them is rearranged in turn. -/
inductive Entry.Rearranged : Entry → Entry → Prop
  | type (name : String) : Entry.Rearranged (.type name) (.type name)
  | nested (parent : String) {contains moved others : List Entry} (order : contains.Perm moved)
      (each : List.Forall₂ Entry.Rearranged moved others) :
      Entry.Rearranged (.nested parent contains) (.nested parent others)

/-! ## Trees -/

namespace Node

theorem Rearranged.type_eq {node other : Node} (h : node.Rearranged other) :
    node.type = other.type := by
  cases h
  rfl

theorem Rearranged.children {node other : Node} (h : node.Rearranged other) :
    Reordered Rearranged node.children other.children := by
  cases h with
  | node type order each => exact ⟨_, order, each⟩

theorem rearranged_refl : (node : Node) → node.Rearranged node
  | .node type children => by
      have hchildren : ∀ child ∈ children, child.Rearranged child :=
        fun child _ => rearranged_refl child
      exact .node type (.refl _) (List.forall₂_same.mpr hchildren)

theorem preorder_reordered (depth : Nat) {nodes others : List Node}
    (h : Reordered Rearranged nodes others) :
    Reordered Rearranged (preorder depth nodes) (preorder depth others) := by
  induction depth generalizing nodes others with
  | zero => exact .nil
  | succ depth ih =>
      obtain ⟨moved, hperm, heach⟩ := h
      have hmoved : Reordered Rearranged (preorder (depth + 1) moved)
          (preorder (depth + 1) others) := by
        clear hperm
        induction heach with
        | nil =>
            rw [preorder_nil]
            exact .nil
        | cons hnode _ ihNodes =>
            rw [preorder_cons, preorder_cons]
            exact .cons hnode ((ih hnode.children).append ihNodes)
      obtain ⟨placed, hplaced, hrelated⟩ := hmoved
      exact ⟨placed, (hperm.flatMap_right _).trans hplaced, hrelated⟩

theorem map_type_perm {nodes others : List Node} (h : Reordered Rearranged nodes others) :
    (nodes.map Node.type).Perm (others.map Node.type) := by
  obtain ⟨moved, hperm, heach⟩ := h
  have htypes : moved.map Node.type = others.map Node.type := by
    rw [← List.forall₂_eq_eq_eq, List.forall₂_map_left_iff, List.forall₂_map_right_iff]
    exact heach.imp fun _ _ hnode => hnode.type_eq
  rw [← htypes]
  exact hperm.map _

/-- The order of children makes no difference to what a node satisfies. -/
theorem satisfies_iff_of_rearranged {node other : Node} (h : node.Rearranged other)
    (entries : List Entry) : node.Satisfies entries ↔ other.Satisfies entries :=
  ⟨fun hnode => hnode.carried Rearranged Rearranged.type_eq
      (fun hrelated => hrelated.children.exists_target) h,
    fun hother => hother.carried (fun a b => Rearranged b a) (fun hrelated => hrelated.type_eq.symm)
      (fun hrelated => hrelated.children.exists_source) h⟩

end Node

/-! ## Entries -/

namespace Entry

theorem rearranged_refl : (entry : Entry) → entry.Rearranged entry
  | .type name => .type name
  | .nested parent contains => by
      have hcontains : ∀ entry ∈ contains, entry.Rearranged entry :=
        fun entry _ => rearranged_refl entry
      exact .nested parent (.refl _) (List.forall₂_same.mpr hcontains)

end Entry

/-- The order of entries makes no difference to whether a node satisfies them. -/
theorem Node.satisfies_iff_of_reordered (node : Node) {entries others : List Entry}
    (h : Reordered Entry.Rearranged entries others) :
    node.Satisfies entries ↔ node.Satisfies others := by
  constructor
  · intro hnode
    refine hnode.exchanged Entry.Rearranged ?_ ?_ h.exists_source
    · rintro _ _ ⟨⟩
      exact Or.inl rfl
    · rintro _ _ _ hnested
      cases hnested with
      | nested parent order each => exact ⟨_, rfl, Reordered.exists_source ⟨_, order, each⟩⟩
  · intro hnode
    refine hnode.exchanged (fun a b => Entry.Rearranged b a) ?_ ?_ h.exists_target
    · rintro _ _ ⟨⟩
      exact Or.inl rfl
    · rintro _ _ _ hnested
      cases hnested with
      | nested parent order each => exact ⟨_, rfl, Reordered.exists_target ⟨_, order, each⟩⟩

/-- Two requirements differ in the order of what they contain, at any levels. -/
def Requirement.Rearranged (requirement other : Requirement) : Prop :=
  requirement.entry.Rearranged other.entry

theorem Requirement.Rearranged.parent_eq {requirement other : Requirement}
    (h : requirement.Rearranged other) : requirement.parent = other.parent := by
  obtain ⟨parent, contains⟩ := requirement
  obtain ⟨parent', contains'⟩ := other
  cases h
  rfl

theorem Requirement.Rearranged.contains {requirement other : Requirement}
    (h : requirement.Rearranged other) :
    Reordered Entry.Rearranged requirement.contains other.contains := by
  obtain ⟨parent, contains⟩ := requirement
  obtain ⟨parent', contains'⟩ := other
  cases h with
  | nested parent order each => exact ⟨_, order, each⟩

theorem Requirement.holdsAmong_eq_of_rearranged {requirement other : Requirement}
    (h : requirement.Rearranged other) (nodes : List Node) :
    requirement.holdsAmong nodes = other.holdsAmong nodes := by
  rw [Bool.eq_iff_iff, Requirement.holdsAmong_iff, Requirement.holdsAmong_iff, h.parent_eq]
  simp only [Node.satisfies_iff_of_reordered _ h.contains]

/-! ## Reports -/

/-- Which demands are met depends only on how often each type occurs. -/
theorem Matching.types_eq_of_perm (demanded : List String) {nodes others : List Node}
    (h : (nodes.map Node.type).Perm (others.map Node.type)) :
    types demanded nodes = types demanded others := by
  have hforward := types_mono demanded h.subperm
  have hbackward := types_mono demanded h.symm.subperm
  refine List.ext_get hforward.length_eq fun i hi hi' => ?_
  exact Bool.eq_iff_iff.mpr ⟨hforward.get hi hi', hbackward.get hi' hi⟩

namespace Grading

theorem mustItems_reordered (types : List String) {nodes others : List Node}
    (h : Reordered Node.Rearranged nodes others) :
    mustItems types nodes = mustItems types others := by
  rw [mustItems, mustItems, Matching.types_eq_of_perm types (Node.map_type_perm h)]

theorem mustNotItems_reordered (types : List String) {nodes others : List Node}
    (h : Reordered Node.Rearranged nodes others) :
    mustNotItems types nodes = mustNotItems types others := by
  have hfound : ∀ type, nodes.any (·.type == type) = others.any (·.type == type) := by
    intro type
    have hmem := (Node.map_type_perm h).mem_iff (a := type)
    rw [Bool.eq_iff_iff]
    simpa only [List.any_eq_true, beq_iff_eq, List.mem_map] using hmem
  simp only [mustNotItems, hfound]

theorem structureItems_reordered (requirements : List Requirement) {nodes others : List Node}
    (h : Reordered Node.Rearranged nodes others) :
    structureItems requirements nodes = structureItems requirements others := by
  have hholds : ∀ requirement : Requirement,
      requirement.holdsAmong nodes = requirement.holdsAmong others := by
    intro requirement
    rw [Bool.eq_iff_iff, Requirement.holdsAmong_iff, Requirement.holdsAmong_iff]
    constructor
    · rintro ⟨node, hnode, htype, hsatisfies⟩
      obtain ⟨other, hother, hrelated⟩ := h.exists_mem hnode
      exact ⟨other, hother, hrelated.type_eq ▸ htype,
        (Node.satisfies_iff_of_rearranged hrelated _).mp hsatisfies⟩
    · rintro ⟨other, hother, htype, hsatisfies⟩
      obtain ⟨node, hnode, hrelated⟩ := h.flip.exists_mem hother
      exact ⟨node, hnode, hrelated.type_eq ▸ htype,
        (Node.satisfies_iff_of_rearranged hrelated _).mpr hsatisfies⟩
  simp only [structureItems, hholds]

theorem tree_eq_of_rearranged (set : RequirementSet) (depth : Depth) {root other : Node}
    (h : root.Rearranged other) : tree set depth root = tree set depth other := by
  have hnodes := Node.preorder_reordered depth.val h.children
  rw [← Node.within_eq_preorder, ← Node.within_eq_preorder] at hnodes
  simp only [tree, mustItems_reordered _ hnodes, mustNotItems_reordered _ hnodes,
    structureItems_reordered _ hnodes]

/-- The order of statements, at any levels, makes no difference to a report, and the order of what a
requirement contains, at any levels, makes none to whether it holds. -/
theorem eq_of_rearranged :
    (∀ (set : RequirementSet) (depth : Depth) (root other : Node), root.Rearranged other →
      tree set depth root = tree set depth other) ∧
    ∀ (requirement other : Requirement) (depth : Depth) (nodes : List Node),
      requirement.Rearranged other →
        requirement.holdsAmong (Node.within depth.val nodes) =
          other.holdsAmong (Node.within depth.val nodes) :=
  ⟨fun set depth _ _ h => tree_eq_of_rearranged set depth h,
    fun _ _ _ _ h => Requirement.holdsAmong_eq_of_rearranged h _⟩

/-- A loop changes places with a declaration, and inside it a branch with a return; a requirement
on the loop lists the two the other way round. -/
theorem eq_of_loop_rearranged :
    (Node.node "Program" [.node "WhileStatement" [.node "IfStatement" [],
        .node "ReturnStatement" []], .node "VariableDeclaration" []]).Rearranged
      (.node "Program" [.node "VariableDeclaration" [],
        .node "WhileStatement" [.node "ReturnStatement" [], .node "IfStatement" []]]) ∧
    tree ⟨["IfStatement"], ["VariableDeclaration"], [⟨"WhileStatement", [.type "IfStatement"]⟩]⟩
        .standard (.node "Program" [.node "WhileStatement" [.node "IfStatement" [],
          .node "ReturnStatement" []], .node "VariableDeclaration" []]) =
      tree ⟨["IfStatement"], ["VariableDeclaration"], [⟨"WhileStatement", [.type "IfStatement"]⟩]⟩
        .standard (.node "Program" [.node "VariableDeclaration" [],
          .node "WhileStatement" [.node "ReturnStatement" [], .node "IfStatement" []]]) ∧
    Requirement.Rearranged ⟨"WhileStatement", [.nested "IfStatement" [], .type "ReturnStatement"]⟩
      ⟨"WhileStatement", [.type "ReturnStatement", .nested "IfStatement" []]⟩ ∧
    Requirement.holdsAmong ⟨"WhileStatement", [.nested "IfStatement" [], .type "ReturnStatement"]⟩
        (Node.within Depth.standard.val
          [.node "WhileStatement" [.node "IfStatement" [], .node "ReturnStatement" []]]) =
      Requirement.holdsAmong ⟨"WhileStatement", [.type "ReturnStatement", .nested "IfStatement" []]⟩
        (Node.within Depth.standard.val
          [.node "WhileStatement" [.node "IfStatement" [], .node "ReturnStatement" []]]) := by
  have hloop : (Node.node "WhileStatement" [.node "IfStatement" [],
      .node "ReturnStatement" []]).Rearranged
        (.node "WhileStatement" [.node "ReturnStatement" [], .node "IfStatement" []]) :=
    .node _ (.swap _ _ _) (.cons (Node.rearranged_refl _) (.cons (Node.rearranged_refl _) .nil))
  have hroot : (Node.node "Program" [.node "WhileStatement" [.node "IfStatement" [],
      .node "ReturnStatement" []], .node "VariableDeclaration" []]).Rearranged
        (.node "Program" [.node "VariableDeclaration" [],
          .node "WhileStatement" [.node "ReturnStatement" [], .node "IfStatement" []]]) :=
    .node _ (.swap _ _ _) (.cons (Node.rearranged_refl _) (.cons hloop .nil))
  have hrequirement : Requirement.Rearranged
      ⟨"WhileStatement", [.nested "IfStatement" [], .type "ReturnStatement"]⟩
        ⟨"WhileStatement", [.type "ReturnStatement", .nested "IfStatement" []]⟩ :=
    .nested _ (.swap _ _ _) (.cons (Entry.rearranged_refl _) (.cons (Entry.rearranged_refl _) .nil))
  exact ⟨hroot, eq_of_rearranged.1 _ _ _ _ hroot, hrequirement,
    eq_of_rearranged.2 _ _ _ _ hrequirement⟩

end Grading

end Rubric
