import Mathlib.Data.List.Forall2
import Mathlib.Data.List.NodupEquivFin
import Rubric.Grading
import Rubric.Proofs.Assignment

/-!
# Grading what has grown

Two ways to look at more of a program: more statements are written into it, or the search goes
deeper. Either way the nodes that are graded grow: those of before are found again in order among
those of after, each with whatever has been inserted below it. A report keeps its passes for what
is required and its failures for what is forbidden under any such growth (`keeps_of_grown`), and
the two ways are special cases.
-/

namespace Rubric

/-- A node grows to another of the same type by inserting whole subtrees: its children are found
in order among those of the other, each grown in turn. -/
inductive Node.GrowsTo : Node → Node → Prop
  | node (type : String) {children more : List Node}
      (grown : List.SublistForall₂ Node.GrowsTo children more) :
      Node.GrowsTo (.node type children) (.node type more)

namespace Node

theorem GrowsTo.type_eq {node larger : Node} (h : node.GrowsTo larger) :
    node.type = larger.type := by
  cases h
  rfl

theorem GrowsTo.children {node larger : Node} (h : node.GrowsTo larger) :
    List.SublistForall₂ GrowsTo node.children larger.children := by
  cases h with
  | node type grown => exact grown

theorem growsTo_refl : (node : Node) → node.GrowsTo node
  | .node type children => by
      have hchildren : ∀ child ∈ children, child.GrowsTo child :=
        fun child _ => growsTo_refl child
      refine .node type (List.sublistForall₂_iff.mpr ⟨children, ?_, List.Sublist.refl _⟩)
      exact List.forall₂_same.mpr hchildren

instance : Std.Refl Node.GrowsTo := ⟨growsTo_refl⟩

theorem map_type_sublist {nodes more : List Node} (h : List.SublistForall₂ GrowsTo nodes more) :
    (nodes.map Node.type).Sublist (more.map Node.type) := by
  induction h with
  | nil => exact List.nil_sublist _
  | cons hnode _ ih =>
      rw [List.map_cons, List.map_cons, hnode.type_eq]
      exact ih.cons_cons _
  | cons_right _ ih => exact ih.cons _

theorem sublistForall₂_append {first first' second second' : List Node}
    (hfirst : List.SublistForall₂ GrowsTo first first')
    (hsecond : List.SublistForall₂ GrowsTo second second') :
    List.SublistForall₂ GrowsTo (first ++ second) (first' ++ second') := by
  obtain ⟨grown, hgrown, hsub⟩ := List.sublistForall₂_iff.mp hfirst
  obtain ⟨grown', hgrown', hsub'⟩ := List.sublistForall₂_iff.mp hsecond
  exact List.sublistForall₂_iff.mpr
    ⟨grown ++ grown', List.rel_append hgrown hgrown', hsub.append hsub'⟩

/-- The nodes visited before are visited again in order, each grown, with others in between. -/
theorem preorder_grown (depth : Nat) {nodes more : List Node}
    (h : List.SublistForall₂ GrowsTo nodes more) :
    List.SublistForall₂ GrowsTo (preorder depth nodes) (preorder depth more) := by
  induction depth generalizing nodes more with
  | zero => exact .nil
  | succ depth ih =>
      induction h with
      | nil =>
          rw [preorder_nil]
          exact .nil
      | cons hnode _ ihNodes =>
          rw [preorder_cons, preorder_cons]
          exact .cons hnode (sublistForall₂_append (ih hnode.children) ihNodes)
      | cons_right _ ihNodes =>
          rw [preorder_cons]
          exact .cons_right (sublistForall₂_append .nil ihNodes)

theorem exists_move_of_grown {children more : List Node}
    (h : List.SublistForall₂ GrowsTo children more) :
    ∃ move : Fin children.length → Fin more.length, Function.Injective move ∧
      ∀ i, (children.get i).GrowsTo (more.get (move i)) := by
  obtain ⟨kept, hgrown, hsub⟩ := List.sublistForall₂_iff.mp h
  obtain ⟨embed, hembed⟩ := List.sublist_iff_exists_fin_orderEmbedding_get_eq.mp hsub
  refine ⟨fun i => embed (i.cast hgrown.length_eq), ?_, ?_⟩
  · intro i j hij
    exact Fin.cast_injective hgrown.length_eq (embed.injective hij)
  · intro i
    rw [← hembed]
    exact hgrown.get i.isLt (i.cast hgrown.length_eq).isLt

theorem exists_mem_of_grown {nodes more : List Node} (h : List.SublistForall₂ GrowsTo nodes more)
    {node : Node} (hnode : node ∈ nodes) : ∃ larger ∈ more, node.GrowsTo larger := by
  obtain ⟨move, -, hgrown⟩ := exists_move_of_grown h
  obtain ⟨i, rfl⟩ := List.mem_iff_get.mp hnode
  exact ⟨_, List.get_mem more (move i), hgrown i⟩

/-- An assignment carries over: each entry moves along with the statement it was assigned. -/
theorem Satisfies.grown {node : Node} {entries : List Entry} (h : node.Satisfies entries)
    {larger : Node} (hgrows : node.GrowsTo larger) : larger.Satisfies entries :=
  h.carried GrowsTo GrowsTo.type_eq
    (fun hrelated => exists_move_of_grown hrelated.children) hgrows

end Node

/-! ## Reports -/

/-- Item by item, what was required and met is still met, and what was forbidden and found is still
found. -/
structure Report.Keeps (before after : Report) : Prop where
  must : List.Forall₂ (fun old new => old.passed = true → new.passed = true)
    before.must after.must
  mustNot : List.Forall₂ (fun old new => old.passed = false → new.passed = false)
    before.mustNot after.mustNot
  structures : List.Forall₂ (fun old new => old.passed = true → new.passed = true)
    before.structures after.structures

namespace Grading

theorem mustItems_grown (types : List String) {nodes more : List Node}
    (h : List.SublistForall₂ Node.GrowsTo nodes more) :
    List.Forall₂ (fun old new => old.passed = true → new.passed = true)
      (mustItems types nodes) (mustItems types more) := by
  have hflags := Matching.types_mono types (Node.map_type_sublist h).subperm
  rw [mustItems, mustItems]
  generalize Matching.types types nodes = before at hflags
  generalize Matching.types types more = after at hflags
  induction hflags generalizing types with
  | nil => simp
  | cons hflag _ ih =>
      cases types with
      | nil => exact .nil
      | cons type types => exact .cons hflag (ih types)

theorem mustNotItems_grown (types : List String) {nodes more : List Node}
    (h : List.SublistForall₂ Node.GrowsTo nodes more) :
    List.Forall₂ (fun old new => old.passed = false → new.passed = false)
      (mustNotItems types nodes) (mustNotItems types more) := by
  rw [mustNotItems, mustNotItems, List.forall₂_map_left_iff, List.forall₂_map_right_iff,
    List.forall₂_same]
  intro type _ hfound
  simp only [Bool.not_eq_eq_eq_not, Bool.not_false, List.any_eq_true, beq_iff_eq] at hfound ⊢
  obtain ⟨node, hnode, rfl⟩ := hfound
  obtain ⟨larger, hlarger, hgrows⟩ := Node.exists_mem_of_grown h hnode
  exact ⟨larger, hlarger, hgrows.type_eq.symm⟩

theorem structureItems_grown (requirements : List Requirement) {nodes more : List Node}
    (h : List.SublistForall₂ Node.GrowsTo nodes more) :
    List.Forall₂ (fun old new => old.passed = true → new.passed = true)
      (structureItems requirements nodes) (structureItems requirements more) := by
  rw [structureItems, structureItems, List.forall₂_map_left_iff, List.forall₂_map_right_iff,
    List.forall₂_same]
  intro requirement _ hholds
  simp only [Requirement.holdsAmong_iff] at hholds ⊢
  obtain ⟨node, hnode, htype, hsatisfies⟩ := hholds
  obtain ⟨larger, hlarger, hgrows⟩ := Node.exists_mem_of_grown h hnode
  exact ⟨larger, hlarger, hgrows.type_eq ▸ htype, hsatisfies.grown hgrows⟩

theorem keeps_of_grown (set : RequirementSet) {depth deep : Depth} {root larger : Node}
    (h : List.SublistForall₂ Node.GrowsTo (Node.preorder depth.val root.children)
      (Node.preorder deep.val larger.children)) :
    (tree set depth root).Keeps (tree set deep larger) := by
  rw [← Node.within_eq_preorder, ← Node.within_eq_preorder] at h
  exact ⟨mustItems_grown set.must h, mustNotItems_grown set.mustNot h,
    structureItems_grown set.structures h⟩

/-- Adding statements never fails a requirement that was met and never hides a violation. -/
theorem keeps_of_growsTo (set : RequirementSet) (depth : Depth) {root larger : Node}
    (h : root.GrowsTo larger) : (tree set depth root).Keeps (tree set depth larger) :=
  keeps_of_grown set (Node.preorder_grown depth.val h.children)

/-- A loop gets a declaration before it and a loop of its own before its branch. -/
theorem keeps_of_loop_growsTo :
    (Node.node "Program" [.node "WhileStatement" [.node "IfStatement" []]]).GrowsTo
      (.node "Program" [.node "VariableDeclaration" [],
        .node "WhileStatement" [.node "WhileStatement" [], .node "IfStatement" []]]) ∧
    (tree ⟨["IfStatement"], ["WhileStatement"], [⟨"WhileStatement", [.type "IfStatement"]⟩]⟩
      .standard (.node "Program" [.node "WhileStatement" [.node "IfStatement" []]])).Keeps
    (tree ⟨["IfStatement"], ["WhileStatement"], [⟨"WhileStatement", [.type "IfStatement"]⟩]⟩
      .standard (.node "Program" [.node "VariableDeclaration" [],
        .node "WhileStatement" [.node "WhileStatement" [], .node "IfStatement" []]])) := by
  have hloop : (Node.node "WhileStatement" [.node "IfStatement" []]).GrowsTo
      (.node "WhileStatement" [.node "WhileStatement" [], .node "IfStatement" []]) :=
    .node _ (.cons_right (.cons (.node _ .nil) .nil))
  exact ⟨.node _ (.cons_right (.cons hloop .nil)),
    keeps_of_growsTo _ _ (.node _ (.cons_right (.cons hloop .nil)))⟩

/-- Searching deeper never fails a requirement that was met and never hides a violation. -/
theorem keeps_of_depth_le (set : RequirementSet) (root : Node) {shallow deep : Depth}
    (h : shallow.val ≤ deep.val) : (tree set shallow root).Keeps (tree set deep root) :=
  keeps_of_grown set (Node.preorder_sublist h root.children).sublistForall₂

/-- A branch inside a loop comes into view at the second level. -/
theorem keeps_of_loop_depth_le :
    1 ≤ Depth.standard.val ∧
    (tree ⟨["IfStatement"], ["WhileStatement"], [⟨"WhileStatement", [.type "IfStatement"]⟩]⟩
      ⟨1, Nat.one_pos⟩ (.node "Program" [.node "WhileStatement" [.node "IfStatement" []]])).Keeps
    (tree ⟨["IfStatement"], ["WhileStatement"], [⟨"WhileStatement", [.type "IfStatement"]⟩]⟩
      .standard (.node "Program" [.node "WhileStatement" [.node "IfStatement" []]])) :=
  ⟨by decide, keeps_of_depth_le _ _ (by decide)⟩

end Grading

end Rubric
