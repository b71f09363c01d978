import Rubric.Proofs.Traversal

/-!
# Walks with and without a bound

Two walks visit nodes before their children. `Node.within` keeps one frame of siblings for each
depth and never goes past a bound. `Node.walk` knows no bound and keeps the nodes to be visited on
one stack. `Node.within_eq_flatMap_walk` states that they visit the same nodes in the same order
exactly if the bound is no less than the height of every tree, and that a deeper bound then changes
nothing.

Both are compared with the recursion `Node.preorder`. Below the height a deeper bound always
brings further nodes; from the height on it brings none.
-/

namespace Rubric.Node

/-! ## Height -/

mutual

/-- The number of levels of a tree. -/
def height : Node → Nat
  | .node _ children => forestHeight children + 1

/-- The number of levels of the highest of some trees. -/
def forestHeight : List Node → Nat
  | [] => 0
  | tree :: rest => max tree.height (forestHeight rest)

end

theorem height_eq (node : Node) : node.height = forestHeight node.children + 1 := by
  cases node
  rw [height, children]

theorem forestHeight_le_iff {nodes : List Node} {bound : Nat} :
    forestHeight nodes ≤ bound ↔ ∀ node ∈ nodes, node.height ≤ bound := by
  induction nodes with
  | nil => simp [forestHeight]
  | cons node nodes ih => rw [forestHeight, Nat.max_le, List.forall_mem_cons, ih]

theorem forestHeight_cons_le_iff {node : Node} {nodes : List Node} {bound : Nat} :
    forestHeight (node :: nodes) ≤ bound + 1 ↔
      forestHeight node.children ≤ bound ∧ forestHeight nodes ≤ bound + 1 := by
  rw [forestHeight, Nat.max_le, height_eq, Nat.add_le_add_iff_right]

theorem forestHeight_append_le_iff {first second : List Node} {bound : Nat} :
    forestHeight (first ++ second) ≤ bound ↔
      forestHeight first ≤ bound ∧ forestHeight second ≤ bound := by
  simp only [forestHeight_le_iff, List.forall_mem_append]

/-! ## Bounds and height -/

theorem preorder_append (depth : Nat) (first second : List Node) :
    preorder depth (first ++ second) = preorder depth first ++ preorder depth second := by
  cases depth with
  | zero => rfl
  | succ depth =>
      rw [preorder, List.flatMap_append]
      rfl

/-- From the height on, a deeper bound brings no further nodes. -/
theorem preorder_eq_of_forestHeight_le {shallow deep : Nat} (hdeep : shallow ≤ deep)
    {nodes : List Node} (h : forestHeight nodes ≤ shallow) :
    preorder deep nodes = preorder shallow nodes := by
  induction shallow generalizing deep nodes with
  | zero =>
      cases nodes with
      | nil => rw [preorder_nil, preorder_nil]
      | cons node nodes =>
          rw [forestHeight, height_eq] at h
          omega
  | succ shallow ih =>
      obtain ⟨deep, rfl⟩ : ∃ n, deep = n + 1 := ⟨deep - 1, by omega⟩
      induction nodes with
      | nil => rw [preorder_nil, preorder_nil]
      | cons node nodes ihNodes =>
          obtain ⟨hchildren, hnodes⟩ := forestHeight_cons_le_iff.mp h
          rw [preorder_cons, preorder_cons, ih (by omega) hchildren, ihNodes hnodes]

/-- A bound that one more level does not add to is no less than the height. -/
theorem forestHeight_le_of_preorder_succ_eq {depth : Nat} {nodes : List Node}
    (h : preorder (depth + 1) nodes = preorder depth nodes) : forestHeight nodes ≤ depth := by
  induction depth generalizing nodes with
  | zero =>
      cases nodes with
      | nil => exact Nat.le_refl 0
      | cons node nodes =>
          rw [preorder_cons, preorder_zero] at h
          cases h
  | succ depth ih =>
      induction nodes with
      | nil => exact Nat.zero_le _
      | cons node nodes ihNodes =>
          rw [preorder_cons, preorder_cons, List.cons.injEq] at h
          -- Each part only grows with the bound, so both must have kept their lengths.
          have hchildren := (preorder_sublist (Nat.le_add_right depth 1) node.children).length_le
          have hnodes := (preorder_sublist (Nat.le_add_right (depth + 1) 1) nodes).length_le
          have hlength := congrArg List.length h.2
          rw [List.length_append, List.length_append] at hlength
          obtain ⟨hchildrenEq, hnodesEq⟩ := List.append_inj h.2 (by omega)
          exact forestHeight_cons_le_iff.mpr ⟨ih hchildrenEq, ihNodes hnodesEq⟩

theorem forestHeight_le_of_preorder_eq {depth deep : Nat} {nodes : List Node}
    (hdeep : forestHeight nodes ≤ deep) (h : preorder depth nodes = preorder deep nodes) :
    forestHeight nodes ≤ depth := by
  rcases Nat.lt_or_ge depth deep with hlt | hge
  · -- What lies between two equal bounds is equal to both.
    have hbetween : (preorder (depth + 1) nodes).Sublist (preorder depth nodes) :=
      h ▸ preorder_sublist hlt nodes
    have hgrows := preorder_sublist (Nat.le_add_right depth 1) nodes
    exact forestHeight_le_of_preorder_succ_eq (hgrows.eq_of_length_le hbetween.length_le).symm
  · exact Nat.le_trans hdeep hge

/-! ## The walk without a bound -/

/-- The nodes visited so far, then everything on the stack and below it, is what the walk comes
to. -/
theorem walkFrom_toList {stack : List Node} {depth : Nat} (h : forestHeight stack ≤ depth)
    (visited : Array Node) :
    (walkFrom stack visited).toList = visited.toList ++ preorder depth stack := by
  fun_induction walkFrom stack visited with
  | case1 visited => rw [preorder_nil, List.append_nil]
  | case2 visited type children rest ih =>
      obtain ⟨depth, rfl⟩ : ∃ n, depth = n + 1 := by
        rw [forestHeight, height] at h
        exact ⟨depth - 1, by omega⟩
      obtain ⟨hchildren, hrest⟩ := forestHeight_cons_le_iff.mp h
      have hstack : forestHeight (children ++ rest) ≤ depth + 1 :=
        forestHeight_append_le_iff.mpr ⟨Nat.le_succ_of_le hchildren, hrest⟩
      have hbelow : preorder (depth + 1) children = preorder depth children :=
        preorder_eq_of_forestHeight_le (Nat.le_add_right depth 1) hchildren
      rw [ih hstack, preorder_append, hbelow, preorder_cons, Array.toList_push, List.append_assoc]
      rfl

theorem flatMap_walk_eq_preorder {nodes : List Node} {depth : Nat}
    (h : forestHeight nodes ≤ depth) : nodes.flatMap walk = preorder depth nodes := by
  induction nodes with
  | nil => rw [List.flatMap_nil, preorder_nil]
  | cons node nodes ih =>
      rw [← List.singleton_append, forestHeight_append_le_iff] at h
      have hwalk : node.walk = preorder depth [node] := walkFrom_toList h.1 #[]
      rw [List.flatMap_cons, ih h.2, hwalk, ← preorder_append, List.singleton_append]

/-- A walk bounded in depth visits what the recursion lists. It visits what the walks without a
bound visit one after the other exactly if no tree is higher than the bound, and then a deeper
bound makes no difference. -/
theorem within_eq_flatMap_walk (depth : Depth) (nodes : List Node) :
    within depth.val nodes = preorder depth.val nodes ∧
    (within depth.val nodes = nodes.flatMap walk ↔ ∀ node ∈ nodes, node.height ≤ depth.val) ∧
    ∀ deeper : Depth, depth.val ≤ deeper.val → (∀ node ∈ nodes, node.height ≤ depth.val) →
      within deeper.val nodes = within depth.val nodes := by
  refine ⟨within_eq_preorder depth nodes, ?_, ?_⟩
  · rw [within_eq_preorder, ← forestHeight_le_iff]
    constructor
    · intro h
      rw [flatMap_walk_eq_preorder (Nat.le_refl _)] at h
      exact forestHeight_le_of_preorder_eq (Nat.le_refl _) h
    · intro h
      exact (flatMap_walk_eq_preorder h).symm
  · intro deeper hdeeper h
    rw [within_eq_preorder, within_eq_preorder]
    exact preorder_eq_of_forestHeight_le hdeeper (forestHeight_le_iff.mpr h)

def loopAndReturn : List Node :=
  [.node "WhileStatement" [.node "IfStatement" []], .node "ReturnStatement" []]

/-- A bound of two is enough for a loop around a branch, and a third level adds nothing. A bound of
one is too little. -/
theorem within_loop_eq_flatMap_walk :
    (∀ node ∈ loopAndReturn, node.height ≤ 2) ∧
    within 2 loopAndReturn = loopAndReturn.flatMap walk ∧
    within 3 loopAndReturn = within 2 loopAndReturn ∧
    within 1 loopAndReturn ≠ loopAndReturn.flatMap walk := by
  have hheights : ∀ node ∈ loopAndReturn, node.height ≤ 2 := by
    simp [loopAndReturn, height, forestHeight]
  obtain ⟨-, hwalk, hdeeper⟩ := within_eq_flatMap_walk ⟨2, by decide⟩ loopAndReturn
  obtain ⟨-, hlow, -⟩ := within_eq_flatMap_walk ⟨1, by decide⟩ loopAndReturn
  refine ⟨hheights, hwalk.mpr hheights, hdeeper ⟨3, by decide⟩ (by decide) hheights, ?_⟩
  intro h
  have hloop := hlow.mp h _ List.mem_cons_self
  simp [height, forestHeight] at hloop

end Rubric.Node
