import Rubric.Depth
import Rubric.Node.Walk

/-!
# The order of a bounded walk

`Node.preorder` says by recursion what a walk bounded in depth visits: each node, then what lies
below it as far as the bound allows, then its siblings. It keeps no frames. `within_eq_preorder`
states that the walk with frames visits the same nodes in the same order.

What carries the proof is the outcome of a walk under way: the nodes it has visited, followed by
those its frames still owe. No step changes the outcome, and a walk that has come to its end owes
nothing.
-/

namespace Rubric

/-- The nodes and those below them down to a depth, each before its children, by recursion. -/
def Node.preorder : Nat → List Node → List Node
  | 0, _ => []
  | depth + 1, nodes => nodes.flatMap fun node => node :: Node.preorder depth node.children

namespace Node

@[simp] theorem preorder_zero (nodes : List Node) : preorder 0 nodes = [] := rfl

@[simp] theorem preorder_nil (depth : Nat) : preorder depth [] = [] := by
  cases depth with
  | zero => rfl
  | succ depth => rfl

theorem preorder_cons (depth : Nat) (node : Node) (nodes : List Node) :
    preorder (depth + 1) (node :: nodes) =
      node :: (preorder depth node.children ++ preorder (depth + 1) nodes) := by
  rw [preorder, List.flatMap_cons, List.cons_append]
  rfl

/-- A deeper bound only puts further nodes between those visited already. -/
theorem preorder_sublist {shallow deep : Nat} (h : shallow ≤ deep) (nodes : List Node) :
    (preorder shallow nodes).Sublist (preorder deep nodes) := by
  induction shallow generalizing deep nodes with
  | zero => exact List.nil_sublist _
  | succ shallow ih =>
      obtain ⟨deep, rfl⟩ : ∃ n, deep = n + 1 := ⟨deep - 1, by omega⟩
      induction nodes with
      | nil => rw [preorder_nil]; exact List.nil_sublist _
      | cons node nodes ihNodes =>
          rw [preorder_cons, preorder_cons]
          exact ((ih (by omega) node.children).append ihNodes).cons_cons node

end Node

/-! ## What one step can do -/

namespace Walk

/-- The three things a step does: it leaves a frame in which nothing waits, it visits a node and
goes down to its children, or it visits a node below which nothing is in reach. -/
inductive Move (limit : Nat) : Walk → Walk → Prop
  | leave {taken : List Node} {depth : Nat} {outer : List Frame} {visited : Array Node} :
      Move limit ⟨⟨taken, [], depth⟩ :: outer, visited⟩ ⟨outer, visited⟩
  | descend {taken waiting : List Node} {node : Node} {depth : Nat} {outer : List Frame}
      {visited : Array Node} (below : depth < limit) (held : node.children ≠ []) :
      Move limit ⟨⟨taken, node :: waiting, depth⟩ :: outer, visited⟩
        ⟨⟨[], node.children, depth + 1⟩ :: ⟨node :: taken, waiting, depth⟩ :: outer,
          visited.push node⟩
  | pass {taken waiting : List Node} {node : Node} {depth : Nat} {outer : List Frame}
      {visited : Array Node} (bare : depth < limit → node.children = []) :
      Move limit ⟨⟨taken, node :: waiting, depth⟩ :: outer, visited⟩
        ⟨⟨node :: taken, waiting, depth⟩ :: outer, visited.push node⟩

theorem move_of_step {limit : Nat} {walk next : Walk} (h : walk.step limit = some next) :
    Move limit walk next := by
  match walk, h with
  | ⟨⟨_, [], _⟩ :: outer, visited⟩, h =>
      cases h
      exact .leave
  | ⟨⟨taken, node :: waiting, depth⟩ :: outer, visited⟩, h =>
      simp only [step, Bool.and_eq_true, decide_eq_true_eq, Bool.not_eq_true',
        List.isEmpty_eq_false_iff] at h
      split at h
      · rename_i hopen
        cases h
        exact .descend hopen.1 hopen.2
      · rename_i hclosed
        cases h
        refine .pass fun hbelow => ?_
        exact Classical.byContradiction fun hheld => hclosed ⟨hbelow, hheld⟩

theorem frames_eq_nil_of_step_eq_none {limit : Nat} {walk : Walk} (h : walk.step limit = none) :
    walk.frames = [] := by
  match walk, h with
  | ⟨[], _⟩, _ => rfl
  | ⟨⟨_, [], _⟩ :: _, _⟩, h => cases h
  | ⟨⟨_, _ :: _, _⟩ :: _, _⟩, h =>
      simp only [step] at h
      split at h <;> cases h

/-! ## What a walk under way comes to -/

/-- The nodes that some frames still have to visit, in order. -/
def owed (limit : Nat) : List Frame → List Node
  | [] => []
  | frame :: outer => Node.preorder (limit + 1 - frame.depth) frame.waiting ++ owed limit outer

/-- The nodes visited so far, then those still owed. -/
def outcome (limit : Nat) (walk : Walk) : List Node :=
  walk.visited.toList ++ owed limit walk.frames

def Bounded (limit : Nat) (walk : Walk) : Prop :=
  ∀ frame ∈ walk.frames, frame.depth ≤ limit

theorem Move.bounded {limit : Nat} {walk next : Walk} (h : Move limit walk next)
    (hb : walk.Bounded limit) : next.Bounded limit := by
  cases h with
  | leave => exact fun frame hframe => hb frame (List.mem_cons_of_mem _ hframe)
  | descend below held =>
      obtain ⟨hdepth, houter⟩ := List.forall_mem_cons.mp hb
      exact List.forall_mem_cons.mpr ⟨below, List.forall_mem_cons.mpr ⟨hdepth, houter⟩⟩
  | pass bare =>
      obtain ⟨hdepth, houter⟩ := List.forall_mem_cons.mp hb
      exact List.forall_mem_cons.mpr ⟨hdepth, houter⟩

/-- A frame within the limit owes its next sibling, what lies below that one, and the rest. -/
theorem owed_cons {limit depth : Nat} (h : depth ≤ limit) (taken waiting : List Node) (node : Node)
    (outer : List Frame) :
    owed limit (⟨taken, node :: waiting, depth⟩ :: outer) =
      node :: (Node.preorder (limit - depth) node.children ++
        owed limit (⟨node :: taken, waiting, depth⟩ :: outer)) := by
  have hdepth : limit + 1 - depth = (limit - depth) + 1 := by omega
  simp only [owed]
  rw [hdepth, Node.preorder_cons, List.cons_append, List.append_assoc]

theorem Move.outcome_eq {limit : Nat} {walk next : Walk} (h : Move limit walk next)
    (hb : walk.Bounded limit) : next.outcome limit = walk.outcome limit := by
  cases h with
  | leave => simp only [outcome, owed, Node.preorder_nil, List.nil_append]
  | @descend taken waiting node depth outer visited below held =>
      have hinner : limit + 1 - (depth + 1) = limit - depth := by omega
      simp only [outcome, Array.toList_push]
      rw [owed_cons (Nat.le_of_lt below), owed, hinner, List.append_assoc]
      rfl
  | @pass taken waiting node depth outer visited bare =>
      have hdepth : depth ≤ limit := hb _ List.mem_cons_self
      -- Nothing lies below the node, or the limit cuts it off.
      have hnone : Node.preorder (limit - depth) node.children = [] := by
        by_cases hbelow : depth < limit
        · rw [bare hbelow, Node.preorder_nil]
        · rw [Nat.sub_eq_zero_of_le (Nat.le_of_not_lt hbelow), Node.preorder_zero]
      simp only [outcome, Array.toList_push]
      rw [owed_cons hdepth, hnone, List.append_assoc]
      rfl

theorem run_toList {limit : Nat} {walk : Walk} (hb : walk.Bounded limit) :
    (walk.run limit).toList = walk.outcome limit := by
  fun_induction run limit walk with
  | case1 walk h =>
      rw [outcome, frames_eq_nil_of_step_eq_none h, owed, List.append_nil]
  | case2 walk next h ih =>
      have hmove := move_of_step h
      rw [ih (hmove.bounded hb), hmove.outcome_eq hb]

theorem start_bounded {limit : Nat} (h : 0 < limit) (nodes : List Node) :
    (start nodes).Bounded limit := by
  intro frame hframe
  cases List.mem_singleton.mp hframe
  exact h

end Walk

theorem Node.within_eq_preorder (depth : Depth) (nodes : List Node) :
    Node.within depth.val nodes = Node.preorder depth.val nodes := by
  rw [Node.within, Walk.run_toList (Walk.start_bounded depth.pos nodes)]
  simp only [Walk.outcome, Walk.start, Walk.owed, List.append_nil]
  rfl

end Rubric
