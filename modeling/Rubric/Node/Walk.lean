import Rubric.Node

/-!
# Walks bounded in depth

A walk visits a list of siblings at depth one and, below each, its children at the next depth, never
past a limit. It keeps one frame per depth: the siblings taken so far, those still waiting, and the
depth. So the number of frames is bounded by the limit, however deep the tree is.
-/

namespace Rubric

/-- Siblings of one depth, part of which have been visited. -/
structure Walk.Frame where
  taken : List Node  -- the latest first
  waiting : List Node  -- in their order
  depth : Nat

/-- A walk under way: its frames, the deepest first, and the nodes visited so far. -/
structure Walk where
  frames : List Walk.Frame
  visited : Array Node

namespace Walk

def start (nodes : List Node) : Walk :=
  ⟨[⟨[], nodes, 1⟩], #[]⟩

/-- One step of a walk: leave a frame with no sibling waiting, or visit the next sibling and open a
frame for its children if it has any and they are within the limit. -/
def step (limit : Nat) : Walk → Option Walk
  | ⟨[], _⟩ => none
  | ⟨⟨_, [], _⟩ :: outer, visited⟩ => some ⟨outer, visited⟩
  | ⟨⟨taken, node :: waiting, depth⟩ :: outer, visited⟩ =>
    let rest := ⟨node :: taken, waiting, depth⟩ :: outer
    if depth < limit && !node.children.isEmpty then
      some ⟨⟨[], node.children, depth + 1⟩ :: rest, visited.push node⟩
    else some ⟨rest, visited.push node⟩

/-- What the frames still have to do: two steps for every node below them and one to leave. -/
def pendingFrames : List Frame → Nat
  | [] => 0
  | frame :: outer => 2 * Node.forestSize frame.waiting + 1 + pendingFrames outer

def pending (walk : Walk) : Nat :=
  pendingFrames walk.frames

theorem pending_step_lt {limit : Nat} {walk next : Walk} (h : walk.step limit = some next) :
    next.pending < walk.pending := by
  match walk, h with
  | ⟨⟨_, [], _⟩ :: outer, visited⟩, h =>
    simp only [step, Option.some.injEq] at h
    subst h
    simp [pending, pendingFrames]
  | ⟨⟨taken, .node type children :: waiting, depth⟩ :: outer, visited⟩, h =>
    simp only [step] at h
    split at h <;> cases h <;>
      simp only [pending, pendingFrames, Node.forestSize, Node.size, Node.children] <;> omega

def run (limit : Nat) (walk : Walk) : Array Node :=
  match _h : walk.step limit with
  | none => walk.visited
  | some next => next.run limit
termination_by walk.pending
decreasing_by exact pending_step_lt _h

end Walk

/-- The nodes and those below them down to a depth, each before its children. -/
def Node.within (depth : Nat) (nodes : List Node) : List Node :=
  ((Walk.start nodes).run depth).toList

end Rubric
