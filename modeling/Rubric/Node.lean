/-!
# Nodes

A `Node` is one statement of a program as grading sees it: its type and the statements nested
directly inside it, in source order. `walk` lists a node and everything below it, a node before its
children, with the nodes still to be visited on a stack.
-/

namespace Rubric

/-- A statement and the statements nested directly inside it. -/
inductive Node where
  | node (type : String) (children : List Node)
deriving Inhabited

namespace Node

def type : Node → String
  | .node type _ => type

def children : Node → List Node
  | .node _ children => children

mutual

def size : Node → Nat
  | .node _ children => forestSize children + 1

def forestSize : List Node → Nat
  | [] => 0
  | tree :: rest => tree.size + forestSize rest

end

theorem forestSize_append (xs ys : List Node) :
    forestSize (xs ++ ys) = forestSize xs + forestSize ys := by
  induction xs with
  | nil => simp [forestSize]
  | cons x xs ih => simp [forestSize, ih, Nat.add_assoc]

/-- Visits the nodes on the stack, the top first, after those visited already. -/
def walkFrom (stack : List Node) (visited : Array Node) : Array Node :=
  match stack with
  | [] => visited
  | .node type children :: rest =>
    walkFrom (children ++ rest) (visited.push (.node type children))
termination_by forestSize stack
decreasing_by
  simp only [forestSize_append, forestSize, size]
  omega

/-- A node and all nodes below it, each before its children. -/
def walk (tree : Node) : List Node :=
  (walkFrom [tree] #[]).toList

end Node

end Rubric
