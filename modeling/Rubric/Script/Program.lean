import Rubric.Goal
import Rubric.Grading
import Rubric.Script.Module
import Rubric.Skeleton

/-!
# Programs

The grammar is tied together here, and a source text is parsed to a syntax tree and on to the
skeleton that is graded.
-/

namespace Rubric.Script

def grammar : Nat → Grammar
  | 0 => .exhausted
  | levels + 1 =>
    let inner := grammar levels
    { assignment := inner.parseAssignment
      unary := inner.parseUnary
      exponentiation := inner.parseExponentiation
      callee := inner.parseCallee
      heritage := inner.leftHandSide
      pattern := inner.parsePattern
      statement := inner.parseStatement
      item := inner.parseItem }

def nestingLimit : Nat := 400

/-- The state before the first token. The first token is read before the goal is known to the
parser, and its end counts as the end of the last token. -/
def State.initial (text : List Char) : ExceptT SyntaxFault (Except Breakdown) State := do
  let cursor := Cursor.start text
  let before : State := {
    cursor, size := text.length, start := cursor.marker, last := cursor.marker
    lookahead := { kind := .finish, value := "", start := 0, line := cursor.line } }
  let (_, state) ← next.run before
  return { state with last := state.cursor.marker }

/-- The state in which a goal is parsed. Modules are strict and have no comments of the old form. -/
def State.toward (goal : Goal) (state : State) : State :=
  match goal with
  | .script => state
  | .module => { state with
      legacyComments := false
      context := { state.context with strict := true, isModule := true } }

def program (g : Grammar) : Parse Value := do
  let opening ← g.directives
  let items ← collectUntil (return (← lookahead).kind == .finish) g.item
  return Tree.node "Program" [("body", .array (opening ++ items))]

def parse (goal : Goal) (text : String) : ExceptT SyntaxFault (Except Breakdown) Value := do
  let state ← State.initial text.toList
  let (tree, _) ← (program (grammar nestingLimit)).run (state.toward goal)
  return tree

/-- The skeleton of a source text under a vocabulary. A syntax tree always has one: its blocks have
bodies. -/
def parser (goal : Goal) (vocabulary : Vocabulary) : Parser := fun text => ExceptT.run do
  let tree ← parse goal text
  match RawNode.ofValue? tree with
  | none => throw tooDeep
  | some raw =>
    match raw.toNode vocabulary with
    | .ok node => return node
    | .error _ => throw tooDeep

end Rubric.Script
