import Rubric.Script.State
import Rubric.Script.Tree

/-!
# The grammar

The grammar of ECMAScript refers to itself: a statement holds statements, an expression expressions.
`Grammar` lists the parsers by which it does so. Every other parser takes a `Grammar` for what is
nested inside, so that the whole is tied together level by level, and the number of levels bounds
how deep a source text may be nested.
-/

namespace Rubric.Script

inductive Declarator where
  | var
  | let_
  | const
deriving DecidableEq

def Declarator.word : Declarator → String
  | .var => "var"
  | .let_ => "let"
  | .const => "const"

/-- The parsers for what is nested inside something else. -/
structure Grammar where
  assignment : Parse Value  -- without commas
  unary : Parse Value  -- behind an operator in front
  exponentiation : Parse Value  -- between two operators
  callee : Parse Value
  heritage : Parse Value  -- what a class extends
  pattern : Option Declarator → Parse (Value × List Token)  -- with the tokens of the names
  statement : Parse Value
  item : Parse Value

/-- The grammar of a text nested deeper than the levels go. -/
def Grammar.exhausted : Grammar where
  assignment := throw tooDeep
  unary := throw tooDeep
  exponentiation := throw tooDeep
  callee := throw tooDeep
  heritage := throw tooDeep
  pattern := fun _ => throw tooDeep
  statement := throw tooDeep
  item := throw tooDeep

namespace Grammar

def expression (g : Grammar) : Parse Value := do
  let first ← isolate g.assignment
  if ← at? "," then
    let rest ← collectUntil (return !(← at? ",")) do
      skip
      isolate g.assignment
    return Tree.sequence (first :: rest)
  else return first

def name : Parse Value := do
  let token ← next
  if token.isName then return Tree.identifier token.value else unexpected token

def bindingName (declarator : Option Declarator) : Parse Value := do
  let token ← next
  let c ← context
  if token.isKeyword "yield" then
    if c.strict then failAt token "Use of future reserved word in strict mode"
    else if !c.allowYield then unexpected token
  else if token.kind != .identifier then
    if c.strict && token.kind == .keyword && isStrictReserved token.value then
      failAt token "Use of future reserved word in strict mode"
    else if c.strict || token.value != "let" || declarator != some .var then unexpected token
  else if (c.isModule || c.await) && token.value == "await" then unexpected token
  return Tree.identifier token.value

def key (g : Grammar) : Parse Value := do
  let token ← next
  match token.kind with
  | .string | .number =>
    if (← context).strict && token.octal then
      failAt token "Octal literals are not allowed in strict mode."
    return Tree.literal token.value
  | .identifier | .boolean | .null | .keyword => return Tree.identifier token.value
  | .punctuator =>
    if token.value == "[" then
      let key ← isolate g.assignment
      expect "]"
      return key
    else unexpected token
  | _ => unexpected token

/-- Whether the lookahead and the token behind it open an asynchronous function. -/
def atAsyncFunction? : Parse Bool := do
  if ← atContextual? "async" then
    let line := (← get).cursor.line
    let token ← peek
    return line == token.line && token.isKeyword "function"
  else return false

end Grammar

end Rubric.Script
