import Rubric.Script.Grammar

/-!
# Patterns and parameters

What a declaration or a parameter list binds. Each parser gives the tokens of the names along with
the tree, because faults in strict code are found only later.
-/

namespace Rubric.Script.Grammar

def patternWithDefault (g : Grammar) (declarator : Option Declarator) :
    Parse (Value × List Token) := do
  let (pattern, names) ← g.pattern declarator
  if ← accept "=" then
    let before ← context
    modifyContext fun c => { c with allowYield := true }
    let right ← isolate g.assignment
    modifyContext fun c => { c with allowYield := before.allowYield }
    return (Tree.node "AssignmentPattern" [("left", pattern), ("right", right)], names)
  else return (pattern, names)

/-- The elements of an array pattern. What takes the rest comes last. -/
def arrayPattern (g : Grammar) (declarator : Option Declarator) : Parse (Value × List Token) := do
  expect "["
  let (elements, names) ← repeatFrom ((#[] : Array Value), ([] : List Token))
    fun (elements, names) => do
      if ← at? "]" then return .inr (elements, names)
      else if ← accept "," then return .inl (elements.push .null, names)
      else if ← accept "..." then
        let (argument, more) ← g.pattern declarator
        let rest := Tree.node "RestElement" [("argument", argument)]
        return .inr (elements.push rest, names ++ more)
      else
        let (element, more) ← g.patternWithDefault declarator
        unless ← at? "]" do expect ","
        return .inl (elements.push element, names ++ more)
  expect "]"
  return (Tree.node "ArrayPattern" [("elements", .array elements.toList)], names)

def property (kind : String) (key value : Value) (computed method shorthand : Bool) : Value :=
  Tree.node "Property" [("key", key), ("computed", .bool computed), ("value", value),
    ("kind", .string kind), ("method", .bool method), ("shorthand", .bool shorthand)]

def propertyPattern (g : Grammar) (declarator : Option Declarator) :
    Parse (Value × List Token) := do
  let token ← lookahead
  if token.kind == .identifier then
    let key ← bindingName none
    let name := Tree.identifier token.value
    if ← accept "=" then
      let right ← g.assignment
      let value := Tree.node "AssignmentPattern" [("left", name), ("right", right)]
      return (property "init" key value false false true, [token])
    else if ← accept ":" then
      let (value, names) ← g.patternWithDefault declarator
      return (property "init" key value false false false, names)
    else return (property "init" key name false false true, [token])
  else
    let computed ← at? "["
    let key ← g.key
    expect ":"
    let (value, names) ← g.patternWithDefault declarator
    return (property "init" key value computed false false, names)

def restProperty (g : Grammar) : Parse (Value × List Token) := do
  expect "..."
  let (argument, names) ← g.pattern none
  if ← at? "=" then failAtLast "Unexpected token ="
  unless ← at? "\x7d" do failAtLast "Unexpected token"
  return (Tree.node "RestElement" [("argument", argument)], names)

def objectPattern (g : Grammar) (declarator : Option Declarator) : Parse (Value × List Token) := do
  expect "\x7b"
  let parts ← collectUntil (at? "\x7d") do
    let part ← if ← at? "..." then g.restProperty else g.propertyPattern declarator
    unless ← at? "\x7d" do expect ","
    return part
  expect "\x7d"
  return (Tree.node "ObjectPattern" [("properties", .array (parts.map (·.1)))], parts.flatMap (·.2))

def parsePattern (g : Grammar) (declarator : Option Declarator) : Parse (Value × List Token) := do
  let token ← lookahead
  if token.isPunctuator "[" then g.arrayPattern declarator
  else if token.isPunctuator "\x7b" then g.objectPattern declarator
  else
    if token.isKeyword "let" && (declarator == some .const || declarator == some .let_) then
      failAt token "let is disallowed as a lexically bound name"
    return (← bindingName declarator, [token])

/-- The parameter that takes the remaining arguments. -/
def restElement (g : Grammar) : Parse (Value × List Token) := do
  expect "..."
  let (argument, names) ← g.pattern none
  if ← at? "=" then failAtLast "Unexpected token ="
  unless ← at? ")" do failAtLast "Rest parameter must be last formal parameter"
  return (Tree.node "RestElement" [("argument", argument)], names)

/-! ## Parameter lists -/

/-- What is wrong with the names of parameters if the function turns out to be strict. A culprit
without a token is blamed at the end of the last token. -/
structure NameFaults where
  seen : List String := []
  stricted : Option (Option Token) := none  -- a fault in strict code only
  /-- The first name that only strict code forbids. -/
  firstRestricted : Option (Option Token) := none
  message : Option String := none

def restrictedParameter : String :=
  "Parameter name eval or arguments is not allowed in strict mode"

def repeatedParameter : String :=
  "Strict mode function may not have duplicate parameter names"

def reservedInStrict : String :=
  "Use of future reserved word in strict mode"

def NameFaults.add (faults : NameFaults) (strict : Bool) (token : Option Token) (name : String) :
    NameFaults :=
  let repeated := faults.seen.contains name
  let noted :=
    if strict then
      let faults := if isRestricted name then
        { faults with stricted := some token, message := some restrictedParameter } else faults
      if repeated then
        { faults with stricted := some token, message := some repeatedParameter } else faults
    else if faults.firstRestricted.isNone then
      if isRestricted name then
        { faults with firstRestricted := some token, message := some restrictedParameter }
      else if isStrictReserved name then
        { faults with firstRestricted := some token, message := some reservedInStrict }
      else if repeated then
        { faults with stricted := some token, message := some repeatedParameter }
      else faults
    else faults
  { noted with seen := name :: faults.seen }

structure Parameters where
  list : List Value
  simple : Bool  -- whether each is a plain name
  faults : NameFaults

def parameter (g : Grammar) (before : Parameters) : Parse Parameters := do
  let (tree, names) ← if ← at? "..." then g.restElement else g.patternWithDefault none
  let strict := (← context).strict
  let faults := names.foldl (fun faults token => faults.add strict (some token) token.value)
    before.faults
  return ⟨before.list ++ [tree], before.simple && Tree.isA "Identifier" tree, faults⟩

def parameters (g : Grammar) (firstRestricted : Option (Option Token)) : Parse Parameters := do
  expect "("
  let none_ : Parameters := ⟨[], true, { firstRestricted }⟩
  let all ← if ← at? ")" then pure none_ else
    repeatFrom none_ fun before => do
      if (← lookahead).kind == .finish then return .inr before
      let all ← g.parameter before
      if ← at? ")" then return .inr all
      expect ","
      if ← at? ")" then return .inr all else return .inl all
  expect ")"
  return all

/-- Refuses names that strict code forbids, if the code is strict. -/
def checkNames (faults : NameFaults) (message : Option String) : Parse Unit := do
  if (← context).strict then
    match faults.firstRestricted with
    | some culprit => blame culprit (message.getD "")
    | none => pure ()
    match faults.stricted with
    | some culprit => blame culprit (message.getD "")
    | none => pure ()

end Rubric.Script.Grammar
