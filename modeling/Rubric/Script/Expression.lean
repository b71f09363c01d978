import Rubric.Script.Function
import Rubric.Script.Regular

/-!
# Expressions

From primary expressions up to assignments and arrow functions. What stands in parentheses may turn
out to be the parameters of an arrow function, and what stands before `=` a pattern, so the context
notes what each expression can still be taken for.
-/

namespace Rubric.Script.Grammar

/-! ## Templates, lists and objects -/

def quasi (token : Token) : Value :=
  Tree.node "TemplateElement" [("value", .string token.value), ("tail", .bool token.tail)]

def template (g : Grammar) : Parse Value := do
  let head ← next
  let (quasis, expressions, _) ← repeatFrom (#[quasi head], (#[] : Array Value), head.tail)
    fun (quasis, expressions, tail) => do
      if tail then return .inr (quasis, expressions, tail)
      let expression ← g.expression
      unless (← lookahead).kind == .template do failAtLast illegalText
      let part ← next
      return .inl (quasis.push (quasi part), expressions.push expression, part.tail)
  return Tree.node "TemplateLiteral" [("quasis", .array quasis.toList),
    ("expressions", .array expressions.toList)]

def spread (g : Grammar) : Parse Value := do
  expect "..."
  let argument ← inherit g.assignment
  return Tree.node "SpreadElement" [("argument", argument)]

def arrayLiteral (g : Grammar) : Parse Value := do
  expect "["
  let elements ← collectUntil (at? "]") do
    if ← accept "," then return .null
    else if ← at? "..." then
      let element ← g.spread
      unless ← at? "]" do
        notATarget
        expect ","
      return element
    else
      let element ← inherit g.assignment
      unless ← at? "]" do expect ","
      return element
  expect "]"
  return Tree.node "ArrayExpression" [("elements", .array elements)]

/-- The key of a property and whether the word `async` stands before it. -/
def propertyOpening (g : Grammar) (token : Token) : Parse (Option Value × Bool × Bool) := do
  if token.kind == .identifier then
    skip
    let state ← get
    let behind := state.lookahead
    let computed := behind.isPunctuator "["
    let isAsync := !state.newLine && token.value == "async" &&
      !(behind.kind == .punctuator && [":", "(", "*", ","].contains behind.value)
    let key ← if isAsync then g.key else pure (Tree.identifier token.value)
    return (some key, computed, isAsync)
  else if ← accept "*" then return (none, false, false)
  else
    let computed ← at? "["
    return (some (← g.key), computed, false)

/-- A property whose value is an accessor or a method that generates. -/
def specialProperty (g : Grammar) (kind : String) (isMethod : Bool) (value : Parse Value) :
    Parse Value := do
  let computed ← at? "["
  let key ← g.key
  let value ← value
  return property kind key value computed isMethod false

/-- A property that only names a variable, perhaps with a default for a pattern. -/
def shorthandProperty (g : Grammar) (token : Token) (key : Value) (computed : Bool) :
    Parse Value := do
  let name := Tree.identifier token.value
  let mark ← lookahead
  if mark.isPunctuator "=" then
    modifyContext fun c => { c with shorthandDefault := some mark }
    skip
    let right ← isolate g.assignment
    let value := Tree.node "AssignmentPattern" [("left", name), ("right", right)]
    return property "init" key value computed false true
  else return property "init" key name computed false true

def objectProperty (g : Grammar) (hasPrototype : Bool) : Parse (Value × Bool) := do
  let token ← lookahead
  let (key?, computed, isAsync) ← g.propertyOpening token
  let isKey := (← lookahead).beginsKey
  -- The words are names of properties themselves, unless a key follows them.
  if token.isContextual "get" && !isAsync && isKey then
    let tree ← g.specialProperty "get" false do
      modifyContext fun c => { c with allowYield := false }
      g.getter
    return (tree, hasPrototype)
  else if token.isContextual "set" && !isAsync && isKey then
    return (← g.specialProperty "set" false g.setter, hasPrototype)
  else if token.isPunctuator "*" && isKey then
    return (← g.specialProperty "init" true g.generatorMethod, hasPrototype)
  else
    match key? with
    | none => unexpected (← lookahead)
    | some key =>
      if (← at? ":") && !isAsync then
        let isPrototype := !computed && Tree.isKey "__proto__" key
        if isPrototype && hasPrototype then
          failOnLine "Duplicate __proto__ fields are not allowed in object literals"
        skip
        let value ← inherit g.assignment
        return (property "init" key value computed false false, hasPrototype || isPrototype)
      else if ← at? "(" then
        let value ← if isAsync then g.asyncMethod else g.method
        return (property "init" key value computed true false, hasPrototype)
      else if token.kind == .identifier then
        return (← g.shorthandProperty token key computed, hasPrototype)
      else unexpected (← next)

def objectLiteral (g : Grammar) : Parse Value := do
  expect "\x7b"
  let (properties, _) ← repeatFrom ((#[] : Array Value), false) fun (properties, hasPrototype) => do
    if ← at? "\x7d" then return .inr (properties, hasPrototype)
    let (tree, hasPrototype) ← if ← at? "..." then pure (← g.spread, hasPrototype)
      else g.objectProperty hasPrototype
    unless ← at? "\x7d" do expect ","
    return .inl (properties.push tree, hasPrototype)
  expect "\x7d"
  return Tree.node "ObjectExpression" [("properties", .array properties.toList)]

/-! ## Parentheses -/

/-- Takes the arrow that must follow, or faults at what stands there. -/
def requireArrow : Parse Unit := do
  unless ← at? "=>" do expect "=>"

/-- How a list in parentheses goes on after an expression and a comma: it ends as parameters, or it
is a list of expressions. -/
inductive GroupEnd where
  | parameters (list : List Value)
  | expressions (list : List Value)

def groupRest (g : Grammar) (first : Value) : Parse GroupEnd := do
  modifyContext fun c => { c with assignable := false }
  repeatFrom #[first] fun read => do
    if !(← at? ",") then return .inr (.expressions read.toList)
    skip
    if ← accept ")" then return .inr (.parameters (read.toList.map Tree.pattern))
    else if ← at? "..." then
      unless (← context).bindable do unexpected (← lookahead)
      let (rest, _) ← g.restElement
      expect ")"
      requireArrow
      modifyContext fun c => { c with bindable := false }
      return .inr (.parameters ((read.push rest).toList.map Tree.pattern))
    else return .inl (read.push (← inherit g.assignment))

/-- Closes parentheses around an expression. Before an arrow the expression is the parameters. -/
def closeGroup (expression : Value) : Parse Value := do
  expect ")"
  let token ← lookahead
  let result ← if token.isPunctuator "=>" then
      if Tree.isA "Identifier" expression && Tree.nameOf expression == "yield" then
        pure (Tree.placeholder [expression] false)
      else do
        unless (← context).bindable do unexpected token
        let parameters := if Tree.isA "SequenceExpression" expression then
          Tree.listField expression "expressions" else [expression]
        pure (Tree.placeholder (parameters.map Tree.pattern) false)
    else pure expression
  modifyContext fun c => { c with bindable := false }
  return result

/-- An expression in parentheses, or the parameters of an arrow function. -/
def group (g : Grammar) : Parse Value := do
  expect "("
  if ← accept ")" then
    requireArrow
    return Tree.placeholder [] false
  else if ← at? "..." then
    let (rest, _) ← g.restElement
    expect ")"
    requireArrow
    return Tree.placeholder [rest] false
  else
    modifyContext fun c => { c with bindable := true }
    let first ← inherit g.assignment
    if ← at? "," then
      match ← g.groupRest first with
      | .parameters list => return Tree.placeholder list false
      | .expressions list => closeGroup (Tree.sequence list)
    else closeGroup first

/-! ## Primary expressions -/

def atImportCall? : Parse Bool := do
  if ← atKeyword? "import" then return (← peek).isPunctuator "("
  else return false

/-- A regular expression, whose first character or two are the lookahead. -/
def regularExpression : Parse Value := do
  notATarget
  let state ← get
  let from_ := { state.cursor with
    rest := state.lookahead.value.toList ++ state.cursor.rest, index := state.start.index }
  let behind ← Lex.regular from_
  let length := behind.index - from_.index
  unless Regular.isValid (from_.rest.take length) do
    throw (behind.fault "Invalid regular expression")
  set { state with cursor := behind }
  skip
  return Tree.node "Literal" []

def keywordPrimary (g : Grammar) : Parse Value := do
  let token ← lookahead
  let c ← context
  if !c.strict && c.allowYield && token.isKeyword "yield" then name
  else if !c.strict && token.isKeyword "let" then return Tree.identifier (← next).value
  else
    notATarget
    if token.isKeyword "function" then g.functionExpression
    else if token.isKeyword "this" then
      skip
      return Tree.node "ThisExpression" []
    else if token.isKeyword "class" then g.classExpression
    else if ← atImportCall? then
      skip
      return Tree.node "Import" []
    else unexpected (← next)

def literal : Parse Value := do
  notATarget
  return Tree.literal (← next).value

def primary (g : Grammar) : Parse Value := do
  let token ← lookahead
  match token.kind with
  | .identifier =>
    let c ← context
    if (c.isModule || c.await) && token.value == "await" then unexpected token
    if ← atAsyncFunction? then g.functionExpression
    else return Tree.identifier (← next).value
  | .number | .string =>
    if (← context).strict && token.octal then
      failAt token "Octal literals are not allowed in strict mode."
    literal
  | .boolean | .null => literal
  | .template => if token.head then g.template else breakDown .strayTemplate
  | .keyword => g.keywordPrimary
  | .punctuator =>
    match token.value with
    | "(" =>
      modifyContext fun c => { c with bindable := false }
      inherit g.group
    | "[" => inherit g.arrayLiteral
    | "\x7b" => inherit g.objectLiteral
    | "/" | "/=" => regularExpression
    | _ => unexpected (← next)
  | .finish => unexpected (← next)

/-! ## Members and calls -/

def arguments (g : Grammar) (argument : Parse Value) : Parse (List Value) := do
  expect "("
  let list ← collectUntil (at? ")") do
    let tree ← if ← at? "..." then g.spread else isolate argument
    unless ← at? ")" do expect ","
    return tree
  expect ")"
  return list

def staticMember (object : Value) : Parse Value := do
  onlyAssignable
  expect "."
  let property ← name
  return Tree.node "MemberExpression" [("object", object), ("property", property),
    ("computed", .bool false)]

def computedMember (g : Grammar) (object : Value) : Parse Value := do
  onlyAssignable
  expect "["
  let property ← isolate g.expression
  expect "]"
  return Tree.node "MemberExpression" [("object", object), ("property", property),
    ("computed", .bool true)]

def taggedTemplate (g : Grammar) (tag : Value) : Parse Value := do
  return Tree.node "TaggedTemplateExpression" [("tag", tag), ("quasi", ← g.template)]

def construction (g : Grammar) : Parse Value := do
  let word ← name
  if ← accept "." then
    let token ← lookahead
    if token.isContextual "target" && (← context).inFunction then
      let property ← name
      return Tree.node "MetaProperty" [("meta", word), ("property", property)]
    else unexpected token
  else if ← atKeyword? "import" then unexpected (← lookahead)
  else
    let callee ← isolate g.callee
    let list ← if ← at? "(" then g.arguments g.assignment else pure []
    notATarget
    return Tree.node "NewExpression" [("callee", callee), ("arguments", .array list)]

def memberBase (g : Grammar) : Parse Value := do
  if ← atKeyword? "new" then inherit g.construction else inherit g.primary

/-- What `new` is applied to: an expression with members, without calls. -/
def parseCallee (g : Grammar) : Parse Value := do
  let base ← if (← atKeyword? "super") && (← context).inFunction then do
      skip
      unless (← at? "[") || (← at? ".") do unexpected (← lookahead)
      pure (Tree.node "Super" [])
    else g.memberBase
  repeatFrom base fun tree => do
    let token ← lookahead
    if token.isPunctuator "[" then return .inl (← g.computedMember tree)
    else if token.isPunctuator "." then return .inl (← staticMember tree)
    else if token.kind == .template && token.head then return .inl (← g.taggedTemplate tree)
    else return .inr tree

/-- An argument of what may turn out to be an asynchronous arrow function. -/
def asyncArgument (g : Grammar) : Parse Value := do
  let argument ← g.assignment
  modifyContext fun c => { c with shorthandDefault := none }
  return argument

/-- A call of what has been read. Behind the word `async` the arguments may be parameters. -/
def call (g : Grammar) (callee : Value) (maybeAsync : Bool) : Parse Value := do
  notATarget
  let list ← g.arguments (if maybeAsync then g.asyncArgument else g.assignment)
  if Tree.isA "Import" callee && list.length != 1 then failOnLine "Unexpected token"
  if maybeAsync && (← at? "=>") then return Tree.placeholder (list.map Tree.pattern) true
  else return Tree.node "CallExpression" [("callee", callee), ("arguments", .array list)]

def leftHandSide (g : Grammar) : Parse Value := do
  let first ← lookahead
  let before ← context
  modifyContext fun c => { c with allowIn := true }
  let base ← if first.isKeyword "super" && before.inFunction then do
      skip
      unless (← at? "(") || (← at? ".") || (← at? "[") do unexpected (← lookahead)
      pure (Tree.node "Super" [])
    else g.memberBase
  let tree ← repeatFrom base fun tree => do
    let token ← lookahead
    if token.isPunctuator "." then return .inl (← staticMember tree)
    else if token.isPunctuator "(" then
      let maybeAsync := first.isContextual "async" && first.line == token.line
      return .inl (← g.call tree maybeAsync)
    else if token.isPunctuator "[" then return .inl (← g.computedMember tree)
    else if token.kind == .template && token.head then return .inl (← g.taggedTemplate tree)
    else return .inr tree
  modifyContext fun c => { c with allowIn := before.allowIn }
  return tree

/-! ## Operators -/

def unaryNode (type operator : String) (argument : Value) (before : Bool) : Value :=
  Tree.node type [("operator", .string operator), ("argument", argument),
    ("prefix", .bool before)]

/-- Refuses an operand of `++` or `--` that cannot be assigned to. -/
def checkUpdated (operand : Value) (forbidden : String) : Parse Unit := do
  let c ← context
  if c.strict && Tree.isA "Identifier" operand && isRestricted (Tree.nameOf operand) then
    failOnLine forbidden
  unless c.assignable do failOnLine "Invalid left-hand side in assignment"

def update (g : Grammar) : Parse Value := do
  if (← at? "++") || (← at? "--") then
    let operator ← next
    let operand ← inherit g.unary
    checkUpdated operand
      "Prefix increment/decrement may not have eval or arguments operand in strict mode"
    notATarget
    return unaryNode "UpdateExpression" operator.value operand true
  else
    let operand ← inherit g.leftHandSide
    let state ← get
    if !state.newLine && (state.lookahead.isPunctuator "++" || state.lookahead.isPunctuator "--")
    then
      checkUpdated operand
        "Postfix increment/decrement may not have eval or arguments operand in strict mode"
      notATarget
      let operator ← next
      return unaryNode "UpdateExpression" operator.value operand false
    else return operand

def isUnaryOperator (token : Token) : Bool :=
  (token.kind == .punctuator && ["+", "-", "~", "!"].contains token.value) ||
    (token.kind == .keyword && ["delete", "void", "typeof"].contains token.value)

def parseUnary (g : Grammar) : Parse Value := do
  let token ← lookahead
  if isUnaryOperator token then
    skip
    let operand ← inherit g.unary
    if (← context).strict && token.value == "delete" && Tree.isA "Identifier" operand then
      failOnLine "Delete of an unqualified identifier in strict mode."
    notATarget
    return unaryNode "UnaryExpression" token.value operand true
  else if (← context).await && token.isContextual "await" then
    skip
    let operand ← g.unary
    return Tree.node "AwaitExpression" [("argument", operand)]
  else g.update

def parseExponentiation (g : Grammar) : Parse Value := do
  let base ← inherit g.parseUnary
  if !Tree.isA "UnaryExpression" base && (← at? "**") then
    skip
    notATarget
    let exponent ← isolate g.exponentiation
    return Tree.binary "**" base exponent
  else return base

/-- How strongly an operator binds; zero if the token is none. -/
def precedence (allowIn : Bool) (token : Token) : Nat :=
  match token.kind with
  | .punctuator =>
    match token.value with
    | "||" => 1
    | "&&" => 2
    | "|" => 3
    | "^" => 4
    | "&" => 5
    | "==" | "!=" | "===" | "!==" => 6
    | "<" | ">" | "<=" | ">=" => 7
    | "<<" | ">>" | ">>>" => 8
    | "+" | "-" => 9
    | "*" | "/" | "%" => 11
    | _ => 0
  | .keyword => if token.value == "instanceof" || (allowIn && token.value == "in") then 7 else 0
  | _ => 0

/-- An operand with an operator behind it that waits for its other operand. -/
structure Pending where
  left : Value
  operator : String
  strength : Nat

/-- Applies the waiting operators that bind at least as strongly as a new one, the latest first. -/
def reduce (strength : Nat) (right : Value) : List Pending → Value × List Pending
  | [] => (right, [])
  | pending :: rest =>
    if strength ≤ pending.strength then
      reduce strength (Tree.binary pending.operator pending.left right) rest
    else (right, pending :: rest)

def operation (g : Grammar) : Parse Value := do
  let first ← inherit g.parseExponentiation
  repeatFrom (first, ([] : List Pending)) fun (right, waiting) => do
    let token ← lookahead
    let strength := precedence (← context).allowIn token
    let (left, waiting) := reduce strength right waiting
    -- No operator follows, so all that waited have been applied.
    if strength == 0 then return .inr left
    skip
    notATarget
    let right ← isolate g.exponentiation
    return .inl (right, ⟨left, token.value, strength⟩ :: waiting)

def conditional (g : Grammar) : Parse Value := do
  let test ← inherit g.operation
  if ← accept "?" then
    let before ← context
    modifyContext fun c => { c with allowIn := true }
    let consequent ← isolate g.assignment
    modifyContext fun c => { c with allowIn := before.allowIn }
    expect ":"
    let alternate ← isolate g.assignment
    notATarget
    return Tree.node "ConditionalExpression" [("test", test), ("consequent", consequent),
      ("alternate", alternate)]
  else return test

/-! ## Arrow functions -/

/-- A default of a parameter that is the bare word `yield` is a name after all. -/
def arrowParameter (isAsync : Bool) (parameter : Value) : Parse Value := do
  if Tree.isA "AssignmentPattern" parameter then
    let right := Tree.field parameter "right"
    if Tree.isA "YieldExpression" right then
      unless (right.get? "argument").all (· matches .null) do unexpected (← lookahead)
      return Tree.node "AssignmentPattern" [("left", Tree.field parameter "left"),
        ("right", Tree.identifier "yield")]
    else return parameter
  else
    if isAsync && Tree.isA "Identifier" parameter && Tree.nameOf parameter == "await" then
      unexpected (← lookahead)
    return parameter

/-- The parameters of an arrow function from the expression before the arrow; nothing if they cannot
be parameters. -/
def arrowParameters (tree : Value) : Parse (Option Parameters) := do
  if Tree.isA "Identifier" tree || Tree.isA "ArrowParameterPlaceHolder" tree then
    let isAsync := ((tree.get? "async").bind Value.bool?).getD false
    let given := if Tree.isA "Identifier" tree then [tree] else Tree.listField tree "params"
    let list ← given.mapM (arrowParameter isAsync)
    let c ← context
    let faults := (list.flatMap Tree.boundNames).foldl
      (fun faults name => NameFaults.add faults c.strict none name) {}
    if (c.strict || !c.allowYield) && list.any (Tree.isA "YieldExpression") then
      unexpected (← lookahead)
    if faults.message == some repeatedParameter then failAtLast repeatedParameter
    return some ⟨list, list.all (Tree.isA "Identifier"), faults⟩
  else return none

def arrowRest (g : Grammar) (parameters : Parameters) (isAsync : Bool) : Parse Value := do
  let state ← get
  if state.newLine then unexpected state.lookahead
  modifyContext fun c => { c with shorthandDefault := none }
  let before ← context
  modifyContext fun c => { c with
    allowStrictDirective := parameters.simple, allowYield := true, await := isAsync }
  expect "=>"
  let body ← if ← at? "\x7b" then do
      modifyContext fun c => { c with allowIn := true }
      let body ← g.functionBody
      modifyContext fun c => { c with allowIn := before.allowIn }
      pure body
    else isolate g.assignment
  checkNames parameters.faults parameters.faults.message
  modifyContext fun c => { c with
    strict := before.strict, allowStrictDirective := before.allowStrictDirective
    allowYield := before.allowYield, await := before.await }
  return Tree.node "ArrowFunctionExpression" [("params", .array parameters.list), ("body", body),
    ("generator", .bool false)]

/-! ## Assignments -/

def beginsOperand (token : Token) : Bool :=
  match token.kind with
  | .punctuator =>
    ["[", "(", "\x7b", "+", "-", "!", "~", "++", "--", "/", "/="].contains token.value
  | .keyword =>
    ["class", "delete", "function", "let", "new", "super", "this", "typeof", "void",
      "yield"].contains token.value
  | _ => true

def yieldExpression (g : Grammar) : Parse Value := do
  expectKeyword "yield"
  let state ← get
  if state.newLine then return Tree.node "YieldExpression" [("argument", .null)]
  else
    let before := state.context
    modifyContext fun c => { c with allowYield := false }
    let delegates ← accept "*"
    let argument ← if delegates || beginsOperand (← lookahead) then g.assignment else pure .null
    modifyContext fun c => { c with allowYield := before.allowYield }
    return Tree.node "YieldExpression" [("argument", argument), ("delegate", .bool delegates)]

/-- The assignment to an expression that has been read, if one follows. -/
def assignTo (g : Grammar) (first : Token) (target : Value) : Parse Value := do
  if ← atAssigning? then
    let c ← context
    unless c.assignable do failOnLine "Invalid left-hand side in assignment"
    if c.strict && Tree.isA "Identifier" target then
      if isRestricted (Tree.nameOf target) then
        failAt first "Assignment to eval or arguments is not allowed in strict mode"
      if isStrictReserved (Tree.nameOf target) then failAt first reservedInStrict
    let operator ← lookahead
    let left ← if operator.value == "=" then pure (Tree.pattern target)
      else do
        notATarget
        pure target
    skip
    let right ← isolate g.assignment
    modifyContext fun c => { c with shorthandDefault := none }
    return Tree.node "AssignmentExpression" [("operator", .string operator.value), ("left", left),
      ("right", right)]
  else return target

/-- The parameter of an asynchronous arrow function without parentheses, if one follows `async`. -/
def asyncParameter (g : Grammar) (first : Token) (tree : Value) : Parse Value := do
  let token ← lookahead
  if first.isContextual "async" && first.line == token.line &&
      (token.kind == .identifier || token.isKeyword "yield") then
    let parameter ← g.primary
    return Tree.placeholder [Tree.pattern parameter] true
  else return tree

def parseAssignment (g : Grammar) : Parse Value := do
  let first ← lookahead
  if !(← context).allowYield && first.isKeyword "yield" then g.yieldExpression
  else
    let tree ← g.conditional
    let tree ← g.asyncParameter first tree
    if Tree.isA "ArrowParameterPlaceHolder" tree || (← at? "=>") then
      notATarget
      let isAsync := ((tree.get? "async").bind Value.bool?).getD false
      match ← arrowParameters tree with
      | some parameters => g.arrowRest parameters isAsync
      | none => return tree
    else g.assignTo first tree

end Rubric.Script.Grammar
