import Rubric.Script.Pattern

/-!
# Functions and classes

Function bodies with their directives, functions, methods and classes. A directive may turn the code
strict; what strict code forbids about the names read before is then found in hindsight.
-/

namespace Rubric.Script.Grammar

/-! ## Bodies -/

/-- A statement that opens with a string, and its directive if the string is all of it. -/
def directive (g : Grammar) : Parse (Value × Option String) := do
  let token ← lookahead
  let expression ← g.expression
  let text := if Tree.isA "Literal" expression then
    String.ofList ((token.raw.toList.drop 1).dropLast) else ""
  endStatement
  let statement := Tree.node "ExpressionStatement" [("expression", expression)]
  return (statement, if text.isEmpty then none else some text)

def directives (g : Grammar) : Parse (List Value) := do
  let (statements, _) ← repeatFrom ((#[] : Array Value), (none : Option Token))
    fun (statements, firstOctal) => do
      let token ← lookahead
      if token.kind != .string then return .inr (statements, firstOctal)
      let (statement, text) ← g.directive
      let statements := statements.push statement
      match text with
      | none => return .inr (statements, firstOctal)
      | some "use strict" =>
        modifyContext fun c => { c with strict := true }
        match firstOctal with
        | some octal => failAt octal "Octal literals are not allowed in strict mode."
        | none => pure ()
        unless (← context).allowStrictDirective do
          failAt token
            "Illegal 'use strict' directive in function with non-simple parameter list"
        return .inl (statements, firstOctal)
      | some _ =>
        let firstOctal := firstOctal.or (if token.octal then some token else none)
        return .inl (statements, firstOctal)
  return statements.toList

def functionBody (g : Grammar) : Parse Value := do
  expect "\x7b"
  let opening ← g.directives
  let before ← context
  modifyContext fun c => { c with
    labels := [], inIteration := false, inSwitch := false, inFunction := true }
  let statements ← collectUntil
    (return (← lookahead).kind == .finish || (← at? "\x7d")) g.item
  expect "\x7d"
  modifyContext fun c => { c with
    labels := before.labels, inIteration := before.inIteration, inSwitch := before.inSwitch
    inFunction := before.inFunction }
  return Tree.block (opening ++ statements)

/-! ## Functions -/

def function (type : String) (id : Value) (parameters : List Value) (body : Value)
    (generator : Bool) : Value :=
  Tree.node type [("id", id), ("params", .array parameters), ("body", body),
    ("generator", .bool generator)]

/-- Checks the name of a function. In code that is not strict so far, a name that strict code
forbids is noted. -/
def functionName (token : Token) : Parse (Option (Option Token) × Option String) := do
  let forbidden := "Function name may not be eval or arguments in strict mode"
  if (← context).strict then
    if isRestricted token.value then failAt token forbidden
    return (none, none)
  else if isRestricted token.value then return (some (some token), some forbidden)
  else if isStrictReserved token.value then return (some (some token), some reservedInStrict)
  else return (none, none)

/-- The parameters and the body of a function, whose name has been checked. -/
def functionRest (g : Grammar) (firstRestricted : Option (Option Token))
    (message : Option String) : Parse (List Value × Value) := do
  let parameters ← g.parameters firstRestricted
  let before ← context
  modifyContext fun c => { c with allowStrictDirective := parameters.simple }
  let body ← g.functionBody
  checkNames parameters.faults (parameters.faults.message.or message)
  modifyContext fun c => { c with
    strict := before.strict, allowStrictDirective := before.allowStrictDirective }
  return (parameters.list, body)

/-- The words before the name of a function: whether it is asynchronous, and whether it generates.
-/
def functionOpening : Parse (Bool × Bool) := do
  let isAsync ← atContextual? "async"
  if isAsync then skip
  expectKeyword "function"
  let generator ← if isAsync then pure false else accept "*"
  return (isAsync, generator)

/-- A function declaration. Behind `export default` it needs no name. -/
def functionDeclaration (g : Grammar) (nameless : Bool) : Parse Value := do
  let (isAsync, generator) ← functionOpening
  let (id, firstRestricted, message) ←
    if nameless && (← at? "(") then pure (.null, none, none)
    else do
      let token ← lookahead
      let id ← bindingName none
      let (firstRestricted, message) ← functionName token
      pure (id, firstRestricted, message)
  let before ← context
  modifyContext fun c => { c with await := isAsync, allowYield := !generator }
  let (parameters, body) ← g.functionRest firstRestricted message
  modifyContext fun c => { c with await := before.await, allowYield := before.allowYield }
  return function "FunctionDeclaration" id parameters body generator

def functionExpression (g : Grammar) : Parse Value := do
  let (isAsync, generator) ← functionOpening
  let before ← context
  modifyContext fun c => { c with await := isAsync, allowYield := !generator }
  let (id, firstRestricted, message) ←
    if ← at? "(" then pure (.null, none, none)
    else do
      let token ← lookahead
      let id ← if !before.strict && !generator && token.isKeyword "yield" then name
        else bindingName none
      let (firstRestricted, message) ← functionName token
      pure (id, firstRestricted, message)
  let (parameters, body) ← g.functionRest firstRestricted message
  modifyContext fun c => { c with await := before.await, allowYield := before.allowYield }
  return function "FunctionExpression" id parameters body generator

/-! ## Methods -/

def methodBody (g : Grammar) (parameters : Parameters) : Parse Value := do
  notATarget
  let before ← context
  modifyContext fun c => { c with allowStrictDirective := parameters.simple }
  let body ← isolate g.functionBody
  checkNames parameters.faults parameters.faults.message
  modifyContext fun c => { c with
    strict := before.strict, allowStrictDirective := before.allowStrictDirective }
  return body

def method (g : Grammar) : Parse Value := do
  let before ← context
  modifyContext fun c => { c with allowYield := true }
  let parameters ← g.parameters none
  let body ← g.methodBody parameters
  modifyContext fun c => { c with allowYield := before.allowYield }
  return function "FunctionExpression" .null parameters.list body false

def asyncMethod (g : Grammar) : Parse Value := do
  let before ← context
  modifyContext fun c => { c with allowYield := false, await := true }
  let parameters ← g.parameters none
  let body ← g.methodBody parameters
  modifyContext fun c => { c with allowYield := before.allowYield, await := before.await }
  return function "FunctionExpression" .null parameters.list body false

def generatorMethod (g : Grammar) : Parse Value := do
  let before ← context
  modifyContext fun c => { c with allowYield := true }
  let parameters ← g.parameters none
  modifyContext fun c => { c with allowYield := false }
  let body ← g.methodBody parameters
  modifyContext fun c => { c with allowYield := before.allowYield }
  return function "FunctionExpression" .null parameters.list body true

def getter (g : Grammar) : Parse Value := do
  let before ← context
  modifyContext fun c => { c with allowYield := true }
  let parameters ← g.parameters none
  unless parameters.list.isEmpty do failOnLine "Getter must not have any formal parameters"
  let body ← g.methodBody parameters
  modifyContext fun c => { c with allowYield := before.allowYield }
  return function "FunctionExpression" .null parameters.list body false

def setter (g : Grammar) : Parse Value := do
  let before ← context
  modifyContext fun c => { c with allowYield := true }
  let parameters ← g.parameters none
  match parameters.list with
  | [parameter] =>
    if Tree.isA "RestElement" parameter then
      failOnLine "Setter function argument must not be a rest parameter"
  | _ => failOnLine "Setter must have exactly one formal parameter"
  let body ← g.methodBody parameters
  modifyContext fun c => { c with allowYield := before.allowYield }
  return function "FunctionExpression" .null parameters.list body false

/-! ## Classes -/

/-- The beginning of a class element: the token that decides what it is, its key as far as it has
been read, and what the words before the key say. -/
structure ElementOpening where
  token : Token
  key : Option Value := none
  computed : Bool := false
  isStatic : Bool := false
  isAsync : Bool := false

/-- Reads `static` and the key behind it, if the key read so far is that word. -/
def staticOpening (g : Grammar) (opening : ElementOpening) : Parse ElementOpening := do
  let token ← lookahead
  if (opening.key.map Tree.nameOf) == some "static" &&
      (token.beginsKey || token.isPunctuator "*") then
    let computed ← at? "["
    if ← accept "*" then return { opening with token, computed, isStatic := true }
    else return { opening with token, computed, isStatic := true, key := some (← g.key) }
  else return opening

/-- Reads `async` and the key behind it, if the key read so far is that word. -/
def asyncOpening (g : Grammar) (opening : ElementOpening) : Parse ElementOpening := do
  let state ← get
  let token := state.lookahead
  if opening.token.isContextual "async" && !state.newLine &&
      !([":", "(", "*"].contains token.value) then
    let key ← g.key
    if token.isContextual "constructor" then
      failAt token "Class constructor may not be an async method"
    return { opening with token, key := some key, isAsync := true }
  else return opening

def elementOpening (g : Grammar) : Parse ElementOpening := do
  let token ← lookahead
  if ← accept "*" then return { token }
  else
    let computed ← at? "["
    let key ← g.key
    let opening ← g.staticOpening { token, computed, key := some key }
    g.asyncOpening opening

structure Element where
  kind : String
  key : Value
  computed : Bool
  value : Value
  isMethod : Bool

/-- Reads the key and the value of an accessor or of a method that generates. -/
def specialElement (g : Grammar) (kind : String) (isMethod : Bool) (value : Parse Value) :
    Parse Element := do
  let computed ← at? "["
  let key ← g.key
  let value ← value
  return ⟨kind, key, computed, value, isMethod⟩

def elementRest (g : Grammar) (opening : ElementOpening) : Parse Element := do
  let token ← lookahead
  let isKey := token.beginsKey
  if opening.token.isContextual "get" && isKey then
    g.specialElement "get" false do
      modifyContext fun c => { c with allowYield := false }
      g.getter
  else if opening.token.isContextual "set" && isKey then g.specialElement "set" false g.setter
  else if opening.token.isPunctuator "*" && isKey then
    g.specialElement "method" true g.generatorMethod
  else
    match opening.key with
    | some key =>
      if token.isPunctuator "(" then
        let value ← if opening.isAsync then g.asyncMethod else g.method
        return ⟨"method", key, opening.computed, value, true⟩
      else unexpected token
    | none => unexpected token

/-- A class element, and whether it is the constructor. -/
def classElement (g : Grammar) (hasConstructor : Bool) : Parse (Value × Bool) := do
  let opening ← g.elementOpening
  let element ← g.elementRest opening
  let node (kind : String) := Tree.node "MethodDefinition" [("key", element.key),
    ("computed", .bool element.computed), ("value", element.value), ("kind", .string kind),
    ("static", .bool opening.isStatic)]
  if !element.computed && opening.isStatic && Tree.isKey "prototype" element.key then
    failAt opening.token "Classes may not have static property named prototype"
  else if !element.computed && !opening.isStatic && Tree.isKey "constructor" element.key then
    let generates := ((element.value.get? "generator").bind Value.bool?).getD false
    if element.kind != "method" || !element.isMethod || generates then
      failAt opening.token "Class constructor may not be an accessor"
    if hasConstructor then failAt opening.token "A class may only have one constructor"
    return (node "constructor", true)
  else return (node element.kind, hasConstructor)

def classBody (g : Grammar) : Parse Value := do
  expect "\x7b"
  let (elements, _) ← repeatFrom ((#[] : Array Value), false) fun (elements, hasConstructor) => do
    if ← at? "\x7d" then return .inr (elements, hasConstructor)
    else if ← accept ";" then return .inl (elements, hasConstructor)
    else
      let (element, hasConstructor) ← g.classElement hasConstructor
      return .inl (elements.push element, hasConstructor)
  expect "\x7d"
  return Tree.node "ClassBody" [("body", .array elements.toList)]

def classRest (g : Grammar) (type : String) (id : Value) : Parse Value := do
  let superClass ← if ← atKeyword? "extends" then do
      skip
      isolate g.heritage
    else pure .null
  let body ← g.classBody
  return Tree.node type [("id", id), ("superClass", superClass), ("body", body)]

/-- A class declaration. Behind `export default` it needs no name. Class code is strict. -/
def classDeclaration (g : Grammar) (nameless : Bool) : Parse Value := do
  let before ← context
  modifyContext fun c => { c with strict := true }
  expectKeyword "class"
  let id ← if nameless && (← lookahead).kind != .identifier then pure .null else bindingName none
  let tree ← g.classRest "ClassDeclaration" id
  modifyContext fun c => { c with strict := before.strict }
  return tree

def classExpression (g : Grammar) : Parse Value := do
  let before ← context
  modifyContext fun c => { c with strict := true }
  expectKeyword "class"
  let id ← if (← lookahead).kind == .identifier then bindingName none else pure .null
  let tree ← g.classRest "ClassExpression" id
  modifyContext fun c => { c with strict := before.strict }
  return tree

end Rubric.Script.Grammar
