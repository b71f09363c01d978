import Rubric.Script.Expression

/-!
# Statements

Statements and declarations, with labels and the rules on where `break`, `continue` and `return` may
stand.
-/

namespace Rubric.Script.Grammar

def expressionNode (expression : Value) : Value :=
  Tree.node "ExpressionStatement" [("expression", expression)]

def expressionStatement (g : Grammar) : Parse Value := do
  let expression ← g.expression
  endStatement
  return expressionNode expression

def block (g : Grammar) : Parse Value := do
  expect "\x7b"
  let body ← collectUntil (at? "\x7d") g.item
  expect "\x7d"
  return Tree.block body

def condition (g : Grammar) : Parse Value := do
  expect "("
  let test ← g.expression
  expect ")"
  return test

/-! ## Declarations -/

/-- A declared name or pattern and its first value. -/
def declaratorNode (id init : Value) : Value :=
  Tree.node "VariableDeclarator" [("id", id), ("init", init)]

def declarationNode (declarator : Declarator) (declarations : List Value) : Value :=
  Tree.node "VariableDeclaration" [("declarations", .array declarations),
    ("kind", .string declarator.word)]

/-- Refuses names that strict code may not declare. -/
def checkDeclared (id : Value) : Parse Unit := do
  if (← context).strict && Tree.isA "Identifier" id && isRestricted (Tree.nameOf id) then
    failOnLine "Variable name may not be eval or arguments in strict mode"

/-- One part of a declaration with `let` or `const`. -/
def lexicalBinding (g : Grammar) (declarator : Declarator) (inFor : Bool) : Parse Value := do
  let (id, _) ← g.parsePattern (some declarator)
  checkDeclared id
  if declarator == .const then
    if (← atKeyword? "in") || (← atContextual? "of") then return declaratorNode id .null
    else if ← accept "=" then return declaratorNode id (← isolate g.assignment)
    else failAtLast "Missing initializer in const declaration"
  else if (!inFor && !Tree.isA "Identifier" id) || (← at? "=") then
    expect "="
    return declaratorNode id (← isolate g.assignment)
  else return declaratorNode id .null

def variableBinding (g : Grammar) (inFor : Bool) : Parse Value := do
  let (id, _) ← g.parsePattern (some .var)
  checkDeclared id
  if ← accept "=" then return declaratorNode id (← isolate g.assignment)
  else
    if !Tree.isA "Identifier" id && !inFor then expect "="
    return declaratorNode id .null

def bindings (binding : Parse Value) : Parse (List Value) := do
  let first ← binding
  let rest ← collectUntil (return !(← at? ",")) do
    skip
    binding
  return first :: rest

/-- What the keyword of a declaration with `let` or `const` is. -/
def lexicalDeclarator (token : Token) : Declarator :=
  if token.value == "const" then .const else .let_

def lexicalDeclaration (g : Grammar) : Parse Value := do
  let declarator := lexicalDeclarator (← next)
  let list ← bindings (g.lexicalBinding declarator false)
  endStatement
  return declarationNode declarator list

def variableStatement (g : Grammar) : Parse Value := do
  expectKeyword "var"
  let list ← bindings (g.variableBinding false)
  endStatement
  return declarationNode .var list

/-- Whether what follows the word `let` makes it a declaration. -/
def atLexicalDeclaration? : Parse Bool := do
  let token ← peek
  return token.kind == .identifier || token.isPunctuator "[" || token.isPunctuator "\x7b" ||
    token.isKeyword "let" || token.isKeyword "yield"

/-! ## Choices and loops -/

def branch (g : Grammar) : Parse Value := do
  if (← context).strict && (← atKeyword? "function") then
    failOnLine "In strict mode code, functions can only be declared at top level or inside a block"
  g.statement

def ifStatement (g : Grammar) : Parse Value := do
  expectKeyword "if"
  let test ← g.condition
  let consequent ← g.branch
  let alternate ← if ← atKeyword? "else" then do
      skip
      g.branch
    else pure .null
  return Tree.node "IfStatement" [("test", test), ("consequent", consequent),
    ("alternate", alternate)]

def loopBody (body : Parse Value) : Parse Value := do
  let before ← context
  modifyContext fun c => { c with inIteration := true }
  let tree ← body
  modifyContext fun c => { c with inIteration := before.inIteration }
  return tree

def doWhileStatement (g : Grammar) : Parse Value := do
  expectKeyword "do"
  let body ← loopBody g.statement
  expectKeyword "while"
  let test ← g.condition
  let _ ← accept ";"
  return Tree.node "DoWhileStatement" [("body", body), ("test", test)]

def whileStatement (g : Grammar) : Parse Value := do
  expectKeyword "while"
  let test ← g.condition
  let body ← loopBody g.statement
  return Tree.node "WhileStatement" [("test", test), ("body", body)]

inductive ForHead where
  | counted (init : Value)  -- up to the semicolon behind it
  | over (left right : Value)  -- the keys of an object
  | of (left right : Value)  -- the items of a sequence

/-- Reads what the keys of an object are assigned to, and the object. -/
def forKeys (g : Grammar) (left : Value) : Parse ForHead := do
  skip
  return .over left (← g.expression)

/-- Reads what the items of a sequence are assigned to, and the sequence. -/
def forItems (g : Grammar) (left : Value) : Parse ForHead := do
  skip
  return .of left (← g.assignment)

def withoutIn {α : Type} (parser : Parse α) : Parse α := do
  let before ← context
  modifyContext fun c => { c with allowIn := false }
  let result ← parser
  modifyContext fun c => { c with allowIn := before.allowIn }
  return result

/-- Whether the only declaration of a list has no first value. -/
def isLoneWithoutInit (list : List Value) : Bool :=
  match list with
  | [only] => (Tree.field only "init" matches .null)
  | _ => false

/-- The head of a `for` loop that declares with `var`. -/
def forVariable (g : Grammar) : Parse ForHead := do
  skip
  let list ← withoutIn (bindings (g.variableBinding true))
  let init := declarationNode .var list
  if list.length == 1 && (← atKeyword? "in") then
    let isPattern := list.any fun declared =>
      !Tree.isA "Identifier" (Tree.field declared "id")
    if !isLoneWithoutInit list && (isPattern || (← context).strict) then
      failOnLine "for-in loop variable declaration may not have an initializer"
    g.forKeys init
  else if isLoneWithoutInit list && (← atContextual? "of") then g.forItems init
  else
    expect ";"
    return .counted init

/-- The head of a `for` loop that declares with `let` or `const`. -/
def forLexical (g : Grammar) : Parse ForHead := do
  let token ← next
  let declarator := lexicalDeclarator token
  if !(← context).strict && (← lookahead).value == "in" then
    g.forKeys (Tree.identifier token.value)
  else
    let list ← withoutIn (bindings (g.lexicalBinding declarator true))
    let init := declarationNode declarator list
    if isLoneWithoutInit list && (← atKeyword? "in") then g.forKeys init
    else if isLoneWithoutInit list && (← atContextual? "of") then g.forItems init
    else
      endStatement
      return .counted init

/-- The head of a `for` loop that declares nothing. -/
def forExpression (g : Grammar) : Parse ForHead := do
  let init ← withoutIn (inherit g.assignment)
  let isTarget := (← context).assignable && !Tree.isA "AssignmentExpression" init
  if ← atKeyword? "in" then
    unless isTarget do failOnLine "Invalid left-hand side in for-in"
    g.forKeys (Tree.pattern init)
  else if ← atContextual? "of" then
    unless isTarget do failOnLine "Invalid left-hand side in for-loop"
    g.forItems (Tree.pattern init)
  else
    let init ← if ← at? "," then do
        let rest ← collectUntil (return !(← at? ",")) do
          skip
          isolate g.assignment
        pure (Tree.sequence (init :: rest))
      else pure init
    expect ";"
    return .counted init

def forHead (g : Grammar) : Parse ForHead := do
  let token ← lookahead
  if ← accept ";" then return .counted .null
  else if token.isKeyword "var" then g.forVariable
  else if token.isKeyword "const" || token.isKeyword "let" then g.forLexical
  else g.forExpression

def forStatement (g : Grammar) : Parse Value := do
  expectKeyword "for"
  expect "("
  let head ← g.forHead
  let (type, fields) ← match head with
    | .counted init =>
      let test ← if ← at? ";" then pure .null else g.expression
      expect ";"
      let update ← if ← at? ")" then pure .null else g.expression
      pure ("ForStatement", [("init", init), ("test", test), ("update", update)])
    | .over left right => pure ("ForInStatement", [("left", left), ("right", right)])
    | .of left right => pure ("ForOfStatement", [("left", left), ("right", right)])
  expect ")"
  let body ← loopBody (isolate g.statement)
  return Tree.node type (fields ++ [("body", body)])

/-! ## Jumps -/

/-- The label of a jump, if there is one. -/
def jumpLabel : Parse Value := do
  let state ← get
  if state.lookahead.kind == .identifier && !state.newLine then
    let id ← bindingName none
    unless (← context).labels.contains (Tree.nameOf id) do
      failAtLast ("Undefined label '" ++ Text.shown (Tree.nameOf id) ++ "'")
    return id
  else return .null

def continueStatement : Parse Value := do
  expectKeyword "continue"
  let label ← jumpLabel
  endStatement
  if label matches .null then
    unless (← context).inIteration do failAtLast "Illegal continue statement"
  return Tree.node "ContinueStatement" [("label", label)]

def breakStatement : Parse Value := do
  expectKeyword "break"
  let label ← jumpLabel
  endStatement
  if label matches .null then
    let c ← context
    unless c.inIteration || c.inSwitch do failAtLast "Illegal break statement"
  return Tree.node "BreakStatement" [("label", label)]

def returnStatement (g : Grammar) : Parse Value := do
  unless (← context).inFunction do failOnLine "Illegal return statement"
  expectKeyword "return"
  let state ← get
  let token := state.lookahead
  let hasArgument := (!token.isPunctuator ";" && !token.isPunctuator "\x7d" && !state.newLine &&
    token.kind != .finish) || token.kind == .string || token.kind == .template
  let argument ← if hasArgument then g.expression else pure .null
  endStatement
  return Tree.node "ReturnStatement" [("argument", argument)]

def throwStatement (g : Grammar) : Parse Value := do
  expectKeyword "throw"
  if (← get).newLine then failAtLast "Illegal newline after throw"
  let argument ← g.expression
  endStatement
  return Tree.node "ThrowStatement" [("argument", argument)]

/-! ## Other statements -/

def withStatement (g : Grammar) : Parse Value := do
  if (← context).strict then failOnLine "Strict mode code may not include a with statement"
  expectKeyword "with"
  let object ← g.condition
  let body ← g.statement
  return Tree.node "WithStatement" [("object", object), ("body", body)]

def switchCase (g : Grammar) : Parse Value := do
  let test ← if ← atKeyword? "default" then do
      skip
      pure .null
    else do
      expectKeyword "case"
      g.expression
  expect ":"
  let consequent ← collectUntil
    (return (← at? "\x7d") || (← atKeyword? "default") || (← atKeyword? "case")) g.item
  return Tree.node "SwitchCase" [("test", test), ("consequent", .array consequent)]

def switchStatement (g : Grammar) : Parse Value := do
  expectKeyword "switch"
  let discriminant ← g.condition
  let before ← context
  modifyContext fun c => { c with inSwitch := true }
  expect "\x7b"
  let (cases, _) ← repeatFrom ((#[] : Array Value), false) fun (cases, hasDefault) => do
    if ← at? "\x7d" then return .inr (cases, hasDefault)
    let clause ← g.switchCase
    let isDefault := Tree.field clause "test" matches .null
    if isDefault && hasDefault then
      failAtLast "More than one default clause in switch statement"
    return .inl (cases.push clause, hasDefault || isDefault)
  expect "\x7d"
  modifyContext fun c => { c with inSwitch := before.inSwitch }
  return Tree.node "SwitchStatement" [("discriminant", discriminant),
    ("cases", .array cases.toList)]

def firstRepeated : List String → List String → Option String
  | _, [] => none
  | seen, name :: rest =>
    if seen.contains name then some name else firstRepeated (name :: seen) rest

def catchClause (g : Grammar) : Parse Value := do
  expectKeyword "catch"
  expect "("
  if ← at? ")" then unexpected (← lookahead)
  let (parameter, names) ← g.parsePattern none
  match firstRepeated [] (names.map Token.value) with
  | some name => failOnLine ("Duplicate binding " ++ Text.shown name)
  | none => pure ()
  if (← context).strict && Tree.isA "Identifier" parameter &&
      isRestricted (Tree.nameOf parameter) then
    failOnLine "Catch variable may not be eval or arguments in strict mode"
  expect ")"
  let body ← g.block
  return Tree.node "CatchClause" [("param", parameter), ("body", body)]

def tryStatement (g : Grammar) : Parse Value := do
  expectKeyword "try"
  let block ← g.block
  let handler ← if ← atKeyword? "catch" then g.catchClause else pure .null
  let finalizer ← if ← atKeyword? "finally" then do
      skip
      g.block
    else pure .null
  if (handler matches .null) && (finalizer matches .null) then
    failAtLast "Missing catch or finally after try"
  return Tree.node "TryStatement" [("block", block), ("handler", handler),
    ("finalizer", finalizer)]

def debuggerStatement : Parse Value := do
  expectKeyword "debugger"
  endStatement
  return Tree.node "DebuggerStatement" []

def labelledBody (g : Grammar) : Parse Value := do
  let token ← lookahead
  if token.isKeyword "class" then unexpected token
  else if token.isKeyword "function" then
    let declaration ← g.functionDeclaration false
    if (← context).strict then
      failAt token
        "In strict mode code, functions can only be declared at top level or inside a block"
    else if ((declaration.get? "generator").bind Value.bool?).getD false then
      failAt token "Generator declarations are not allowed in legacy contexts"
    return declaration
  else g.statement

/-- A statement that opens with a name: an expression, or a statement with a label. -/
def labelledStatement (g : Grammar) : Parse Value := do
  let expression ← g.expression
  if Tree.isA "Identifier" expression && (← at? ":") then
    skip
    let label := Tree.nameOf expression
    if (← context).labels.contains label then
      failAtLast ("Label '" ++ Text.shown label ++ "' has already been declared")
    modifyContext fun c => { c with labels := label :: c.labels }
    let body ← g.labelledBody
    modifyContext fun c => { c with labels := c.labels.erase label }
    return Tree.node "LabeledStatement" [("label", expression), ("body", body)]
  else
    endStatement
    return expressionNode expression

def keywordStatement (g : Grammar) (word : String) : Parse Value :=
  match word with
  | "break" => breakStatement
  | "continue" => continueStatement
  | "debugger" => debuggerStatement
  | "do" => g.doWhileStatement
  | "for" => g.forStatement
  | "function" => g.functionDeclaration false
  | "if" => g.ifStatement
  | "return" => g.returnStatement
  | "switch" => g.switchStatement
  | "throw" => g.throwStatement
  | "try" => g.tryStatement
  | "var" => g.variableStatement
  | "while" => g.whileStatement
  | "with" => g.withStatement
  | _ => g.expressionStatement

def parseStatement (g : Grammar) : Parse Value := do
  let token ← lookahead
  match token.kind with
  | .punctuator =>
    match token.value with
    | "\x7b" => g.block
    | ";" =>
      skip
      return Tree.node "EmptyStatement" []
    | _ => g.expressionStatement
  | .identifier =>
    if ← atAsyncFunction? then g.functionDeclaration false else g.labelledStatement
  | .keyword => g.keywordStatement token.value
  | .finish => unexpected token
  | _ => g.expressionStatement

end Rubric.Script.Grammar
