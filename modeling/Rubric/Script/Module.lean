import Rubric.Script.Statement

/-!
# Modules

Imports and exports, which only modules have, and the items that statement lists consist of.
-/

namespace Rubric.Script.Grammar

/-- What is said where a module part cannot stand. -/
def misplacedText : String := "Unexpected token"

def moduleSpecifier : Parse Value := do
  unless (← lookahead).kind == .string do failAtLast misplacedText
  return Tree.literal (← next).value

/-- Faults because the word `from` is missing. -/
def missingFrom {α : Type} : Parse α := do
  let token ← lookahead
  if token.isOversized then breakDown .oversizedNumber
  let text := token.shown
  if text.isEmpty || (token.kind == .number && text == "0") then failAtLast misplacedText
  else failAtLast ("Unexpected token " ++ text)

def fromClause : Parse Value := do
  unless ← atContextual? "from" do missingFrom
  skip
  moduleSpecifier

/-! ## Imports -/

/-- A name that is imported, perhaps under another one. -/
def importSpecifier : Parse Value := do
  let node (imported localName : Value) :=
    Tree.node "ImportSpecifier" [("local", localName), ("imported", imported)]
  if (← lookahead).kind == .identifier then
    let imported ← bindingName none
    if ← atContextual? "as" then
      skip
      return node imported (← bindingName none)
    else return node imported imported
  else
    let imported ← name
    if ← atContextual? "as" then
      skip
      return node imported (← bindingName none)
    else unexpected (← next)

def namedImports : Parse (List Value) := do
  expect "\x7b"
  let list ← collectUntil (at? "\x7d") do
    let specifier ← importSpecifier
    unless ← at? "\x7d" do expect ","
    return specifier
  expect "\x7d"
  return list

def namespaceImport : Parse Value := do
  expect "*"
  unless ← atContextual? "as" do failAtLast misplacedText
  skip
  return Tree.node "ImportNamespaceSpecifier" [("local", ← name)]

def importSpecifiers : Parse (List Value) := do
  let token ← lookahead
  if token.isPunctuator "\x7b" then namedImports
  else if token.isPunctuator "*" then return [← namespaceImport]
  else if token.isName && !token.isKeyword "default" then
    let first := Tree.node "ImportDefaultSpecifier" [("local", ← name)]
    if ← accept "," then
      if ← at? "*" then return [first, ← namespaceImport]
      else if ← at? "\x7b" then return first :: (← namedImports)
      else unexpected (← lookahead)
    else return [first]
  else unexpected (← next)

def importDeclaration : Parse Value := do
  if (← context).inFunction then failAtLast misplacedText
  expectKeyword "import"
  let (specifiers, source) ← if (← lookahead).kind == .string then
      pure ([], ← moduleSpecifier)
    else do
      let specifiers ← importSpecifiers
      pure (specifiers, ← fromClause)
  endStatement
  return Tree.node "ImportDeclaration" [("specifiers", .array specifiers), ("source", source)]

/-! ## Exports -/

/-- A name that is exported, perhaps under another one. -/
def exportSpecifier : Parse Value := do
  let localName ← name
  let exported ← if ← atContextual? "as" then do
      skip
      name
    else pure localName
  return Tree.node "ExportSpecifier" [("exported", exported), ("local", localName)]

def exportDefault (g : Grammar) : Parse Value := do
  skip
  let node (declaration : Value) :=
    Tree.node "ExportDefaultDeclaration" [("declaration", declaration)]
  if ← atKeyword? "function" then return node (← g.functionDeclaration true)
  else if ← atKeyword? "class" then return node (← g.classDeclaration true)
  else if ← atContextual? "async" then
    if ← atAsyncFunction? then return node (← g.functionDeclaration true)
    else return node (← g.assignment)
  else
    if ← atContextual? "from" then failAtLast "Unexpected token from"
    let tree ← if ← at? "\x7b" then g.objectLiteral
      else if ← at? "[" then g.arrayLiteral
      else g.assignment
    endStatement
    return node tree

def exportNamed (declaration : Value) (specifiers : List Value) (source : Value) : Value :=
  Tree.node "ExportNamedDeclaration" [("declaration", declaration),
    ("specifiers", .array specifiers), ("source", source)]

/-- The names that are exported in braces, and whether one of them is `default`. -/
def exportList : Parse (List Value × Bool) := do
  expect "\x7b"
  let list ← collectUntil (at? "\x7d") do
    let isDefault ← atKeyword? "default"
    let specifier ← exportSpecifier
    unless ← at? "\x7d" do expect ","
    return (specifier, isDefault)
  expect "\x7d"
  return (list.map (·.1), list.any (·.2))

/-- Names that are exported, from here or from another module. -/
def exportNames : Parse Value := do
  let (first, hasList) ← if (← lookahead).kind == .identifier then do
      let specifier := Tree.node "ExportDefaultSpecifier" [("local", ← name)]
      pure ([specifier], ← accept ",")
    else pure ([], true)
  let (rest, hasDefault) ← if hasList then exportList else pure ([], false)
  let source ← if ← atContextual? "from" then do
      skip
      moduleSpecifier
    else if hasDefault then missingFrom
    else pure .null
  endStatement
  return exportNamed .null (first ++ rest) source

def exportDeclaration (g : Grammar) : Parse Value := do
  if (← context).inFunction then failAtLast misplacedText
  expectKeyword "export"
  let token ← lookahead
  if token.isKeyword "default" then g.exportDefault
  else if ← accept "*" then
    let source ← fromClause
    endStatement
    return Tree.node "ExportAllDeclaration" [("source", source)]
  else if token.kind == .keyword then
    match token.value with
    | "let" | "const" => return exportNamed (← g.lexicalDeclaration) [] .null
    | "var" | "class" | "function" => return exportNamed (← g.item) [] .null
    | _ => unexpected token
  else if ← atAsyncFunction? then
    return exportNamed (← g.functionDeclaration false) [] .null
  else exportNames

/-! ## Items -/

def parseItem (g : Grammar) : Parse Value := do
  modifyContext fun c => { c with assignable := true, bindable := true }
  let token ← lookahead
  if token.kind != .keyword then g.parseStatement
  else
    match token.value with
    | "export" =>
      unless (← context).isModule do failAt token misplacedText
      g.exportDeclaration
    | "import" =>
      if ← atImportCall? then g.expressionStatement
      else
        unless (← context).isModule do failAt token misplacedText
        importDeclaration
    | "const" => g.lexicalDeclaration
    | "function" => g.functionDeclaration false
    | "class" => g.classDeclaration false
    | "let" => if ← atLexicalDeclaration? then g.lexicalDeclaration else g.parseStatement
    | _ => g.parseStatement

end Rubric.Script.Grammar
