/-!
# Vocabularies

A vocabulary lists the kinds of node that requirements can speak of, with the fields of a syntax
tree in which a node of the kind keeps nested statements. `Vocabulary.standard` is the vocabulary of
ECMAScript statements.
-/

namespace Rubric

inductive Category where
  | statement
  | declaration
  | expression
  | clause
  | literal
deriving DecidableEq

namespace Category

def name : Category → String
  | .statement => "statement"
  | .declaration => "declaration"
  | .expression => "expression"
  | .clause => "clause"
  | .literal => "literal"

def ofName? (word : String) : Option Category :=
  [statement, declaration, expression, clause, literal].find? (·.name == word)

end Category

/-- A kind of node. -/
structure Kind where
  name : String
  category : Category
  structural : Bool := false
  bodyFields : List String := []
deriving DecidableEq

/-- Kinds in order, no two with the same name. -/
structure Vocabulary where
  kinds : List Kind

namespace Vocabulary

def find? (vocabulary : Vocabulary) (type : String) : Option Kind :=
  vocabulary.kinds.find? (·.name == type)

def knows (vocabulary : Vocabulary) (type : String) : Bool :=
  (vocabulary.find? type).isSome

/-- Adds a kind; one of the same name is replaced in its place. -/
def insert (vocabulary : Vocabulary) (kind : Kind) : Vocabulary :=
  if vocabulary.knows kind.name then
    ⟨vocabulary.kinds.map fun k => if k.name == kind.name then kind else k⟩
  else ⟨vocabulary.kinds ++ [kind]⟩

def insertAll (vocabulary : Vocabulary) (kinds : List Kind) : Vocabulary :=
  kinds.foldl insert vocabulary

def size (vocabulary : Vocabulary) : Nat :=
  vocabulary.kinds.length

/-- The field searched for nested statements on a node of an unknown type. -/
def fallbackFields : List String := ["body"]

/-- The fields that hold nested statements on a node of the given type. -/
def bodyFields (vocabulary : Vocabulary) (type : String) : List String :=
  match vocabulary.find? type with
  | some kind => kind.bodyFields
  | none => fallbackFields

/-- The texts without repetition, in the order of their code points. -/
def sortedDistinct (texts : List String) : List String :=
  texts.eraseDups.mergeSort fun a b => decide (a ≤ b)

/-- The types that the vocabulary does not know, sorted. -/
def unknownTypes (vocabulary : Vocabulary) (types : List String) : List String :=
  sortedDistinct (types.filter fun type => !vocabulary.knows type)

/-- The known types that hold no nested statements, sorted. -/
def nonStructuralTypes (vocabulary : Vocabulary) (types : List String) : List String :=
  sortedDistinct (types.filter fun type => match vocabulary.find? type with
    | some kind => !kind.structural
    | none => false)

def flat (category : Category) (name : String) : Kind :=
  { name, category }

/-- A kind whose nested statements are in the given fields. -/
def nesting (category : Category) (name : String) (fields : List String) : Kind :=
  { name, category, structural := true, bodyFields := fields }

def standard : Vocabulary := ⟨[
  { name := "Program", category := .statement, bodyFields := ["body"] },
  flat .literal "Identifier",
  flat .literal "Literal",
  flat .statement "ExpressionStatement",
  nesting .statement "BlockStatement" ["body"],
  flat .statement "EmptyStatement",
  flat .statement "DebuggerStatement",
  nesting .statement "WithStatement" ["body"],
  flat .statement "ReturnStatement",
  nesting .statement "LabeledStatement" ["body"],
  flat .statement "BreakStatement",
  flat .statement "ContinueStatement",
  nesting .statement "IfStatement" ["consequent", "alternate"],
  nesting .statement "SwitchStatement" ["cases"],
  nesting .clause "SwitchCase" ["consequent"],
  flat .statement "ThrowStatement",
  nesting .statement "TryStatement" ["block", "handler", "finalizer"],
  nesting .clause "CatchClause" ["body"],
  nesting .statement "WhileStatement" ["body"],
  nesting .statement "DoWhileStatement" ["body"],
  nesting .statement "ForStatement" ["body"],
  nesting .statement "ForInStatement" ["body"],
  nesting .statement "ForOfStatement" ["body"],
  nesting .declaration "FunctionDeclaration" ["body"],
  flat .declaration "VariableDeclaration",
  nesting .declaration "ClassDeclaration" ["body"],
  nesting .clause "ClassBody" ["body"],
  nesting .clause "MethodDefinition" ["value"],
  flat .declaration "ImportDeclaration",
  nesting .declaration "ExportNamedDeclaration" ["declaration"],
  nesting .declaration "ExportDefaultDeclaration" ["declaration"],
  flat .declaration "ExportAllDeclaration",
  flat .expression "ThisExpression",
  flat .expression "ArrayExpression",
  flat .expression "ObjectExpression",
  flat .expression "Property",
  nesting .expression "FunctionExpression" ["body"],
  nesting .expression "ArrowFunctionExpression" ["body"],
  flat .expression "UnaryExpression",
  flat .expression "UpdateExpression",
  flat .expression "BinaryExpression",
  flat .expression "AssignmentExpression",
  flat .expression "LogicalExpression",
  flat .expression "MemberExpression",
  flat .expression "ConditionalExpression",
  flat .expression "CallExpression",
  flat .expression "NewExpression",
  flat .expression "SequenceExpression"]⟩

end Vocabulary

end Rubric
