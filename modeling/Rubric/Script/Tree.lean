import Rubric.Value

/-!
# Syntax trees

A node of a syntax tree is an object with its type and its fields. An expression read before it is
known to be a pattern is turned into one afterwards.
-/

namespace Rubric.Script.Tree

def node (type : String) (fields : Members) : Value :=
  .object (("type", .string type) :: fields)

/-- The type of a node; empty for anything else. -/
def typeOf (tree : Value) : String :=
  ((tree.get? "type").bind Value.string?).getD ""

def isA (type : String) (tree : Value) : Bool :=
  typeOf tree == type

def nameOf (tree : Value) : String :=
  ((tree.get? "name").bind Value.string?).getD ""

def field (tree : Value) (key : String) : Value :=
  (tree.get? key).getD .null

def listField (tree : Value) (key : String) : List Value :=
  (field tree key).array?.getD []

def identifier (name : String) : Value :=
  node "Identifier" [("name", .string name)]

/-- A literal that is a string, or whose value is not used. -/
def literal (value : String) : Value :=
  node "Literal" [("value", .string value)]

def binary (operator : String) (left right : Value) : Value :=
  let type :=
    if operator == "||" || operator == "&&" then "LogicalExpression" else "BinaryExpression"
  node type [("operator", .string operator), ("left", left), ("right", right)]

/-- A list of expressions with commas between them. -/
def sequence (expressions : List Value) : Value :=
  node "SequenceExpression" [("expressions", .array expressions)]

def block (body : List Value) : Value :=
  node "BlockStatement" [("body", .array body)]

/-- What stands for the parameters of an arrow function until the arrow is read. -/
def placeholder (parameters : List Value) (isAsync : Bool) : Value :=
  node "ArrowParameterPlaceHolder" [("params", .array parameters), ("async", .bool isAsync)]

def isKey (name : String) (key : Value) : Bool :=
  (isA "Identifier" key && nameOf key == name) ||
    (isA "Literal" key && (key.get? "value").bind Value.string? == some name)

/-- The type of the pattern that an expression of a type turns into. -/
def patternType (type : String) : String :=
  match type with
  | "SpreadElement" => "RestElement"
  | "ArrayExpression" => "ArrayPattern"
  | "ObjectExpression" => "ObjectPattern"
  | "AssignmentExpression" => "AssignmentPattern"
  | type => type

mutual

def pattern : Value → Value
  | .object members => .object (patternMembers (typeOf (.object members)) members)
  | tree => tree

/-- The fields of a pattern, given the type of the expression. -/
def patternMembers (type : String) : List (String × Value) → List (String × Value)
  | [] => []
  | (key, value) :: rest =>
    let turned :=
      if key == "type" then .string (patternType type)
      else if type == "SpreadElement" && key == "argument" then pattern value
      else if type == "AssignmentExpression" && key == "left" then pattern value
      else if type == "ArrayExpression" && key == "elements" then patternList value
      else if type == "ObjectExpression" && key == "properties" then propertyList value
      else value
    (key, turned) :: patternMembers type rest

def patternList : Value → Value
  | .array items => .array (patterns items)
  | value => value

def patterns : List Value → List Value
  | [] => []
  | item :: rest => pattern item :: patterns rest

def propertyList : Value → Value
  | .array items => .array (properties items)
  | value => value

def properties : List Value → List Value
  | [] => []
  | .object members :: rest =>
    let type := typeOf (.object members)
    (if type == "SpreadElement" then .object (patternMembers type members)
     else .object (propertyMembers members)) :: properties rest
  | item :: rest => item :: properties rest

def propertyMembers : List (String × Value) → List (String × Value)
  | [] => []
  | (key, value) :: rest =>
    (key, if key == "value" then pattern value else value) :: propertyMembers rest

end

mutual

def boundNames : Value → List String
  | .object members => boundIn (typeOf (.object members)) (nameOf (.object members)) members
  | _ => []

/-- The names bound by the fields of a node of a type and a name. -/
def boundIn (type name : String) : List (String × Value) → List String
  | [] => if type == "Identifier" then [name] else []
  | (key, value) :: rest =>
    (if (type == "RestElement" && key == "argument") ||
        (type == "AssignmentPattern" && key == "left") ||
        (type == "Property" && key == "value") then boundNames value
     else if (type == "ArrayPattern" && key == "elements") ||
        (type == "ObjectPattern" && key == "properties") then boundInList value
     else []) ++ boundIn type name rest

def boundInList : Value → List String
  | .array items => boundInItems items
  | _ => []

def boundInItems : List Value → List String
  | [] => []
  | item :: rest => boundNames item ++ boundInItems rest

end

end Rubric.Script.Tree
