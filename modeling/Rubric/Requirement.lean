import Rubric.Bounds
import Rubric.Text.Quoted
import Rubric.Value

/-!
# Structure requirements

A structure requirement names a parent type and what the body of such a node has to contain: entries
that are plain types, or further requirements on a statement of the body.
-/

namespace Rubric

/-- Something a body has to contain. -/
inductive Entry where
  | type (name : String)
  /-- A statement of the parent type that itself contains the entries. -/
  | nested (parent : String) (contains : List Entry)
deriving Inhabited

/-- A parent type and what the body of a node of that type has to contain. -/
structure Requirement where
  parent : String
  contains : List Entry
deriving Inhabited

namespace Entry

mutual

def beq : Entry → Entry → Bool
  | .type a, .type b => a == b
  | .nested p as, .nested q bs => p == q && beqList as bs
  | _, _ => false

def beqList : List Entry → List Entry → Bool
  | [], [] => true
  | a :: as, b :: bs => beq a b && beqList as bs
  | _, _ => false

end

instance : BEq Entry := ⟨beq⟩

mutual

def nodeTypes : Entry → List String
  | .type name => [name]
  | .nested parent contains => parent :: nodeTypesOfList contains

def nodeTypesOfList : List Entry → List String
  | [] => []
  | entry :: rest => nodeTypes entry ++ nodeTypesOfList rest

end

mutual

/-- The parent types of an entry and of the entries below it, in order. -/
def parentTypes : Entry → List String
  | .type _ => []
  | .nested parent contains => parent :: parentTypesOfList contains

/-- The parent types of some entries and of those below them, in order. -/
def parentTypesOfList : List Entry → List String
  | [] => []
  | entry :: rest => parentTypes entry ++ parentTypesOfList rest

end

mutual

/-- An entry as a value: a string, or an object with `type` and `contains`. -/
def toValue : Entry → Value
  | .type name => .string name
  | .nested parent contains =>
    .object [("type", .string parent), ("contains", .array (toValues contains))]

def toValues : List Entry → List Value
  | [] => []
  | entry :: rest => toValue entry :: toValues rest

end

/-- Texts between parentheses; a single one is followed by a comma. -/
def parenthesized : List String → String
  | [text] => "(" ++ text ++ ",)"
  | texts => "(" ++ ", ".intercalate texts ++ ")"

mutual

/-- The text by which a message shows an entry, given room for some requirements in one another. -/
def shown : Nat → Entry → Except Unshowable String
  | _, .type name => .ok (Text.quoted name)
  | 0, .nested .. => .error .tooDeep
  | room + 1, .nested parent contains =>
    (shownAll room contains).map fun texts =>
      "StructureRequirement(parent_type=" ++ Text.quoted parent ++ ", contains=" ++
        parenthesized texts ++ ")"

def shownAll (room : Nat) : List Entry → Except Unshowable (List String)
  | [] => .ok []
  | entry :: rest => do
    let text ← shown room entry
    return text :: (← shownAll room rest)

end

end Entry

namespace Requirement

def entry (requirement : Requirement) : Entry :=
  .nested requirement.parent requirement.contains

instance : BEq Requirement := ⟨fun a b => a.entry == b.entry⟩

def nodeTypes (requirement : Requirement) : List String :=
  requirement.entry.nodeTypes

def parentTypes (requirement : Requirement) : List String :=
  requirement.entry.parentTypes

/-- The requirement as an object with `type` and `contains`. -/
def toValue (requirement : Requirement) : Value :=
  requirement.entry.toValue

def shown (room : Nat) (requirement : Requirement) : Except Unshowable String :=
  requirement.entry.shown room

end Requirement

end Rubric
