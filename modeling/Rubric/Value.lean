import Rubric.Binary64
import Rubric.Moment

/-!
# Values

A `Value` is what a caller or a file may hand in: the values of JSON, with integers and other
numbers apart, and dates and times. The members of an object keep their order.
-/

namespace Rubric

/-- Data of any shape. -/
inductive Value where
  | null
  | bool (b : Bool)
  | int (n : Int)
  | float (x : Binary64)
  | string (s : String)
  | moment (m : Moment)
  | array (items : List Value)
  | object (members : List (String × Value))
deriving Inhabited

abbrev Members := List (String × Value)

namespace Members

def get? (members : Members) (key : String) : Option Value :=
  members.lookup key

def has (members : Members) (key : String) : Bool :=
  members.any (·.1 == key)

/-- Puts a value under a key: in the place the key already has, else at the end. -/
def insert (members : Members) (key : String) (value : Value) : Members :=
  if members.has key then members.map fun m => if m.1 == key then (key, value) else m
  else members ++ [(key, value)]

theorem sizeOf_get?_lt {members : Members} {key : String} {value : Value}
    (h : members.get? key = some value) : sizeOf value < sizeOf members := by
  induction members with
  | nil => simp [get?] at h
  | cons member rest ih =>
    obtain ⟨k, v⟩ := member
    rw [get?, List.lookup_cons] at h
    split at h
    · cases h
      simp only [List.cons.sizeOf_spec, Prod.mk.sizeOf_spec]
      omega
    · have := ih h
      simp only [List.cons.sizeOf_spec]
      omega

end Members

namespace Value

def get? : Value → String → Option Value
  | .object members, key => members.lookup key
  | _, _ => none

def string? : Value → Option String
  | .string s => some s
  | _ => none

def array? : Value → Option (List Value)
  | .array items => some items
  | _ => none

def object? : Value → Option Members
  | .object members => some members
  | _ => none

def int? : Value → Option Int
  | .int n => some n
  | _ => none

def bool? : Value → Option Bool
  | .bool b => some b
  | _ => none

def strings (texts : List String) : Value :=
  .array (texts.map .string)

def ofOption : Option Int → Value
  | none => .null
  | some n => .int n

end Value

end Rubric
