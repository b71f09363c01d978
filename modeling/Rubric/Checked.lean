import Rubric.Complaint
import Rubric.Text.Blank
import Rubric.Text.Digit
import Rubric.Value

/-!
# Reading values

Readers for the scalars and lists of a requirements file or a recorded outcome. They are lenient
where the meaning is plain: a number without a fraction, or its spelling, is an integer, and a few
words and numbers stand for a truth value.
-/

namespace Rubric.Checked

def text : Value → Checked String
  | .string s => .ok s
  | _ => fail .notAString

def name : Value → Checked String
  | .string s => if s.isEmpty then fail .tooShort else .ok s
  | _ => fail .notAString

def orNull {α : Type} (read : Value → Checked α) : Value → Checked (Option α)
  | .null => .ok none
  | value => (read value).map some

def itemsFrom {α : Type} (read : Value → Checked α) (position : Nat) :
    List Value → Checked (List α)
  | [] => .ok []
  | value :: rest =>
    (((read value).within (.index position)).map List.cons).apply
      (itemsFrom read (position + 1) rest)

def items {α : Type} (read : Value → Checked α) : Value → Checked (List α)
  | .array values => itemsFrom read 0 values
  | _ => fail .notAList

/-! ## Integers -/

/-- What remains of the spelling of a number behind zeros, the last of which is given. Underscores
among the zeros do not matter. The last of them stays if no other digit follows. -/
def behindZeros (last : Char) : List Char → Option (List Char)
  | [] => some [last]
  | c :: rest =>
    if c == '0' || c == '_' then behindZeros c rest
    else if c.isDigit || c == '-' then some (c :: rest)
    else if c == '.' then some (last :: c :: rest)
    else none

/-- The spelling of a number without the zeros in front. It must begin with a digit. -/
def withoutLeadingZeros : List Char → Option (List Char)
  | [] => none
  | c :: rest =>
    if c == '0' then behindZeros c rest else if c.isDigit then some (c :: rest) else none

/-- The characters before a point that only zeros follow. -/
def withoutZeroFraction (chars : List Char) : List Char :=
  match chars.dropWhile (· != '.') with
  | '.' :: '0' :: zeros => if zeros.all (· == '0') then chars.takeWhile (· != '.') else chars
  | _ => chars

def hasDoubleUnderscore : List Char → Bool
  | '_' :: '_' :: _ => true
  | _ :: rest => hasDoubleUnderscore rest
  | [] => false

/-- The spelling of a number without underscores, if only single ones stand inside. -/
def withoutUnderscores (chars : List Char) : List Char :=
  if chars.head? == some '_' || chars.getLast? == some '_' || hasDoubleUnderscore chars then chars
  else chars.filter (· != '_')

/-- The plain spelling of an integer: without a plus sign, zeros in front, a fraction of zeros, and
underscores. -/
def plainSpelling (chars : List Char) : Option (List Char) :=
  match chars with
  | '-' :: rest => (bare rest).map ('-' :: ·)
  | '+' :: rest => bare rest
  | rest => bare rest
where
  bare (chars : List Char) : Option (List Char) :=
    (withoutLeadingZeros chars).map fun chars => withoutUnderscores (withoutZeroFraction chars)

def natural? (chars : List Char) : Option Nat :=
  if chars.isEmpty || !chars.all Char.isDigit || (chars.head? == some '0' && chars != ['0']) then
    none
  else some (Text.ofDigits 10 chars)

def integer? : List Char → Option Int
  | '-' :: rest => (natural? rest).map fun n => -(n : Int)
  | rest => (natural? rest).map fun n => (n : Int)

def longestSpelling : Nat := 4300

/-- Whether a plain spelling begins with a sign and digits that are too many. -/
def isTooLong (chars : List Char) : Bool :=
  let sign := if chars.head? == some '-' then 1 else 0
  sign + ((chars.drop sign).takeWhile Char.isDigit).length > longestSpelling

def integerText (s : String) : Checked Int :=
  match plainSpelling (Text.strip Text.isWhiteSpace s.toList) with
  | none => fail .unreadableInteger
  | some chars =>
    if isTooLong chars then fail .oversizedInteger
    else
      match integer? chars with
      | some n => .ok n
      | none => fail .unreadableInteger

def fitsWord (n : Int) : Bool :=
  -9223372036854775808 ≤ n && n ≤ 9223372036854775807

/-- The integer that a floating-point number without a fraction stands for, if it lies within the
bounds of a machine word. Both bounds are themselves too large. -/
def ofFloat? (x : Binary64) : Option Int :=
  x.toInt?.filter fun n => -9223372036854775808 < n && n < 9223372036854775808

def integer : Value → Checked Int
  | .int n => .ok n
  | .bool b => .ok (if b then 1 else 0)
  | .string s => integerText s
  | .float x =>
    if !x.isFinite then fail .notFinite
    else
      match ofFloat? x with
      | some n => .ok n
      | none => if x.toInt?.isSome then fail .oversizedInteger else fail .fraction
  | _ => fail .notAnInteger

def positive (value : Value) : Checked Int :=
  match integer value with
  | .ok n => if 0 < n then .ok n else fail .notPositive
  | .error e => .error e

/-- The words that stand for a truth value, in lower case. -/
def truthWord? (word : String) : Option Bool :=
  if ["1", "on", "t", "true", "y", "yes"].contains word then some true
  else if ["0", "off", "f", "false", "n", "no"].contains word then some false
  else none

def truthNumber? (n : Int) : Option Bool :=
  if n == 1 then some true else if n == 0 then some false else none

def truth : Value → Checked Bool
  | .bool b => .ok b
  | .string s =>
    match truthWord? (s.map Char.toLower) with
    | some b => .ok b
    | none => fail .unreadableTruth
  | .int n => ofNumber n
  | .float x =>
    match ofFloat? x with
    | some n => ofNumber n
    | none => fail .notATruth
  | _ => fail .notATruth
where
  ofNumber (n : Int) : Checked Bool :=
    match truthNumber? n with
    | some b => .ok b
    | none => if fitsWord n then fail .unreadableTruth else fail .notATruth

/-- A field of an object: the key it goes by, and another key that serves if that one is absent. -/
structure Field where
  key : String
  other : Option String := none

namespace Field

/-- The key under which an object holds the field. -/
def keyIn? (field : Field) (members : Members) : Option String :=
  if members.has field.key then some field.key
  else field.other.filter members.has

def optional {α : Type} (field : Field) (members : Members) (absent : α)
    (read : Value → Checked α) : Checked α :=
  match field.keyIn? members with
  | some key =>
    match members.get? key with
    | some value => (read value).within (.key key)
    | none => .ok absent
  | none => .ok absent

def required {α : Type} (field : Field) (members : Members)
    (read : Value → Checked α) : Checked α :=
  match field.keyIn? members with
  | some key =>
    match members.get? key with
    | some value => (read value).within (.key key)
    | none => (fail .missing).within (.key field.key)
  | none => (fail .missing).within (.key field.key)

end Field

/-- Complaints about the keys that none of the fields uses, in their order. -/
def strangers (fields : List Field) (members : Members) : List Complaint :=
  let used := fields.filterMap (·.keyIn? members)
  (members.filter fun member => !used.contains member.1).map fun member =>
    ⟨[.key member.1], .unexpectedKey⟩

end Rubric.Checked
