import Rubric.Bounds
import Rubric.Text.Blank
import Rubric.Text.Digit

/-!
# Spelled integers

The integer that a text spells in decimal digits of any script, with an optional sign, single
underscores between digits, and white space around.
-/

namespace Rubric.Text

/-- A decimal digit of any script as the ASCII digit of the same value. -/
def asciiDigit (c : Char) : Char :=
  match digitValue? c with
  | some value => Char.ofNat ('0'.toNat + value)
  | none => c

/-- The digits of a spelling in which a single underscore may stand between two digits. The flag
says that a digit stands right before. -/
def spelledDigits : Bool → List Char → Option (List Char)
  | afterDigit, [] => if afterDigit then some [] else none
  | afterDigit, c :: rest =>
    if c.isDigit then (spelledDigits true rest).map (c :: ·)
    else if c == '_' && afterDigit then spelledDigits false rest
    else none

def mostDigits : Nat := 4300

def isOversized (n : Int) : Bool :=
  Nat.pow 10 mostDigits ≤ n.natAbs

def decimal (n : Int) : Except Unshowable String :=
  if isOversized n then .error .oversized else .ok (toString n)

/-- What is said of an integer with too many digits; a spelled one tells how many. -/
def tooManyDigits (count : Option Nat) : String :=
  let found := match count with
    | some count => ": value has " ++ toString count ++ " digits"
    | none => ""
  "Exceeds the limit (" ++ toString mostDigits ++ " digits) for integer string conversion" ++
    found ++ "; use sys.set_int_max_str_digits() to increase the limit"

def natural? (chars : List Char) : Option Nat :=
  match spelledDigits false chars with
  | some digits => if digits.length ≤ mostDigits then some (ofDigits 10 digits) else none
  | none => none

def integer? (text : List Char) : Option Int :=
  match (strip isWhiteSpace text).map asciiDigit with
  | '-' :: rest => (natural? rest).map fun n => -(n : Int)
  | '+' :: rest => (natural? rest).map fun n => (n : Int)
  | rest => (natural? rest).map fun n => (n : Int)

end Rubric.Text
