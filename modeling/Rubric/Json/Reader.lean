import Rubric.Text.Digit
import Rubric.Text.Half
import Rubric.Value

/-!
# Reading JSON

The reader works on a list of characters and returns what follows a value beside it. A number
without a point and an exponent is an integer of any size. If a key is repeated, the last value
counts.
-/

namespace Rubric.Json

def skipBlanks (cs : List Char) : List Char :=
  cs.dropWhile fun c => c == ' ' || c == '\n' || c == '\r' || c == '\t'

def unit? (a b c d : Char) : Option Nat := do
  let a ← Text.hexValue? a
  let b ← Text.hexValue? b
  let c ← Text.hexValue? c
  let d ← Text.hexValue? d
  some (((a * 16 + b) * 16 + c) * 16 + d)

def shortEscape? (c : Char) : Option Char :=
  match c with
  | '"' => some '"'
  | '\\' => some '\\'
  | '/' => some '/'
  | 'b' => some (Char.ofNat 8)
  | 'f' => some (Char.ofNat 12)
  | 'n' => some '\n'
  | 'r' => some '\r'
  | 't' => some '\t'
  | _ => none

/-- The rest of a string, whose characters so far are in `read`, latest first. -/
def stringRest (read : List Char) : List Char → Option (String × List Char)
  | [] => none
  | '"' :: rest => some (String.ofList read.reverse, rest)
  | '\\' :: 'u' :: a :: b :: c :: d :: '\\' :: 'u' :: e :: f :: g :: h :: rest =>
    match unit? a b c d, unit? e f g h with
    | some high, some low =>
      if Text.isHighHalf high && Text.isLowHalf low then
        stringRest (Text.ofHalves high low :: read) rest
      else stringRest (Text.ofCode high :: read) ('\\' :: 'u' :: e :: f :: g :: h :: rest)
    | _, _ => none
  | '\\' :: 'u' :: a :: b :: c :: d :: rest =>
    match unit? a b c d with
    | some n => stringRest (Text.ofCode n :: read) rest
    | none => none
  | '\\' :: c :: rest =>
    match shortEscape? c with
    | some e => stringRest (e :: read) rest
    | none => none
  | c :: rest => if c.toNat < 32 then none else stringRest (c :: read) rest

/-- The fraction of a number, if there is one: its digits and the rest. -/
def fraction? : List Char → Option (List Char × List Char)
  | '.' :: rest =>
    let digits := rest.takeWhile Char.isDigit
    if digits.isEmpty then none else some (digits, rest.dropWhile Char.isDigit)
  | _ => none

def exponent? : List Char → Option (Int × List Char)
  | c :: rest =>
    if c == 'e' || c == 'E' then
      let (negative, rest) := match rest with
        | '-' :: r => (true, r)
        | '+' :: r => (false, r)
        | r => (false, r)
      let digits := rest.takeWhile Char.isDigit
      if digits.isEmpty then none
      else
        let n : Int := Text.ofDigits 10 digits
        some (if negative then -n else n, rest.dropWhile Char.isDigit)
    else none
  | [] => none

def number? (negative : Bool) (cs : List Char) : Option (Value × List Char) :=
  let whole := cs.takeWhile Char.isDigit
  let rest := cs.dropWhile Char.isDigit
  if whole.isEmpty || (whole.length > 1 && whole.head? == some '0') then none
  else
    match fraction? rest, exponent? rest with
    | none, none =>
      let n : Int := Text.ofDigits 10 whole
      some (.int (if negative then -n else n), rest)
    | none, some (e, rest) =>
      some (.float (Binary64.ofDecimal negative (Text.ofDigits 10 whole) e), rest)
    | some (digits, rest), _ =>
      let (e, rest) := (exponent? rest).getD (0, rest)
      let significand := Text.ofDigits 10 (whole ++ digits)
      some (.float (Binary64.ofDecimal negative significand (e - digits.length)),
        rest)

def word? (word : String) (value : Value) (cs : List Char) : Option (Value × List Char) :=
  if word.toList.isPrefixOf cs then some (value, cs.drop word.length) else none

mutual

/-- A value, and what follows it. The fuel bounds the number of tokens. -/
def value? : Nat → List Char → Option (Value × List Char)
  | 0, _ => none
  | fuel + 1, cs =>
    match skipBlanks cs with
    | '"' :: rest => (stringRest [] rest).map fun (s, rest) => (.string s, rest)
    | '[' :: rest =>
      match skipBlanks rest with
      | ']' :: rest => some (.array [], rest)
      | rest => (items? fuel rest []).map fun (items, rest) => (.array items, rest)
    | '\x7b' :: rest =>
      match skipBlanks rest with
      | '\x7d' :: rest => some (.object [], rest)
      | rest => (members? fuel rest []).map fun (members, rest) => (.object members, rest)
    | '-' :: 'I' :: rest => word? "nfinity" (.float (.infinite true)) rest
    | '-' :: rest => number? true rest
    | 't' :: rest => word? "rue" (.bool true) rest
    | 'f' :: rest => word? "alse" (.bool false) rest
    | 'n' :: rest => word? "ull" .null rest
    | 'N' :: rest => word? "aN" (.float .nan) rest
    | 'I' :: rest => word? "nfinity" (.float (.infinite false)) rest
    | rest => number? false rest

/-- The items of an array that is not empty, after those already read. -/
def items? : Nat → List Char → List Value → Option (List Value × List Char)
  | 0, _, _ => none
  | fuel + 1, cs, read => do
    let (item, rest) ← value? fuel cs
    match skipBlanks rest with
    | ',' :: rest => items? fuel rest (item :: read)
    | ']' :: rest => some ((item :: read).reverse, rest)
    | _ => none

/-- The members of an object that is not empty, after those already read. -/
def members? : Nat → List Char → Members → Option (Members × List Char)
  | 0, _, _ => none
  | fuel + 1, cs, read =>
    match skipBlanks cs with
    | '"' :: rest => do
      let (key, rest) ← stringRest [] rest
      match skipBlanks rest with
      | ':' :: rest =>
        let (value, rest) ← value? fuel rest
        let read := read.insert key value
        match skipBlanks rest with
        | ',' :: rest => members? fuel rest read
        | '\x7d' :: rest => some (read, rest)
        | _ => none
      | _ => none
    | _ => none

end

def read (text : String) : Option Value :=
  let cs := text.toList
  match value? (cs.length + 1) cs with
  | some (value, rest) => if (skipBlanks rest).isEmpty then some value else none
  | none => none

end Rubric.Json
