import Rubric.Text.Integer
import Rubric.Value

/-!
# Parts of TOML values

Strings, numbers, dates and times, each read from the front of a text and given with what follows. A
reader gives nothing if the text cannot be TOML; a number may also be too long to be read.
-/

namespace Rubric.Toml

inductive Fault where
  | malformed
  | oversized (digits : Nat)  -- this many digits
  | tooDeep
deriving DecidableEq

/-- What is there; a text in which it is missing is no TOML. -/
def present {α : Type} : Option α → Except Fault α
  | some a => .ok a
  | none => .error .malformed

def skipBlanks (cs : List Char) : List Char :=
  cs.dropWhile fun c => c == ' ' || c == '\t'

def skipBlankLines (cs : List Char) : List Char :=
  cs.dropWhile fun c => c == ' ' || c == '\t' || c == '\n'

def isIllegalInLine (c : Char) : Bool :=
  (c.toNat < 32 || c.toNat == 127) && c != '\t'

/-- Whether a character may not stand in a text of several lines. -/
def isIllegalInLines (c : Char) : Bool :=
  isIllegalInLine c && c != '\n'

def skipComment? : List Char → Option (List Char)
  | '#' :: rest =>
    if (rest.takeWhile (· != '\n')).any isIllegalInLine then none
    else some (rest.dropWhile (· != '\n'))
  | cs => some cs

/-! ## Strings -/

/-- A string between apostrophes, behind the first of them. -/
def literalString? (cs : List Char) : Option (String × List Char) :=
  let text := cs.takeWhile (· != '\'')
  match cs.dropWhile (· != '\'') with
  | _ :: rest => if text.any isIllegalInLine then none else some (String.ofList text, rest)
  | [] => none

/-- What stands before three apostrophes, after what has been read, latest first. -/
def untilApostrophes? (read : List Char) : List Char → Option (List Char × List Char)
  | [] => none
  | '\'' :: '\'' :: '\'' :: rest => some (read.reverse, rest)
  | c :: rest => untilApostrophes? (c :: read) rest

/-- Up to two further quotes that belong to a text of several lines whose end has been read. -/
def furtherQuotes (quote : Char) (read : List Char) (cs : List Char) : String × List Char :=
  let count := ((cs.take 2).takeWhile (· == quote)).length
  (String.ofList (read ++ List.replicate count quote), cs.drop count)

/-- A text of several lines between apostrophes, behind the first three. -/
def literalLines? (cs : List Char) : Option (String × List Char) := do
  let cs := if cs.head? == some '\n' then cs.drop 1 else cs
  let (text, rest) ← untilApostrophes? [] cs
  if text.any isIllegalInLines then none else some (furtherQuotes '\'' text rest)

def hexCharacter? (count : Nat) (cs : List Char) : Option (Char × List Char) :=
  let digits := cs.take count
  let code := Text.ofDigits 16 digits
  if digits.length == count && digits.all (Text.isDigitOf 16) && Nat.isValidChar code then
    some (Char.ofNat code, cs.drop count)
  else none

/-- The character that an escape stands for, behind its backslash. -/
def escape? : List Char → Option (Char × List Char)
  | 'b' :: rest => some (Char.ofNat 8, rest)
  | 't' :: rest => some ('\t', rest)
  | 'n' :: rest => some ('\n', rest)
  | 'f' :: rest => some (Char.ofNat 12, rest)
  | 'r' :: rest => some ('\r', rest)
  | '"' :: rest => some ('"', rest)
  | '\\' :: rest => some ('\\', rest)
  | 'u' :: rest => hexCharacter? 4 rest
  | 'U' :: rest => hexCharacter? 8 rest
  | _ => none

/-- What follows a backslash at the end of a line, where blanks and line ends are dropped. -/
def joinedLine? : List Char → Option (List Char)
  | '\n' :: rest => some (skipBlankLines rest)
  | c :: rest =>
    if c == ' ' || c == '\t' then
      match skipBlanks rest with
      | [] => some []
      | '\n' :: rest => some (skipBlankLines rest)
      | _ => none
    else none
  | [] => none

/-- A string between quotes, after what has been read, latest first. The fuel bounds its length. -/
def basicString? : Nat → List Char → List Char → Option (String × List Char)
  | 0, _, _ => none
  | fuel + 1, read, cs =>
    match cs with
    | [] => none
    | '"' :: rest => some (String.ofList read.reverse, rest)
    | '\\' :: rest => do
      let (c, rest) ← escape? rest
      basicString? fuel (c :: read) rest
    | c :: rest => if isIllegalInLine c then none else basicString? fuel (c :: read) rest

/-- A text of several lines between quotes, after what has been read, latest first. The fuel bounds
its length. -/
def basicLines? : Nat → List Char → List Char → Option (String × List Char)
  | 0, _, _ => none
  | fuel + 1, read, cs =>
    match cs with
    | [] => none
    | '"' :: '"' :: '"' :: rest => some (furtherQuotes '"' read.reverse rest)
    | '\\' :: rest =>
      match joinedLine? rest with
      | some rest => basicLines? fuel read rest
      | none => do
        let (c, rest) ← escape? rest
        basicLines? fuel (c :: read) rest
    | c :: rest => if isIllegalInLines c then none else basicLines? fuel (c :: read) rest

def string? : List Char → Option (String × List Char)
  | '"' :: '"' :: '"' :: rest =>
    basicLines? (rest.length + 1) [] (if rest.head? == some '\n' then rest.drop 1 else rest)
  | '\'' :: '\'' :: '\'' :: rest => literalLines? rest
  | '"' :: rest => basicString? (rest.length + 1) [] rest
  | '\'' :: rest => literalString? rest
  | _ => none

/-! ## Numbers -/

/-- Further digits, each perhaps behind an underscore, after those read, latest first. -/
def digitsRest (isDigit : Char → Bool) (read : List Char) : List Char → List Char × List Char
  | '_' :: c :: rest =>
    if isDigit c then digitsRest isDigit (c :: read) rest else (read.reverse, '_' :: c :: rest)
  | c :: rest =>
    if isDigit c then digitsRest isDigit (c :: read) rest else (read.reverse, c :: rest)
  | [] => (read.reverse, [])

def digits? (isDigit : Char → Bool) : List Char → Option (List Char × List Char)
  | c :: rest => if isDigit c then some (digitsRest isDigit [c] rest) else none
  | [] => none

/-- The whole part of a decimal number, which has no zero in front. -/
def wholePart? : List Char → Option (List Char × List Char)
  | '0' :: rest => some (['0'], rest)
  | cs => digits? Char.isDigit cs

/-- The fraction of a number; no digits if there is none. -/
def fractionPart (cs : List Char) : List Char × List Char :=
  match cs with
  | '.' :: rest => (digits? Char.isDigit rest).getD ([], cs)
  | _ => ([], cs)

def exponentPart (cs : List Char) : Option Int × List Char :=
  let signed? : Option (Bool × List Char) := match cs with
    | 'e' :: '-' :: rest | 'E' :: '-' :: rest => some (true, rest)
    | 'e' :: '+' :: rest | 'E' :: '+' :: rest => some (false, rest)
    | 'e' :: rest | 'E' :: rest => some (false, rest)
    | _ => none
  match signed? with
  | none => (none, cs)
  | some (negative, rest) =>
    match digits? Char.isDigit rest with
    | none => (none, cs)
    | some (digits, rest) =>
      let size : Int := Text.ofDigits 10 digits
      (some (if negative then -size else size), rest)

def unsigned (negative : Bool) (cs : List Char) : Except Fault (Value × List Char) := do
  let (whole, rest) ← present (wholePart? cs)
  let (fraction, rest) := fractionPart rest
  let (exponent, rest) := exponentPart rest
  if fraction.isEmpty && exponent.isNone then
    if Text.mostDigits < whole.length then throw (.oversized whole.length)
    let size : Int := Text.ofDigits 10 whole
    return (.int (if negative then -size else size), rest)
  else
    let scale := exponent.getD 0 - fraction.length
    return (.float (Binary64.ofDecimal negative (Text.ofDigits 10 (whole ++ fraction)) scale), rest)

def decimal : List Char → Except Fault (Value × List Char)
  | '-' :: rest => unsigned true rest
  | '+' :: rest => unsigned false rest
  | rest => unsigned false rest

def based? (base : Nat) (cs : List Char) : Option (Value × List Char) := do
  let (digits, rest) ← digits? (Text.isDigitOf base) cs
  some (.int (Text.ofDigits base digits), rest)

def marked? : List Char → Option (Value × List Char)
  | '0' :: 'x' :: rest => based? 16 rest
  | '0' :: 'b' :: rest => based? 2 rest
  | '0' :: 'o' :: rest => based? 8 rest
  | _ => none

def specialNumber? : List Char → Option (Value × List Char)
  | 'i' :: 'n' :: 'f' :: rest => some (.float (.infinite false), rest)
  | '+' :: 'i' :: 'n' :: 'f' :: rest => some (.float (.infinite false), rest)
  | '-' :: 'i' :: 'n' :: 'f' :: rest => some (.float (.infinite true), rest)
  | 'n' :: 'a' :: 'n' :: rest => some (.float .nan, rest)
  | '+' :: 'n' :: 'a' :: 'n' :: rest => some (.float .nan, rest)
  | '-' :: 'n' :: 'a' :: 'n' :: rest => some (.float .nan, rest)
  | _ => none

def number (cs : List Char) : Except Fault (Value × List Char) :=
  match (marked? cs).or (specialNumber? cs) with
  | some read => .ok read
  | none => decimal cs

/-! ## Dates and times -/

def fixed? (count least most : Nat) (cs : List Char) : Option (Nat × List Char) :=
  let digits := cs.take count
  let n := Text.ofDigits 10 digits
  if digits.length == count && digits.all Char.isDigit && least ≤ n && n ≤ most then
    some (n, cs.drop count)
  else none

def mark? (mark : Char) : List Char → Option (List Char)
  | c :: rest => if c == mark then some rest else none
  | [] => none

/-- The millionths of a second; digits beyond the sixth are dropped. -/
def microsecond (cs : List Char) : Nat × List Char :=
  match cs with
  | '.' :: rest =>
    let digits := rest.takeWhile Char.isDigit
    if digits.isEmpty then (0, cs)
    else
      let kept := digits.take 6
      (Text.ofDigits 10 kept * Nat.pow 10 (6 - kept.length), rest.drop digits.length)
  | _ => (0, cs)

def clock? (cs : List Char) : Option (Clock × List Char) := do
  let (hour, cs) ← fixed? 2 0 23 cs
  let cs ← mark? ':' cs
  let (minute, cs) ← fixed? 2 0 59 cs
  let cs ← mark? ':' cs
  let (second, cs) ← fixed? 2 0 59 cs
  let (microsecond, cs) := microsecond cs
  some (⟨hour, minute, second, microsecond⟩, cs)

def day? (cs : List Char) : Option (Day × List Char) := do
  let (year, cs) ← fixed? 4 0 9999 cs
  let cs ← mark? '-' cs
  let (month, cs) ← fixed? 2 1 12 cs
  let cs ← mark? '-' cs
  let (day, cs) ← fixed? 2 1 31 cs
  some (⟨year, month, day⟩, cs)

def offset? : List Char → Option (Int × List Char)
  | [] => none
  | c :: rest =>
    if c == 'Z' || c == 'z' then some (0, rest)
    else if c == '+' || c == '-' then do
      let (hours, rest) ← fixed? 2 0 23 rest
      let rest ← mark? ':' rest
      let (minutes, rest) ← fixed? 2 0 59 rest
      let size : Int := hours * 60 + minutes
      some (if c == '-' then -size else size, rest)
    else none

def clockAfterDay? : List Char → Option (Clock × List Char)
  | c :: rest => if c == 'T' || c == 't' || c == ' ' then clock? rest else none
  | [] => none

/-- What a date or time turns out to be: none at all, a day that is not on the calendar, or one. -/
inductive MomentRead where
  | none
  | invalid
  | read (moment : Moment) (rest : List Char)

def moment (cs : List Char) : MomentRead :=
  match day? cs with
  | some (day, rest) =>
    if !day.isValid then .invalid
    else
      match clockAfterDay? rest with
      | none => .read (.day day) rest
      | some (clock, rest) =>
        match offset? rest with
        | none => .read (.both day clock none) rest
        | some (offset, rest) => .read (.both day clock (some offset)) rest
  | none =>
    match clock? cs with
    | some (clock, rest) => .read (.clock clock) rest
    | none => .none

end Rubric.Toml
