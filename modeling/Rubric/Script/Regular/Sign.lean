import Rubric.Text.Digit
import Rubric.Text.Half

/-!
# Signs of regular expressions

A regular expression is read sign by sign: a sign is a character, or a backslash with the character
behind it. Before that, characters written by number, as `\uXXXX` or `\u{…}`, are put in place. They
may be halves of pairs, so characters are given by their codes.
-/

namespace Rubric.Script.Regular

/-! ## Characters by number -/

/-- The code of a unit written as `\uXXXX` or `\u{…}` at the front, and what follows. -/
def unit? : List Char → Option (Nat × List Char)
  | '\\' :: 'u' :: c :: rest =>
    if c == '\x7b' then
      let digits := rest.takeWhile (Text.isDigitOf 16)
      match rest.drop digits.length with
      | d :: behind =>
        if d == '\x7d' && !digits.isEmpty then some (Text.ofDigits 16 digits, behind) else none
      | [] => none
    else
      let digits := ((c :: rest).take 4).takeWhile (Text.isDigitOf 16)
      if digits.length == 4 then some (Text.ofDigits 16 digits, (c :: rest).drop 4) else none
  | _ => none

def beyondBasic : Nat := 0xFFFF

/-- The codes of a pattern with units by number in place. A pair of halves, and a unit beyond the
basic plane, become one code. The first half of a pair may be pending. The fuel bounds the number of
characters. Gives nothing if a number is no character. -/
def codesFrom : Nat → Option Nat → List Char → Option (List Nat)
  | 0, _, _ => some []
  | fuel + 1, pending, cs =>
    match unit? cs, cs with
    | some (code, rest), _ =>
      if code > 0x10FFFF then none
      else if pending.isSome && Text.isLowHalf code then
        (codesFrom fuel none rest).map (beyondBasic :: ·)
      else if Text.isHighHalf code then (codesFrom fuel (some code) rest).map (pending.toList ++ ·)
      else (codesFrom fuel none rest).map (pending.toList ++ min code beyondBasic :: ·)
    | none, [] => some pending.toList
    | none, c :: rest => (codesFrom fuel none rest).map (pending.toList ++ c.toNat :: ·)

def codes (pattern : List Char) : Option (List Nat) :=
  codesFrom (pattern.length + 1) none pattern

/-! ## Signs -/

structure Sign where
  code : Nat
  escaped : Bool := false

namespace Sign

/-- The character of a sign without a backslash; a backslash for one that has it, since that never
stands alone. -/
def plain (sign : Sign) : Char :=
  if sign.escaped then '\\' else Text.ofCode sign.code

def chars (sign : Sign) : List Char :=
  if sign.escaped then ['\\', Text.ofCode sign.code] else [Text.ofCode sign.code]

end Sign

def signs : List Nat → Option (List Sign)
  | [] => some []
  | [code] => if code == '\\'.toNat then none else some [{ code }]
  | code :: next :: rest =>
    if code == '\\'.toNat then (signs rest).map ({ code := next, escaped := true } :: ·)
    else (signs (next :: rest)).map ({ code } :: ·)

end Rubric.Script.Regular
