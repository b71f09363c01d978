import Rubric.Binary64

/-!
# The shortest decimal of a binary64 number

A number is written with the fewest decimal digits that read back as it. The decimals that read back
form an interval around the number; for one digit, two digits, and so on, the two decimals next to
the number are tried, and of two that fit the nearer one is taken.
-/

namespace Rubric.Binary64

structure Ratio where
  num : Nat
  den : Nat

namespace Ratio

def dyadic (factor : Nat) (exponent : Int) : Ratio :=
  if exponent ≥ 0 then ⟨factor <<< exponent.toNat, 1⟩ else ⟨factor, 1 <<< (-exponent).toNat⟩

def decimal (factor : Nat) (exponent : Int) : Ratio :=
  if exponent ≥ 0 then ⟨factor * Nat.pow 10 exponent.toNat, 1⟩
  else ⟨factor, Nat.pow 10 (-exponent).toNat⟩

def lt (a b : Ratio) : Bool := a.num * b.den < b.num * a.den

def le (a b : Ratio) : Bool := a.num * b.den ≤ b.num * a.den

def floorDiv (a b : Ratio) : Nat := (a.num * b.den) / (a.den * b.num)

def gap (a b : Ratio) : Ratio :=
  ⟨(a.num * b.den - b.num * a.den) + (b.num * a.den - a.num * b.den), a.den * b.den⟩

end Ratio

/-- The decimals that read back as `mantissa * 2 ^ exponent`: between the halfway points to the two
neighbours, which themselves read back only to an even mantissa. -/
def readsBack (mantissa : Nat) (exponent : Int) (x : Ratio) : Bool :=
  let high := Ratio.dyadic (2 * mantissa + 1) (exponent - 1)
  let low :=
    if mantissa == fullMantissa && exponent > leastExponent then
      Ratio.dyadic (4 * mantissa - 1) (exponent - 2)
    else Ratio.dyadic (2 * mantissa - 1) (exponent - 1)
  if mantissa % 2 == 0 then low.le x && x.le high else low.lt x && x.lt high

/-- The least `s` with `x < 10 ^ s`, for a positive `x`. -/
def magnitude (x : Ratio) : Int :=
  let binary : Int := (Nat.log2 x.num : Int) - (Nat.log2 x.den : Int)
  let estimate := (binary * 30103).fdiv 100000
  ([-1, 0, 1, 2, 3].map (estimate + ·)).find? (fun s => x.lt (Ratio.decimal 1 s)) |>.getD estimate

/-- The decimal of `count` digits that reads back as the number and is nearest to it. -/
def tryDigits (mantissa : Nat) (exponent : Int) (count : Nat) : Option (Nat × Int) :=
  let value := Ratio.dyadic mantissa exponent
  let scale := magnitude value - count
  let below := value.floorDiv (Ratio.decimal 1 scale)
  let fitsBelow := readsBack mantissa exponent (Ratio.decimal below scale) && below != 0
  let fitsAbove := readsBack mantissa exponent (Ratio.decimal (below + 1) scale)
  match fitsBelow, fitsAbove with
  | false, false => none
  | true, false => some (below, scale)
  | false, true => some (below + 1, scale)
  | true, true =>
    let down := (Ratio.decimal below scale).gap value
    let up := (Ratio.decimal (below + 1) scale).gap value
    if down.lt up || (!up.lt down && below % 2 == 0) then some (below, scale)
    else some (below + 1, scale)

/-- The digits and the scale of the shortest decimal of a positive number; seventeen digits always
suffice. -/
def shortest (mantissa : Nat) (exponent : Int) : Nat × Int :=
  (List.range 17).findSome? (fun n => tryDigits mantissa exponent (n + 1)) |>.getD (0, 0)

/-- How a number is laid out: decimal exponents from `leastPositional` up to but not including
`endPositional` are written without an exponent. -/
structure Layout where
  leastPositional : Int
  endPositional : Int

/-- Numbers in messages: positional from `0.0001` up to `10 ^ 16`. -/
def inMessages : Layout := ⟨-4, 16⟩

/-- An exponent with its sign and at least two digits. -/
def exponentText (n : Int) : String :=
  let digits := toString n.natAbs
  (if n < 0 then "e-" else "e+") ++ (if digits.length < 2 then "0" ++ digits else digits)

def zeros (count : Nat) : String :=
  String.ofList (List.replicate count '0')

def decimalText (layout : Layout) (digits : Nat) (scale : Int) : String :=
  let all := (toString digits).toList
  let kept := (all.reverse.dropWhile (· == '0')).reverse
  let exponent : Int := (all.length : Int) + scale - 1
  let text := String.ofList kept
  if layout.leastPositional ≤ exponent && exponent < layout.endPositional then
    if exponent < 0 then "0." ++ zeros (-exponent - 1).toNat ++ text
    else
      let whole := exponent.toNat + 1
      if kept.length ≤ whole then text ++ zeros (whole - kept.length) ++ ".0"
      else String.ofList (kept.take whole) ++ "." ++ String.ofList (kept.drop whole)
  else
    let tail := kept.drop 1
    String.ofList (kept.take 1) ++ (if tail.isEmpty then "" else "." ++ String.ofList tail) ++
      exponentText exponent

def text (layout : Layout) : Binary64 → String
  | .nan => "nan"
  | .infinite negative => if negative then "-inf" else "inf"
  | .finite negative mantissa exponent =>
    let magnitude :=
      if mantissa == 0 then "0.0"
      else
        let (digits, scale) := shortest mantissa exponent
        decimalText layout digits scale
    if negative then "-" ++ magnitude else magnitude

end Rubric.Binary64
