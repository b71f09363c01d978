/-!
# Binary64 numbers

A binary64 number is kept as the exact dyadic value it stands for, so that every operation here is
arithmetic on integers. `ofDecimal` reads a decimal and rounds it to the nearest number of the
format, a half going to the even neighbour.
-/

namespace Rubric

/-- A number of the binary64 format. A finite number is `mantissa * 2 ^ exponent` with its sign; the
mantissa is below `2 ^ 53`, and below `2 ^ 52` only if the exponent is the least one. -/
inductive Binary64 where
  | finite (negative : Bool) (mantissa : Nat) (exponent : Int)
  | infinite (negative : Bool)
  | nan
deriving DecidableEq

namespace Binary64

def leastExponent : Int := -1074

def greatestExponent : Int := 971

def zero (negative : Bool) : Binary64 :=
  .finite negative 0 leastExponent

/-- The least mantissa with all its digits, two to the power of 52. -/
def fullMantissa : Nat := 4503599627370496

/-- The integer nearest to `a / b`, a half going to the even neighbour. -/
def roundDiv (a b : Nat) : Nat :=
  let quotient := a / b
  let twice := 2 * (a % b)
  if twice < b then quotient
  else if twice > b then quotient + 1
  else quotient + quotient % 2

/-- The quotient `num / den` scaled by `2 ^ -exponent` and rounded. -/
def roundAt (num den : Nat) (exponent : Int) : Nat :=
  if exponent ≥ 0 then roundDiv num (den <<< exponent.toNat)
  else roundDiv (num <<< (-exponent).toNat) den

def ofRatio (negative : Bool) (num den : Nat) : Binary64 :=
  if num == 0 then zero negative
  else
    let estimate : Int := (Nat.log2 num : Int) - (Nat.log2 den : Int) - 52
    -- `num / den` has 52 to 54 binary digits above the estimate, so one step down may be needed.
    let tight := if roundAt num den estimate < fullMantissa then estimate - 1 else estimate
    let exponent := max tight leastExponent
    let mantissa := roundAt num den exponent
    let (mantissa, exponent) :=
      if mantissa ≥ 2 * fullMantissa then (fullMantissa, exponent + 1) else (mantissa, exponent)
    if exponent > greatestExponent then .infinite negative
    else .finite negative mantissa exponent

def countDigits (n : Nat) : Nat :=
  (Nat.toDigits 10 n).length

/-- The number nearest to `digits * 10 ^ scale`. Decimals far outside the range are settled by their
size alone. -/
def ofDecimal (negative : Bool) (digits : Nat) (scale : Int) : Binary64 :=
  let size : Int := scale + countDigits digits
  if digits == 0 then zero negative
  else if size > 310 then .infinite negative
  else if size < -330 then zero negative
  else if scale ≥ 0 then ofRatio negative (digits * Nat.pow 10 scale.toNat) 1
  else ofRatio negative digits (Nat.pow 10 (-scale).toNat)

def toInt? : Binary64 → Option Int
  | .finite negative mantissa exponent =>
    let magnitude? :=
      if exponent ≥ 0 then some (mantissa <<< exponent.toNat)
      else
        let whole := mantissa >>> (-exponent).toNat
        if whole <<< (-exponent).toNat == mantissa then some whole else none
    magnitude?.map fun magnitude => if negative then -(magnitude : Int) else magnitude
  | _ => none

def isFinite : Binary64 → Bool
  | .finite .. => true
  | _ => false

def isZero : Binary64 → Bool
  | .finite _ mantissa _ => mantissa == 0
  | _ => false

end Binary64

end Rubric
