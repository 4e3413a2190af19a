/-
  Tagdown.Numeric.Binary64

  The IEEE 754 binary64 numbers and the operations on them that the library
  needs. Each operation is the exact rational operation, rounded to the nearest
  number, a tie to the even mantissa.

  A finite number is `mantissa * 2 ^ unit / 2 ^ 1074`, so every size is a
  natural number: the numbers below the normal range are those with unit zero
  and a mantissa below `2 ^ 52`.
-/

import Tagdown.Numeric.Power

namespace Tagdown

/-- The quotient rounded to a natural number, a half to the even neighbour. -/
def roundHalfEven (num den : Nat) : Nat :=
  let quotient := num / den
  let remainder := num % den
  if 2 * remainder < den then quotient
  else if den < 2 * remainder then quotient + 1
  else quotient + quotient % 2

/-- The quotient rounded to a natural number, a half upwards. -/
def roundHalfUp (num den : Nat) : Nat :=
  (2 * num + den) / (2 * den)

/-- A binary64 number. -/
inductive Binary64 where
  | nan
  | infinite (negative : Bool)
  /-- The number `mantissa * 2 ^ unit / 2 ^ 1074`, negated if `negative`. -/
  | finite (negative : Bool) (mantissa unit : Nat)
  deriving DecidableEq, Repr

namespace Binary64

/-- All finite numbers are multiples of one part in `grain`. -/
def grain : Nat := pow2 1074

/-- The number nearest to `num / (den * grain)`. -/
def ofGrains (negative : Bool) (num den : Nat) : Binary64 :=
  let unit := (num / den).log2 - 52
  let mantissa := roundHalfEven num (den * pow2 unit)
  let carry := mantissa = pow2 53
  let unit := if carry then unit + 1 else unit
  if 2045 < unit then infinite negative
  else finite negative (if carry then pow2 52 else mantissa) unit

/-- The number nearest to `num / den`. -/
def ofRatio (negative : Bool) (num den : Nat) : Binary64 :=
  ofGrains negative (num * grain) den

/-- The number nearest to `n`. -/
def ofNat (n : Nat) : Binary64 :=
  ofRatio false n 1

/-- The number nearest to `coefficient * 10 ^ exponent`. Exponents so far out
    that the number is infinite or zero are not worked out. -/
def ofDecimal (negative : Bool) (coefficient : Nat) (exponent : Int) : Binary64 :=
  if coefficient = 0 then finite negative 0 0
  else if 400 < exponent then infinite negative
  else if exponent + coefficient.log2 < -400 then finite negative 0 0
  else if 0 ≤ exponent then ofRatio negative (coefficient * pow10 exponent.toNat) 1
  else ofRatio negative coefficient (pow10 (-exponent).toNat)

/-- The number zero, without a sign. -/
def zero : Binary64 :=
  finite false 0 0

/-- The number of grains in a mantissa and a unit. -/
def grains (mantissa unit : Nat) : Nat :=
  mantissa * pow2 unit

/-- The number carries a minus sign. -/
def isNegative : Binary64 → Bool
  | nan => false
  | infinite negative => negative
  | finite negative _ _ => negative

/-- The number is finite. -/
def isFinite : Binary64 → Bool
  | finite .. => true
  | _ => false

/-- The number is a zero of either sign. -/
def isZero : Binary64 → Bool
  | finite _ mantissa _ => mantissa == 0
  | _ => false

/-- The number with the other sign. -/
def neg : Binary64 → Binary64
  | nan => nan
  | infinite negative => infinite (!negative)
  | finite negative mantissa unit => finite (!negative) mantissa unit

/-- The sum. A sum of zero is positive unless both numbers are negative. -/
def add : Binary64 → Binary64 → Binary64
  | nan, _ => nan
  | _, nan => nan
  | infinite a, infinite b => if a = b then infinite a else nan
  | infinite a, finite .. => infinite a
  | finite .., infinite b => infinite b
  | finite a m u, finite b n v =>
    let left := grains m u
    let right := grains n v
    if a = b then ofGrains a (left + right) 1
    else if right < left then ofGrains a (left - right) 1
    else if left < right then ofGrains b (right - left) 1
    else zero

/-- The difference. -/
def sub (x y : Binary64) : Binary64 :=
  x.add y.neg

/-- The product. -/
def mul : Binary64 → Binary64 → Binary64
  | nan, _ => nan
  | _, nan => nan
  | infinite a, infinite b => infinite (a != b)
  | infinite a, finite b n _ => if n = 0 then nan else infinite (a != b)
  | finite a m _, infinite b => if m = 0 then nan else infinite (a != b)
  | finite a m u, finite b n v =>
    ofGrains (a != b) (grains m u * grains n v) grain

/-- The quotient. -/
def div : Binary64 → Binary64 → Binary64
  | nan, _ => nan
  | _, nan => nan
  | infinite _, infinite _ => nan
  | infinite a, finite b _ _ => infinite (a != b)
  | finite a _ _, infinite b => finite (a != b) 0 0
  | finite a m u, finite b n v =>
    if n = 0 then (if m = 0 then nan else infinite (a != b))
    else ofRatio (a != b) (grains m u) (grains n v)

/-- The nearest whole number, a half away from zero. -/
def round : Binary64 → Binary64
  | finite negative mantissa unit =>
    ofRatio negative (roundHalfUp (grains mantissa unit) grain) 1
  | x => x

/-- The nearest natural number up to `limit`, a half away from zero; zero for
    what is negative or no number. -/
def toNatUpTo (limit : Nat) : Binary64 → Nat
  | nan => 0
  | infinite negative => if negative then 0 else limit
  | finite negative mantissa unit =>
    if negative then 0 else min limit (roundHalfUp (grains mantissa unit) grain)

/-- The number rounded to one decimal: ten times it, rounded, and divided again. -/
def roundToTenth (x : Binary64) : Binary64 :=
  ((x.mul (ofNat 10)).round).div (ofNat 10)

end Binary64
end Tagdown
