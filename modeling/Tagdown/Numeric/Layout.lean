/-
  Tagdown.Numeric.Layout

  How a binary64 number is written out: with its shortest digits, in positional
  or exponent form, or with a fixed number of decimals.
-/

import Tagdown.Numeric.Shortest

namespace Tagdown

/-- The decisions of a number format. -/
structure NumberLayout where
  /-- Which of two equally near digit rows is taken. -/
  tie : Tie
  /-- The exponents of the first digit that are written positionally. -/
  isPositional : Int → Bool
  /-- A whole number in positional form ends in `.0`. -/
  pointZero : Bool
  /-- A positive exponent carries a plus sign. -/
  plusSign : Bool

namespace NumberLayout

/-- The digits in positional form. -/
def positional (layout : NumberLayout) (d : Digits) : Text :=
  let whole := d.point.toNat
  if d.point ≤ 0 then
    "0.".toList ++ List.replicate (-d.point).toNat '0' ++ d.digits
  else if d.digits.length ≤ whole then
    d.digits ++ List.replicate (whole - d.digits.length) '0' ++
      (if layout.pointZero then ".0".toList else [])
  else d.digits.take whole ++ '.' :: d.digits.drop whole

/-- The digits in exponent form. -/
def exponential (layout : NumberLayout) (d : Digits) : Text :=
  let exponent := d.point - 1
  let sign := if layout.plusSign && 0 ≤ exponent then ['+'] else []
  let mantissa :=
    match d.digits with
    | [] => []
    | [digit] => [digit]
    | digit :: rest => digit :: '.' :: rest
  mantissa ++ 'e' :: sign ++ Text.ofInt exponent

/-- The text of a number. -/
def write (layout : NumberLayout) : Binary64 → Text
  | .nan => "NaN".toList
  | .infinite negative => if negative then "-inf".toList else "inf".toList
  | .finite negative mantissa unit =>
    let sign := if negative then ['-'] else []
    if mantissa = 0 then sign ++ (if layout.pointZero then "0.0".toList else "0".toList)
    else
      let d := Binary64.shortest layout.tie mantissa unit
      sign ++
        (if layout.isPositional (d.point - 1) then layout.positional d
         else layout.exponential d)

/-- Shortest digits with a decimal point always shown: positional from `0.0001`
    to below `10 ^ 16`, in exponent form outside. -/
def explicit : NumberLayout :=
  { tie := .up, isPositional := fun e => -4 ≤ e && e ≤ 15, pointZero := true,
    plusSign := false }

/-- Shortest digits, never in exponent form; whole numbers without a point. -/
def plain : NumberLayout :=
  { tie := .up, isPositional := fun _ => true, pointZero := false, plusSign := false }

end NumberLayout

namespace Binary64

/-- The number with a fixed number of decimals, the exact value rounded half to
    even. A minus sign is kept even where all digits are zero. -/
def toFixed (places : Nat) : Binary64 → Text
  | nan => "NaN".toList
  | infinite negative => if negative then "-inf".toList else "inf".toList
  | finite negative mantissa unit =>
    let scaled := roundHalfEven (grains mantissa unit * pow10 places) grain
    let fraction := Text.ofNatPadded places (scaled % pow10 places)
    let sign := if negative then ['-'] else []
    sign ++ Text.ofNat (scaled / pow10 places) ++ '.' :: fraction

end Binary64
end Tagdown
