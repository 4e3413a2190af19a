/-
  Tagdown.Numeric.Shortest

  The fewest decimal digits that read back as a given binary64 number.

  The reals that round to a number form an interval around it; its ends belong
  to it when the mantissa is even. For one digit, two digits and so on, up to
  the seventeen that always suffice, the two neighbours of the number on that
  decimal grid are tried: the first grid with a neighbour in the interval wins,
  and of two the nearer.
-/

import Tagdown.Numeric.Binary64
import Tagdown.Text.Basic

namespace Tagdown

/-- The decimal fraction `0.digits * 10 ^ point`. -/
structure Digits where
  digits : Text
  point : Int
  deriving DecidableEq, Repr

/-- Which of two equally near decimals is taken. -/
inductive Tie where
  | even
  | up
  deriving DecidableEq, Repr

namespace Binary64

/-- The reals that round to a number, in fractions of `4 * grain`. -/
structure Interval where
  low : Nat
  value : Nat
  high : Nat
  closed : Bool

/-- The interval of a positive number. The gap below a power of two is half the
    gap above it. -/
def interval (mantissa unit : Nat) : Interval :=
  let gapBelow := if mantissa = pow2 52 ∧ unit ≠ 0 then 1 else 2
  { low := (4 * mantissa - gapBelow) * pow2 unit
    value := 4 * mantissa * pow2 unit
    high := (4 * mantissa + 2) * pow2 unit
    closed := mantissa % 2 == 0 }

namespace Interval

/-- The fraction `num / den` lies in the interval. -/
def holds (i : Interval) (num den : Nat) : Bool :=
  let low := i.low * den
  let high := i.high * den
  let x := num * (4 * grain)
  if i.closed then low ≤ x && x ≤ high else low < x && x < high

/-- The power of ten just above the value. -/
def point (i : Interval) : Int :=
  -- Times `10 ^ 400` even the least number has a digit in front of the point.
  (Text.ofNat (i.value * pow10 400 / (4 * grain))).length - 400

/-- The neighbour of the value on the grid of multiples of `10 ^ -places` that
    lies in the interval, as a number of grid steps. -/
def neighbour? (i : Interval) (tie : Tie) (places : Int) : Option Nat :=
  let num := pow10 places.toNat
  let den := pow10 (-places).toNat
  let value := i.value * num
  let step := 4 * grain * den
  let floor := value / step
  let rest := value % step
  let lower := i.holds (floor * den) num
  let upper := i.holds ((floor + 1) * den) num
  if lower && upper then
    if 2 * rest < step then some floor
    else if step < 2 * rest then some (floor + 1)
    else
      match tie with
      | .up => some (floor + 1)
      | .even =>
        -- An odd number of steps goes up to the next even one.
        some (floor + floor % 2)
  else if lower then some floor
  else if upper then some (floor + 1)
  else none

end Interval

/-- The fewest digits that read back as the positive number. -/
def shortest (tie : Tie) (mantissa unit : Nat) : Digits :=
  let i := interval mantissa unit
  let point := i.point
  let found := (List.range 17).findSome? fun (n : Nat) =>
    let places := (n : Int) + 1 - point
    (i.neighbour? tie places).map fun steps => (steps, places)
  match found with
  | none => ⟨[], 0⟩
  | some (steps, places) =>
    let digits := Text.ofNat steps
    ⟨Text.dropEndWhile (· == '0') digits, digits.length - places⟩

end Binary64
end Tagdown
