/-
  Tagdown.Json.Number

  JSON numbers: their grammar and their values as counts and as binary64
  numbers.

  The binary64 value is computed in few steps: the leading digits that fit into
  64 bits, then one product or quotient with a power of ten. It can differ from
  the nearest number in its last place where the digits are many or the power
  of ten is large.
-/

import Tagdown.Json.Fault
import Tagdown.Numeric.Binary64

namespace Tagdown
namespace Json

/-- The written exponent of a number. -/
structure Exponent where
  negative : Bool
  digits : Text
  deriving DecidableEq, Repr

/-- A number as it is written. -/
structure NumberToken where
  negative : Bool
  whole : Text
  fraction : Option Text
  exponent : Option Exponent
  deriving DecidableEq, Repr

/-- One or more digits. `atEnd` is the fault of a text that ends before them. -/
def readDigits (atEnd : Fault) (t : Text) : Except Fault (Text × Text) :=
  match t.takeWhile Char.isDigit, t with
  | [], [] => .error atEnd
  | [], _ :: _ => .error .malformed
  | digits, _ => .ok (digits, t.dropWhile Char.isDigit)

/-- The whole part of a number: a lone zero, or digits that do not start with
    one. -/
def readWhole (atEnd : Fault) : Text → Except Fault (Text × Text)
  | '0' :: rest =>
    if (rest.takeWhile Char.isDigit).isEmpty then .ok (['0'], rest) else .error .malformed
  | t => readDigits atEnd t

/-- The fraction, if the text goes on with a point. -/
def readFraction (atEnd : Fault) : Text → Except Fault (Option Text × Text)
  | '.' :: rest => do
    let (digits, rest) ← readDigits atEnd rest
    return (some digits, rest)
  | t => .ok (none, t)

/-- The sign of an exponent and the text behind it. -/
def exponentSign : Text → Bool × Text
  | '+' :: rest => (false, rest)
  | '-' :: rest => (true, rest)
  | t => (false, t)

/-- The exponent, if the text goes on with `e` or `E`. -/
def readExponent (atEnd : Fault) : Text → Except Fault (Option Exponent × Text)
  | c :: rest =>
    if c = 'e' ∨ c = 'E' then do
      let (negative, rest) := exponentSign rest
      let (digits, rest) ← readDigits atEnd rest
      return (some ⟨negative, digits⟩, rest)
    else .ok (none, c :: rest)
  | [] => .ok (none, [])

/-- The number without its sign. -/
def readUnsigned (atEnd : Fault) (negative : Bool) (t : Text) :
    Except Fault (NumberToken × Text) := do
  let (whole, t) ← readWhole atEnd t
  let (fraction, t) ← readFraction atEnd t
  let (exponent, t) ← readExponent atEnd t
  return (⟨negative, whole, fraction, exponent⟩, t)

/-- The number at the start of the text. -/
def readNumber (atEnd : Fault) : Text → Except Fault (NumberToken × Text)
  | '-' :: rest => readUnsigned atEnd true rest
  | t => readUnsigned atEnd false t

namespace NumberToken

/-- The significand after as many of the digits as fit, and the digits left over. -/
def absorb (significand : Nat) : Text → Nat × Text
  | [] => (significand, [])
  | c :: rest =>
    let next := 10 * significand + Text.digitValue c
    if next < wordLimit then absorb next rest else (significand, c :: rest)

/-- The number times ten to the power of the exponent, or nothing if that is too
    large to be finite. -/
def scale? (x : Binary64) (exponent : Int) : Option Binary64 :=
  if exponent.natAbs ≤ 308 then
    let power := Binary64.ofNat (pow10 exponent.natAbs)
    if 0 ≤ exponent then
      let y := x.mul power
      if y.isFinite then some y else none
    else some (x.div power)
  else if x.isZero then some x
  -- `10 ^ 308` is the largest power of ten that is finite: beyond it a number
  -- that is not zero is too large, and a small one is divided in several steps.
  else if 0 ≤ exponent then none
  else scale? (x.div (.ofNat (pow10 308))) (exponent + 308)
termination_by exponent.natAbs
decreasing_by omega

/-- The magnitude of the number, or nothing if it is too large. -/
def magnitude? (n : NumberToken) : Option Binary64 :=
  let (significand, left) := absorb 0 n.whole
  let fraction := n.fraction.getD []
  let (significand, unused) := absorb significand fraction
  let exponent : Int := left.length - ((fraction.length - unused.length : Nat) : Int)
  match n.exponent with
  | none => scale? (.ofNat significand) exponent
  | some written =>
    let size := Text.digitsValue 0 written.digits
    if pow2 31 ≤ size then
      if significand ≠ 0 ∧ !written.negative then none else some .zero
    else scale? (.ofNat significand) (if written.negative then exponent - size else exponent + size)

/-- The binary64 value of the number, or nothing if it is too large. -/
def toBinary64? (n : NumberToken) : Option Binary64 :=
  n.magnitude?.map fun x => if n.negative then x.neg else x

/-- The count that the number is: digits alone, with a value below `wordLimit`. -/
def toCount? (n : NumberToken) : Option Nat :=
  let value := Text.digitsValue 0 n.whole
  if !n.negative ∧ n.fraction = none ∧ n.exponent = none ∧ value < wordLimit then some value
  else none

end NumberToken
end Json
end Tagdown
