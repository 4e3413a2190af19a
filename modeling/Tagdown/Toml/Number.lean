/-
  Tagdown.Toml.Number

  The integers and floats of TOML. Underscores may stand between two digits.
-/

import Tagdown.Toml.Value

namespace Tagdown
namespace Toml

/-- The digits that go on a row of digits, without the underscores between
    them. -/
def moreDigits? (isDigit : Char → Bool) : Text → Option (Text × Text)
  | [] => some ([], [])
  | ['_'] => none
  | '_' :: c :: rest =>
    if isDigit c then (moreDigits? isDigit rest).map fun (ds, rest) => (c :: ds, rest) else none
  | c :: rest =>
    if isDigit c then (moreDigits? isDigit rest).map fun (ds, rest) => (c :: ds, rest)
    else some ([], c :: rest)

/-- A row of at least one digit. -/
def readDigits? (isDigit : Char → Bool) : Text → Option (Text × Text)
  | c :: rest =>
    if isDigit c then (moreDigits? isDigit rest).map fun (ds, rest) => (c :: ds, rest) else none
  | [] => none

/-- The sign that a number opens with, if any: whether it is a minus sign. -/
def readSign : Text → Option Bool × Text
  | '+' :: rest => (some false, rest)
  | '-' :: rest => (some true, rest)
  | t => (none, t)

/-- The whole part of a decimal number: a lone zero, or digits that do not start
    with one. -/
def readWhole? : Text → Option (Text × Text)
  | '0' :: rest => some (['0'], rest)
  | t => readDigits? Char.isDigit t

/-- The integer with the sign and the magnitude; it has to fit into 64 bits. -/
def signedInt? (negative : Bool) (size : Nat) : Option Value :=
  if negative then (if size ≤ pow2 63 then some (.int (-(size : Int))) else none)
  else if size < pow2 63 then some (.int size) else none

/-- An integer in the given base whose mark has been read. -/
def readBased? (base : Nat) (t : Text) : Option (Value × Text) := do
  let isDigit (c : Char) : Bool :=
    match hexValue? c with
    | some value => value < base
    | none => false
  let (digits, rest) ← readDigits? isDigit t
  let size := digits.foldl (fun size c => size * base + (hexValue? c).getD 0) 0
  return (← signedInt? false size, rest)

/-- The exponent of a float, if one comes next. -/
def readExponent? : Text → Option (Option Int × Text)
  | c :: rest =>
    if c = 'e' ∨ c = 'E' then do
      let (sign, rest) := readSign rest
      let (digits, rest) ← readDigits? Char.isDigit rest
      let size : Int := Text.digitsValue 0 digits
      return (some (if sign = some true then -size else size), rest)
    else some (none, c :: rest)
  | [] => some (none, [])

/-- A decimal number behind its sign. A float too large to be finite is refused,
    but not a negative one. -/
def readDecimal? (negative : Bool) (t : Text) : Option (Value × Text) := do
  let (whole, rest) ← readWhole? t
  let (fraction, rest) ←
    match rest with
    | '.' :: rest => (readDigits? Char.isDigit rest).map fun (ds, rest) => (some ds, rest)
    | _ => some (none, rest)
  let (exponent, rest) ← readExponent? rest
  match fraction, exponent with
  | none, none => return (← signedInt? negative (Text.digitsValue 0 whole), rest)
  | _, _ =>
    let fraction := fraction.getD []
    let x := Binary64.ofDecimal negative (Text.digitsValue 0 (whole ++ fraction))
      (exponent.getD 0 - fraction.length)
    if x = .infinite false then none else return (.float x, rest)

/-- An integer or a float. -/
def readNumber? (t : Text) : Option (Value × Text) :=
  match t with
  | '0' :: 'x' :: rest => readBased? 16 rest
  | '0' :: 'o' :: rest => readBased? 8 rest
  | '0' :: 'b' :: rest => readBased? 2 rest
  | _ =>
    let (sign, t) := readSign t
    let negative := sign == some true
    match t with
    | 'i' :: 'n' :: 'f' :: rest => some (.float (.infinite negative), rest)
    | 'n' :: 'a' :: 'n' :: rest => some (.float .nan, rest)
    | _ => readDecimal? negative t

end Toml
end Tagdown
