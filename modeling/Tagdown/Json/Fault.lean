/-
  Tagdown.Json.Fault

  Why a JSON text cannot be read, and the smallest steps of reading: blanks,
  the fixed words and the strings.

  Reading goes from left to right and stops at the first fault. Every reader
  returns what it read and the rest of the text.
-/

import Tagdown.Text.Basic

namespace Tagdown
namespace Json

/-- Why a text cannot be read. -/
inductive Fault where
  /-- The text breaks the grammar, or a number has no finite value. -/
  | malformed
  /-- The text ends too early. -/
  | truncated
  /-- The text is well formed so far but does not have the wanted content. -/
  | mismatched
  deriving DecidableEq, Repr

/-- A blank between tokens. -/
def isBlank (c : Char) : Bool :=
  c == ' ' || c == '\n' || c == '\t' || c == '\r'

/-- The text from its first character that is not blank. -/
def skipBlank (t : Text) : Text :=
  t.dropWhile isBlank

/-- The rest of the text after the given word. -/
def readWord : Text → Text → Except Fault Text
  | [], t => .ok t
  | _ :: _, [] => .error .truncated
  | w :: word, c :: t => if c = w then readWord word t else .error .malformed

/-! ## Strings -/

/-- The value of a hexadecimal digit. -/
def hexValue? (c : Char) : Option Nat :=
  if '0' ≤ c ∧ c ≤ '9' then some (c.toNat - '0'.toNat)
  else if 'a' ≤ c ∧ c ≤ 'f' then some (c.toNat - 'a'.toNat + 10)
  else if 'A' ≤ c ∧ c ≤ 'F' then some (c.toNat - 'A'.toNat + 10)
  else none

/-- The number that four hexadecimal digits stand for. A text of fewer than four
    bytes is truncated, whatever it holds. -/
def readHex4 (t : Text) : Except Fault (Nat × Text) :=
  if Text.utf8Size (t.take 4) < 4 then .error .truncated
  else
    match t with
    | a :: b :: c :: d :: rest =>
      match hexValue? a, hexValue? b, hexValue? c, hexValue? d with
      | some a, some b, some c, some d => .ok (((a * 16 + b) * 16 + c) * 16 + d, rest)
      | _, _, _, _ => .error .malformed
    | _ => .error .malformed

/-- The character that a backslash and one more character stand for. -/
def escaped? : Char → Option Char
  | '"' => some '"'
  | '\\' => some '\\'
  | '/' => some '/'
  | 'b' => some '\x08'
  | 'f' => some '\x0c'
  | 'n' => some '\n'
  | 'r' => some '\r'
  | 't' => some '\t'
  | _ => none

/-- The character written by its code unit after `\u`; a pair of surrogates is
    one character, and a surrogate that stands alone is refused. -/
def readUnicode (t : Text) : Except Fault (Char × Text) := do
  let (unit, rest) ← readHex4 t
  if 0xDC00 ≤ unit ∧ unit ≤ 0xDFFF then throw .malformed
  else if unit < 0xD800 ∨ 0xDBFF < unit then return (Char.ofNat unit, rest)
  else
    let rest ← readWord ['\\'] rest
    let rest ← readWord ['u'] rest
    let (low, rest) ← readHex4 rest
    if low < 0xDC00 ∨ 0xDFFF < low then throw .malformed
    else return (Char.ofNat ((unit - 0xD800) * 0x400 + (low - 0xDC00) + 0x10000), rest)

/-- One character of a string, or its closing quote. -/
inductive StringStep where
  | close (rest : Text)
  | char (c : Char) (rest : Text)

/-- The next character of a string. -/
def stringStep : Text → Except Fault StringStep
  | [] => .error .truncated
  | '"' :: rest => .ok (.close rest)
  | '\\' :: 'u' :: rest => do
    let (c, rest) ← readUnicode rest
    return .char c rest
  | '\\' :: c :: rest =>
    match escaped? c with
    | some c => .ok (.char c rest)
    | none => .error .malformed
  | ['\\'] => .error .truncated
  | c :: rest => if c.toNat < 0x20 then .error .malformed else .ok (.char c rest)

/-- The string up to its closing quote, in at most `fuel` characters. -/
def stringBody : Nat → Text → Except Fault (Text × Text)
  | 0, _ => .error .truncated
  | fuel + 1, t => do
    match ← stringStep t with
    | .close rest => return ([], rest)
    | .char c rest =>
      let (body, rest) ← stringBody fuel rest
      return (c :: body, rest)

/-- The string whose opening quote has been read. -/
def readString (t : Text) : Except Fault (Text × Text) :=
  stringBody (t.length + 1) t

end Json
end Tagdown
