/-
  Tagdown.Text.Basic

  Texts as lists of characters, and the operations that every other module
  shares: cutting at a separator, trimming, maximal runs, decimal numerals and
  lengths in encoded units.

  Main statements: `splitOn_ne_nil` and `segments_ne_nil` (a cut text has at
  least one piece), `after?_length_lt` (what follows a character is shorter).
-/

namespace Tagdown

/-- A text is the list of its characters. -/
abbrev Text := List Char

namespace Text

/-! ## Cutting -/

/-- The pieces between the occurrences of `sep`; a text without it is one piece. -/
def splitOn (sep : Char) : Text → List Text
  | [] => [[]]
  | c :: rest =>
    if c = sep then [] :: splitOn sep rest
    else (splitOn sep rest).modifyHead (c :: ·)

theorem splitOn_ne_nil (sep : Char) (t : Text) : splitOn sep t ≠ [] := by
  cases t with
  | nil => simp [splitOn]
  | cons c rest =>
    by_cases h : c = sep
    · simp [splitOn, h]
    · simp [splitOn, h, List.modifyHead_eq_nil_iff, splitOn_ne_nil sep rest]

/-- The lines of a text, cut at every line feed. -/
def lines (t : Text) : List Text :=
  splitOn '\n' t

/-- The segments of a text, cut at every line break: a carriage return with the
    line feed after it, a lone line feed or a lone carriage return. -/
def segments : Text → List Text
  | [] => [[]]
  | '\r' :: '\n' :: rest => [] :: segments rest
  | c :: rest =>
    if c = '\n' ∨ c = '\r' then [] :: segments rest
    else (segments rest).modifyHead (c :: ·)

theorem segments_ne_nil (t : Text) : segments t ≠ [] := by
  fun_induction segments t with
  | case1 => simp
  | case2 => simp
  | case3 => simp
  | case4 _ _ _ _ ih => simpa [List.modifyHead_eq_nil_iff] using ih

/-- The texts with a line feed between each two. -/
def joinLines (ts : List Text) : Text :=
  List.intercalate ['\n'] ts

/-- What follows the first `stop`, if the text has one. -/
def after? (stop : Char) : Text → Option Text
  | [] => none
  | c :: rest => if c = stop then some rest else after? stop rest

theorem after?_length_lt {stop : Char} {t rest : Text} (h : after? stop t = some rest) :
    rest.length < t.length := by
  induction t with
  | nil => simp [after?] at h
  | cons c t ih =>
    by_cases hc : c = stop
    · simp only [after?, hc, ↓reduceIte, Option.some.injEq] at h
      simp [h]
    · simp only [after?, hc, ↓reduceIte] at h
      have := ih h
      simp only [List.length_cons]
      omega

/-- The text before and after the last `sep`, if it has one. -/
def cutLast? (sep : Char) : Text → Option (Text × Text)
  | [] => none
  | c :: rest =>
    match cutLast? sep rest with
    | some (before, after) => some (c :: before, after)
    | none => if c = sep then some ([], rest) else none

/-! ## Trimming and runs -/

/-- The text without the characters of `p` at its end. -/
def dropEndWhile (p : Char → Bool) (t : Text) : Text :=
  (t.reverse.dropWhile p).reverse

/-- The text without the characters of `p` at both ends. -/
def trimBy (p : Char → Bool) (t : Text) : Text :=
  dropEndWhile p (t.dropWhile p)

/-- The maximal runs of consecutive characters of `keep`. -/
def runs (keep : Char → Bool) : Text → List Text
  | [] => []
  | c :: rest =>
    if keep c then (c :: rest.takeWhile keep) :: runs keep (rest.dropWhile keep)
    else runs keep rest
termination_by t => t.length
decreasing_by
  · have := (List.dropWhile_suffix keep (l := rest)).length_le
    simp only [List.length_cons]
    omega
  · simp

/-- The text, filled up with spaces to `width` characters. -/
def padEnd (width : Nat) (t : Text) : Text :=
  t ++ List.replicate (width - t.length) ' '

/-! ## Numerals -/

/-- The decimal numeral of a natural number. -/
def ofNat (n : Nat) : Text :=
  Nat.toDigits 10 n

/-- The decimal numeral of an integer, with a minus sign below zero. -/
def ofInt (i : Int) : Text :=
  if i < 0 then '-' :: ofNat i.natAbs else ofNat i.natAbs

/-- The decimal numeral, filled up with leading zeros to `width` digits. -/
def ofNatPadded (width n : Nat) : Text :=
  let digits := ofNat n
  List.replicate (width - digits.length) '0' ++ digits

/-- The value of an ASCII digit. -/
def digitValue (c : Char) : Nat :=
  c.toNat - '0'.toNat

/-- The number that a row of ASCII digits stands for, the digits read so far
    being worth `start`. -/
def digitsValue (start : Nat) (digits : Text) : Nat :=
  digits.foldl (fun value c => 10 * value + digitValue c) start

/-- The number below `limit` that a numeral stands for: ASCII digits, perhaps
    behind a plus sign. -/
def toNatBelow? (limit : Nat) (t : Text) : Option Nat :=
  let digits :=
    match t with
    | '+' :: rest => rest
    | _ => t
  let value := digitsValue 0 digits
  if digits ≠ [] ∧ digits.all Char.isDigit ∧ value < limit then some value else none

/-! ## Lengths -/

/-- The number of UTF-16 code units of a character: two outside the Basic
    Multilingual Plane. -/
def units16OfChar (c : Char) : Nat :=
  if c.toNat < 0x10000 then 1 else 2

/-- The number of UTF-16 code units of a text. -/
def units16 (t : Text) : Nat :=
  (t.map units16OfChar).foldr (· + ·) 0

/-- The number of bytes of a text in UTF-8. -/
def utf8Size (t : Text) : Nat :=
  (t.map Char.utf8Size).foldr (· + ·) 0

/-! ## Case -/

/-- The character in lower case, if that is an ASCII letter; every other character
    as it is. Beyond ASCII only the Kelvin sign has such a lower case. -/
def lowercaseOf (c : Char) : Char :=
  if c = '\u212A' then 'k' else c.toLower

/-- The text in lower case, as far as ASCII letters go. -/
def lowercase (t : Text) : Text :=
  t.map lowercaseOf

end Text
end Tagdown
