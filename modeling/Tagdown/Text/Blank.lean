/-
  Tagdown.Text.Blank

  The blank characters and what is trimmed from a line.

  A character is blank when it has the Unicode property `White_Space`. Lines
  are trimmed of padding: blanks and the byte order mark, which some editors
  put at the start of a file and which is itself no blank.
-/

import Tagdown.Text.Basic

namespace Tagdown

/-- A range of code points, both ends included. -/
structure CodeRange where
  first : Nat
  last : Nat
  deriving DecidableEq, Repr

namespace CodeRange

/-- The character lies in the range. -/
def holds (r : CodeRange) (c : Char) : Bool :=
  r.first ≤ c.toNat && c.toNat ≤ r.last

end CodeRange

namespace Text

/-- The code points with the property `White_Space`, in ascending order. -/
def blankRanges : List CodeRange :=
  [⟨0x0009, 0x000D⟩, ⟨0x0020, 0x0020⟩, ⟨0x0085, 0x0085⟩, ⟨0x00A0, 0x00A0⟩,
   ⟨0x1680, 0x1680⟩, ⟨0x2000, 0x200A⟩, ⟨0x2028, 0x2029⟩, ⟨0x202F, 0x202F⟩,
   ⟨0x205F, 0x205F⟩, ⟨0x3000, 0x3000⟩]

/-- The character is white space. -/
def isBlank (c : Char) : Bool :=
  blankRanges.any (·.holds c)

/-- The mark that some editors put in front of a text. -/
def byteOrderMark : Char := '\uFEFF'

/-- The character is dropped at both ends of a line. -/
def isPadding (c : Char) : Bool :=
  isBlank c || c == byteOrderMark

/-- The text without the blanks at both ends. -/
def trimBlank (t : Text) : Text :=
  trimBy isBlank t

/-- The line without the padding at both ends. -/
def trimLine (t : Text) : Text :=
  trimBy isPadding t

/-- The words of a text: its maximal runs of characters that are not blank. -/
def words (t : Text) : List Text :=
  runs (!isBlank ·) t

end Text
end Tagdown
