/-
  Tagdown.Search.Fault

  What can be wrong with a pattern, and how it is told: the pattern is shown
  with marks under the part that is at fault.
-/

import Tagdown.Search.Cursor

namespace Tagdown
namespace Search

/-- How deep brackets and groups of a pattern may be nested. -/
def depthLimit : Nat := 250

/-- The bytes that a pattern may take up when it is made ready for searching. -/
def sizeLimit : Nat := 10485760

/-- What is wrong with a part of a pattern. -/
inductive Flaw where
  /-- An escape in brackets that stands for no character. -/
  | bracketEscape
  /-- A range whose first character comes after the last one. -/
  | rangeOrder
  /-- A range with an end that is no single character. -/
  | rangeEnd
  | bracketUnclosed
  | numberTooLarge
  | hexEmpty
  /-- The number of a character that there is not. -/
  | hexNoChar
  | hexDigit
  | escapeEnds
  | escapeUnknown
  | flagNegationLast
  | flagTwice
  | flagNegationTwice
  | flagEnds
  | flagUnknown
  | nameTwice
  | nameEmpty
  | nameChar
  | nameEnds
  | groupUnclosed
  | groupUnopened
  | tooDeep
  /-- A count whose least number is greater than the greatest one. -/
  | countOrder
  | countEmpty
  | countUnclosed
  /-- A repetition of nothing. -/
  | repeatsNothing
  | edgeUnclosed
  | edgeUnknown
  | edgeEnds
  | propertySign
  | backreference
  | lookAround
  /-- What only Unicode patterns can tell apart. -/
  | needsUnicode
  /-- Characters that are no text on their own. -/
  | needsText
  | propertyUnknown
  | propertyValueUnknown
  deriving DecidableEq, Repr

namespace Flaw

/-- The words for a flaw. -/
def message : Flaw → String
  | bracketEscape => "invalid escape sequence found in character class"
  | rangeOrder => "invalid character class range, the start must be <= the end"
  | rangeEnd => "invalid range boundary, must be a literal"
  | bracketUnclosed => "unclosed character class"
  | numberTooLarge => "decimal literal invalid"
  | hexEmpty => "hexadecimal literal empty"
  | hexNoChar => "hexadecimal literal is not a Unicode scalar value"
  | hexDigit => "invalid hexadecimal digit"
  | escapeEnds => "incomplete escape sequence, reached end of pattern prematurely"
  | escapeUnknown => "unrecognized escape sequence"
  | flagNegationLast => "dangling flag negation operator"
  | flagTwice => "duplicate flag"
  | flagNegationTwice => "flag negation operator repeated"
  | flagEnds => "expected flag but got end of regex"
  | flagUnknown => "unrecognized flag"
  | nameTwice => "duplicate capture group name"
  | nameEmpty => "empty capture group name"
  | nameChar => "invalid capture group character"
  | nameEnds => "unclosed capture group name"
  | groupUnclosed => "unclosed group"
  | groupUnopened => "unopened group"
  | tooDeep => s!"exceed the maximum number of nested parentheses/brackets ({depthLimit})"
  | countOrder => "invalid repetition count range, the start must be <= the end"
  | countEmpty => "repetition quantifier expects a valid decimal"
  | countUnclosed => "unclosed counted repetition"
  | repeatsNothing => "repetition operator missing expression"
  | edgeUnclosed =>
    "special word boundary assertion is either unclosed or contains an invalid character"
  | edgeUnknown =>
    "unrecognized special word boundary assertion, valid choices are: start, end, start-half " ++
      "or end-half"
  | edgeEnds =>
    "found either the beginning of a special word boundary or a bounded repetition on a \\b " ++
      "with an opening brace, but no closing brace"
  | propertySign => "invalid Unicode character class"
  | backreference => "backreferences are not supported"
  | lookAround => "look-around, including look-ahead and look-behind, is not supported"
  | needsUnicode => "Unicode not allowed here"
  | needsText => "pattern can match invalid UTF-8"
  | propertyUnknown => "Unicode property not found"
  | propertyValueUnknown => "Unicode property value not found"

end Flaw

/-- Why a pattern cannot be used. -/
inductive Fault where
  /-- A part of the pattern is wrong. `other?` is the part that it clashes with. -/
  | flawed (flaw : Flaw) (span : Span) (other? : Option Span)
  /-- The pattern takes up too much memory. -/
  | tooLarge
  deriving DecidableEq, Repr

/-- A flaw of a part of a pattern. -/
def flaw (f : Flaw) (s : Span) : Except Fault α :=
  .error (.flawed f s none)

namespace Fault

/-! ## Marks -/

/-- The lines of a pattern. A carriage return before a line feed belongs to the
    break, and so does a line feed at the end. -/
def shownLines (pattern : Text) : List Text :=
  let lines := Text.lines pattern
  let closed := lines.dropLast.map fun line =>
    if line.getLast? = some '\r' then line.dropLast else line
  match lines.getLast? with
  | some [] => closed
  | some line => closed ++ [line]
  | none => closed

/-- The marks under a line: carets below the parts, which are in the order in
    which they start. `done` columns have been written. -/
def marksFrom (done : Nat) : List Span → Text
  | [] => []
  | s :: rest =>
    let gap := s.start.column - 1 - done
    let width := max 1 (s.stop.column - s.start.column)
    List.replicate gap ' ' ++ List.replicate width '^' ++ marksFrom (done + gap + width) rest

/-- The part starts and ends on one line. -/
def onOneLine (s : Span) : Bool :=
  s.start.line == s.stop.line

/-- The first part comes before the second. -/
def before (s t : Span) : Bool :=
  s.start.line < t.start.line ||
    (s.start.line == t.start.line && s.start.column ≤ t.start.column)

/-- Two parts in their order. -/
def inOrder (span : Span) (other? : Option Span) : List Span :=
  match other? with
  | some other => if before span other then [span, other] else [other, span]
  | none => [span]

/-- A line with its number, if the lines are numbered in columns of `width`
    digits, and the marks under it. -/
def numbered (width : Nat) (spans : List Span) (line : Text) (number : Nat) : Text :=
  let here := spans.filter fun s => onOneLine s && s.start.line == number
  let digits := Text.ofNat number
  let label :=
    if width = 0 then List.replicate 4 ' '
    else List.replicate (width - digits.length) ' ' ++ digits ++ ": ".toList
  let margin := if width = 0 then 4 else width + 2
  let marks :=
    if here.isEmpty then []
    else List.replicate margin ' ' ++ marksFrom 0 here ++ ['\n']
  label ++ line ++ '\n' :: marks

/-- The pattern with marks under its parts. -/
def notated (pattern : Text) (spans : List Span) : Text :=
  let lines := shownLines pattern
  let count := if pattern.getLast? = some '\n' then lines.length + 1 else lines.length
  let width := if count ≤ 1 then 0 else (Text.ofNat count).length
  (lines.zipIdx 1).flatMap fun (line, number) => numbered width spans line number

/-- A note about a part that covers several lines. -/
def lineNote (s : Span) : Text :=
  "on line ".toList ++ Text.ofNat s.start.line ++ " (column ".toList ++
    Text.ofNat s.start.column ++ ") through line ".toList ++ Text.ofNat s.stop.line ++
    " (column ".toList ++ Text.ofNat (s.stop.column - 1) ++ ")\n".toList

/-- A row that sets a pattern of several lines apart. -/
def ruler : Text :=
  List.replicate 79 '~' ++ ['\n']

/-- What is said about a flaw. -/
def describe (pattern : Text) (flaw : Flaw) (spans : List Span) : Text :=
  let body := notated pattern spans
  let framed :=
    if '\n' ∈ pattern then
      ruler ++ body ++ ruler ++ (spans.filter (!onOneLine ·)).flatMap lineNote
    else body
  "regex parse error:\n".toList ++ framed ++ "error: ".toList ++ flaw.message.toList

/-- What is said about a fault of a pattern. -/
def message (pattern : Text) : Fault → Text
  | flawed flaw span other? => describe pattern flaw (inOrder span other?)
  | tooLarge =>
    "Compiled regex exceeds size limit of ".toList ++ Text.ofNat sizeLimit ++ " bytes.".toList

end Fault
end Search
end Tagdown
