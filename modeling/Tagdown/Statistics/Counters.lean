/-
  Tagdown.Statistics.Counters

  What is counted line by line: words, headings by level, links, images, list
  items, quotes and code fences. The counters of a text are the sum of the
  counters of its lines.
-/

import Tagdown.Numeric.Power
import Tagdown.Statistics.Match
import Tagdown.Text.DecimalDigit

namespace Tagdown

/-- The number of headings of each of the six levels. -/
structure HeadingCounts where
  h1 : Nat
  h2 : Nat
  h3 : Nat
  h4 : Nat
  h5 : Nat
  h6 : Nat
  deriving DecidableEq, Repr

namespace HeadingCounts

/-- No headings. -/
def zero : HeadingCounts :=
  ⟨0, 0, 0, 0, 0, 0⟩

/-- The number of headings of a level; there are none outside one to six. -/
def count (h : HeadingCounts) : Nat → Nat
  | 1 => h.h1
  | 2 => h.h2
  | 3 => h.h3
  | 4 => h.h4
  | 5 => h.h5
  | 6 => h.h6
  | _ => 0

/-- One heading of the given level. -/
def single (level : Nat) : HeadingCounts :=
  let one (k : Nat) := if level = k then 1 else 0
  ⟨one 1, one 2, one 3, one 4, one 5, one 6⟩

/-- The counts of two texts together. -/
def add (a b : HeadingCounts) : HeadingCounts :=
  ⟨a.h1 + b.h1, a.h2 + b.h2, a.h3 + b.h3, a.h4 + b.h4, a.h5 + b.h5, a.h6 + b.h6⟩

/-- The counts in the order of the levels. -/
def toList (h : HeadingCounts) : List Nat :=
  [h.h1, h.h2, h.h3, h.h4, h.h5, h.h6]

/-- The number of headings of all levels. Like every count it has 64 bits, so
    only what is left of a larger sum in them. -/
def total (h : HeadingCounts) : Nat :=
  (h.h1 + h.h2 + h.h3 + h.h4 + h.h5 + h.h6) % wordLimit

/-- Each level with its count. -/
def levels (h : HeadingCounts) : List (Nat × Nat) :=
  [1, 2, 3, 4, 5, 6].map fun level => (level, h.count level)

end HeadingCounts

/-- What is counted line by line. -/
structure Counters where
  words : Nat
  headings : HeadingCounts
  links : Nat
  images : Nat
  listItems : Nat
  quotes : Nat
  codeFences : Nat
  deriving DecidableEq, Repr

namespace Counters

/-- The counters of an empty text. -/
def zero : Counters :=
  ⟨0, .zero, 0, 0, 0, 0, 0⟩

/-- The counters of two texts together. -/
def add (a b : Counters) : Counters :=
  { words := a.words + b.words
    headings := a.headings.add b.headings
    links := a.links + b.links
    images := a.images + b.images
    listItems := a.listItems + b.listItems
    quotes := a.quotes + b.quotes
    codeFences := a.codeFences + b.codeFences }

/-- The counters of several texts together. -/
def sum (cs : List Counters) : Counters :=
  cs.foldr add zero

end Counters

namespace Line

/-- The markdown marks that are dropped before words are counted. -/
def isWordMark (c : Char) : Bool :=
  c ∈ ['#', '*', Char.ofNat 0x60, '>', '-', '[', ']', '(', ')']

/-- The number of words of a line, its markdown marks left out. -/
def wordCount (line : Text) : Nat :=
  (Text.words (line.filter (!isWordMark ·))).length

/-- The text starts with a blank. -/
def startsBlank : Text → Bool
  | [] => false
  | c :: _ => Text.isBlank c

/-- The level of a heading line: one to six hashes, then a blank. -/
def headingLevel? (line : Text) : Option Nat :=
  let hashes := (line.takeWhile (· == '#')).length
  if 1 ≤ hashes ∧ hashes ≤ 6 ∧ startsBlank (line.drop hashes) then some hashes else none

/-- The line opens with `-`, `*` or `+` and a blank. -/
def isBulletItem : Text → Bool
  | c :: rest => (c == '-' || c == '*' || c == '+') && startsBlank rest
  | [] => false

/-- The line opens with a number, a full stop and a blank. -/
def isNumberedItem (line : Text) : Bool :=
  match line.takeWhile Text.isDecimalDigit, line.dropWhile Text.isDecimalDigit with
  | _ :: _, '.' :: rest => startsBlank rest
  | _, _ => false

/-- The line is an item of a list. -/
def isListItem (line : Text) : Bool :=
  isBulletItem line || isNumberedItem line

/-- The line is a quote. -/
def isQuote : Text → Bool
  | c :: _ => c == '>'
  | [] => false

/-- The marks that open or close a block of code. -/
def fence : Text :=
  List.replicate 3 (Char.ofNat 0x60)

/-- The line opens or closes a block of code. -/
def isCodeFence (line : Text) : Bool :=
  fence.isPrefixOf line

/-- The counters of a trimmed line. -/
def counters (line : Text) : Counters :=
  { words := wordCount line
    headings :=
      match headingLevel? line with
      | some level => .single level
      | none => .zero
    links := Pattern.link.count line
    images := Pattern.image.count line
    listItems := (isListItem line).toNat
    quotes := (isQuote line).toNat
    codeFences := (isCodeFence line).toNat }

end Line
end Tagdown
