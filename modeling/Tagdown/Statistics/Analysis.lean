/-
  Tagdown.Statistics.Analysis

  The statistics of a markdown text: its counters, its paragraphs, and how much
  of it is plain text and how much formatting.
-/

import Tagdown.Numeric.Binary64
import Tagdown.Statistics.Counters
import Tagdown.Statistics.Paragraph

namespace Tagdown

/-- The statistics of a text. The two ratios are percentages. -/
structure Statistics extends Counters where
  paragraphs : Nat
  plainRatio : Binary64
  formattingRatio : Binary64
  deriving DecidableEq, Repr

namespace Statistics

/-- The lines that are counted: those that hold more than padding. -/
def solidLines (text : Text) : List Text :=
  (Text.lines text).filter Paragraph.isSolid

/-- The counters of a text. -/
def countersOf (text : Text) : Counters :=
  .sum ((solidLines text).map fun line => Line.counters (Text.trimLine line))

/-- The character counts as formatting. -/
def isFormatting (c : Char) : Bool :=
  Line.isWordMark c || c == '_' || c == '~'

/-- The number of formatting characters in the counted lines of a text. -/
def formattingCount (text : Text) : Nat :=
  ((solidLines text).map (·.countP isFormatting)).foldr (· + ·) 0

/-- The percentages of plain and formatting characters, to one decimal; both are
    zero for an empty text. -/
def ratios (total formatting : Nat) : Binary64 × Binary64 :=
  if total = 0 then (.zero, .zero)
  else
    let whole := Binary64.ofNat total
    let part := Binary64.ofNat formatting
    let percent (x : Binary64) := ((x.div whole).mul (.ofNat 100)).roundToTenth
    (percent (whole.sub part), percent part)

/-- The statistics of a text. Its length is taken in UTF-16 code units. -/
def ofText (text : Text) : Statistics :=
  let (plain, formatting) := ratios (Text.units16 text) (formattingCount text)
  { countersOf text with
    paragraphs := Paragraph.count text
    plainRatio := plain
    formattingRatio := formatting }

/-- The number of words in a paragraph, to one decimal; zero without paragraphs. -/
def wordsPerParagraph (s : Statistics) : Binary64 :=
  if s.paragraphs = 0 then .zero
  else ((Binary64.ofNat s.words).div (.ofNat s.paragraphs)).roundToTenth

/-- What the analysis of a text reports about itself. -/
def trace (text : Text) (s : Statistics) : Text :=
  "analyzed ".toList ++ Text.ofNat (Text.units16 text) ++ " character(s): ".toList ++
    Text.ofNat s.words ++ " word(s), ".toList ++
    Text.ofNat s.paragraphs ++ " paragraph(s), ".toList ++
    Text.ofNat s.headings.total ++ " heading(s)".toList

end Statistics
end Tagdown
