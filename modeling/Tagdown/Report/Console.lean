/-
  Tagdown.Report.Console

  The report for readers: a title and four sections of labelled values, in a
  fixed order. Levels without headings are left out.
-/

import Tagdown.Numeric.Layout
import Tagdown.Statistics.Analysis

namespace Tagdown
namespace ConsoleReport

/-- The width of the rule below the title. -/
def ruleWidth : Nat := 50

/-- A labelled value. -/
def metric (label value : Text) : Text :=
  "   ".toList ++ label ++ ": ".toList ++ value

/-- A labelled count. -/
def count (label : String) (n : Nat) : Text :=
  metric label.toList (Text.ofNat n)

/-- A labelled percentage with one decimal. -/
def percentage (label : String) (x : Binary64) : Text :=
  metric label.toList (x.toFixed 1 ++ ['%'])

/-- The lines for the levels that have headings. -/
def headingLines (h : HeadingCounts) : List Text :=
  (h.levels.filter fun (_, n) => n ≠ 0).map fun (level, n) =>
    metric ('H' :: Text.ofNat level ++ " Headings".toList) (Text.ofNat n)

/-- The average length of a paragraph, as it is shown. -/
def average (s : Statistics) : Text :=
  if s.paragraphs = 0 then ['0'] else s.wordsPerParagraph.toFixed 1

/-- The lines of the report. -/
def lines (s : Statistics) : List Text :=
  ["Markdown Statistics Report".toList, List.replicate ruleWidth '=', [],
   "Content Overview:".toList, count "Word Count" s.words, count "Paragraphs" s.paragraphs,
   count "List Items" s.listItems, count "Quote Lines" s.quotes, [],
   "Structure Analysis:".toList] ++
  headingLines s.headings ++
  [count "Total Headings" s.headings.total, [],
   "Links & Media:".toList, count "Links" s.links, count "Images" s.images,
   count "Code Blocks" s.codeFences, [],
   "Content Analysis:".toList, percentage "Plain Text" s.plainRatio,
   percentage "Formatting" s.formattingRatio, metric "Avg Words/Paragraph".toList (average s)]

/-- The report. -/
def render (s : Statistics) : Text :=
  Text.joinLines (lines s)

end ConsoleReport
end Tagdown
