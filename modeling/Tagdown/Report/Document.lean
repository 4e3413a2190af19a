/-
  Tagdown.Report.Document

  The report for programs: a JSON document with the statistics and a timestamp,
  written and read back.
-/

import Tagdown.Calendar.Timestamp
import Tagdown.Json.Record
import Tagdown.Json.Writer
import Tagdown.Statistics.Analysis

namespace Tagdown

/-- A report as it is stored. -/
structure ReportDocument where
  statistics : Statistics
  timestamp : Text
  deriving DecidableEq, Repr

namespace ReportDocument

/-! ## Fields -/

/-- The fields of the document. -/
def fieldNames : List Text :=
  ["analysis".toList, "timestamp".toList]

/-- The fields of the statistics. -/
def statisticsFieldNames : List Text :=
  ["wordCount".toList, "paragraphCount".toList, "headingLevels".toList,
   "linkCount".toList, "imageCount".toList, "listItemCount".toList,
   "quoteCount".toList, "codeBlockCount".toList, "plainTextRatio".toList,
   "formattingRatio".toList]

/-- The fields of the heading counts. -/
def headingFieldNames : List Text :=
  ["h1".toList, "h2".toList, "h3".toList, "h4".toList, "h5".toList, "h6".toList]

/-! ## Writing -/

/-- The heading counts as they are written. -/
def writeHeadings (h : HeadingCounts) : Text :=
  Json.ofFields 2 (headingFieldNames.zip (h.toList.map Text.ofNat))

/-- The statistics as they are written. -/
def writeStatistics (s : Statistics) : Text :=
  Json.ofFields 1 <| statisticsFieldNames.zip
    [Text.ofNat s.words, Text.ofNat s.paragraphs, writeHeadings s.headings,
     Text.ofNat s.links, Text.ofNat s.images, Text.ofNat s.listItems,
     Text.ofNat s.quotes, Text.ofNat s.codeFences, Json.ofBinary64 s.plainRatio,
     Json.ofBinary64 s.formattingRatio]

/-- The text of the document. -/
def write (d : ReportDocument) : Text :=
  Json.ofFields 0 <| fieldNames.zip [writeStatistics d.statistics, Json.quoted d.timestamp]

/-! ## Reading -/

open Json (Fault)

/-- The heading counts as a record of counts. -/
def headingRecord : Json.Record Nat :=
  { names := headingFieldNames, readField := fun _ => Json.readCount }

/-- The heading counts that come next. -/
def readHeadings (t : Text) : Except Fault (HeadingCounts × Text) := do
  match ← headingRecord.read t with
  | ([a, b, c, d, e, f], rest) => return (⟨a, b, c, d, e, f⟩, rest)
  | _ => throw .mismatched

/-- The value of a field of the statistics. -/
inductive Value where
  | count (n : Nat)
  | headings (h : HeadingCounts)
  | ratio (x : Binary64)

/-- The value of the field with the given number. -/
def readValue (field : Nat) (t : Text) : Except Fault (Value × Text) :=
  if field = 2 then (readHeadings t).map fun (h, rest) => (.headings h, rest)
  else if field < 8 then (Json.readCount t).map fun (n, rest) => (.count n, rest)
  else (Json.readBinary64 t).map fun (x, rest) => (.ratio x, rest)

/-- The statistics as a record of counts, heading counts and ratios. -/
def statisticsRecord : Json.Record Value :=
  { names := statisticsFieldNames, readField := readValue }

/-- The statistics that come next. -/
def readStatistics (t : Text) : Except Fault (Statistics × Text) := do
  match ← statisticsRecord.read t with
  | ([.count words, .count paragraphs, .headings headings, .count links, .count images,
      .count listItems, .count quotes, .count codeFences, .ratio plain, .ratio formatting],
      rest) =>
    return ({ words := words, headings := headings, links := links, images := images,
              listItems := listItems, quotes := quotes, codeFences := codeFences,
              paragraphs := paragraphs, plainRatio := plain, formattingRatio := formatting },
            rest)
  | _ => throw .mismatched

/-- The value of a field of the document. -/
def readPart (field : Nat) (t : Text) : Except Fault ((Statistics ⊕ Text) × Text) :=
  if field = 0 then (readStatistics t).map fun (s, rest) => (.inl s, rest)
  else (Json.readText t).map fun (text, rest) => (.inr text, rest)

/-- The document as a record of statistics and a text. -/
def documentRecord : Json.Record (Statistics ⊕ Text) :=
  { names := fieldNames, readField := readPart }

/-- The document that a text holds. Only blanks may follow it. -/
def read (t : Text) : Except Fault ReportDocument := do
  match ← documentRecord.read t with
  | ([.inl statistics, .inr timestamp], rest) =>
    if (Json.skipBlank rest).isEmpty then return ⟨statistics, timestamp⟩
    else throw .malformed
  | _ => throw .mismatched

end ReportDocument
end Tagdown
