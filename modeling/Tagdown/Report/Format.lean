/-
  Tagdown.Report.Format

  Report formats: a name, a description, the file extensions that ask for the
  format, and how statistics are rendered.
-/

import Tagdown.Report.Console
import Tagdown.Report.Document

namespace Tagdown

/-- Why a report could not be made. -/
inductive ReportFault where
  | formatNotFound (name : Text)
  | serialization (reason : Text)
  deriving DecidableEq, Repr

namespace ReportFault

/-- The fault in words. -/
def message : ReportFault → Text
  | formatNotFound name => "Report format '".toList ++ name ++ "' not found".toList
  | serialization reason => "Serialization error: ".toList ++ reason

end ReportFault

/-- A report format. Extensions are written without the dot. -/
structure ReportFormat where
  name : Text
  description : Text
  extensions : List Text
  render : Statistics → Instant → Except ReportFault Text

namespace ReportFormat

/-- The report for readers. It does not show the time. -/
def console : ReportFormat :=
  { name := "console".toList
    description := "Human readable report".toList
    extensions := ["txt".toList]
    render := fun s _ => .ok (ConsoleReport.render s) }

/-- The report for programs, with the time at which it was made. -/
def json : ReportFormat :=
  { name := "json".toList
    description := "JSON report with timestamp".toList
    extensions := ["json".toList]
    render := fun s now => .ok (ReportDocument.write ⟨s, now.timestamp⟩) }

end ReportFormat
end Tagdown
