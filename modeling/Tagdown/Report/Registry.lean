/-
  Tagdown.Report.Registry

  Report formats by name, kept in ascending order of their names. Registering a
  name again replaces its format.
-/

import Tagdown.Path
import Tagdown.Report.Format

namespace Tagdown

/-- A registry of report formats, in ascending order of their names. -/
structure Registry where
  formats : List ReportFormat

namespace Registry

/-- A registry without formats. -/
def empty : Registry :=
  ⟨[]⟩

/-- The formats with one more, in the place of its name. -/
def insert (format : ReportFormat) : List ReportFormat → List ReportFormat
  | [] => [format]
  | other :: rest =>
    if format.name = other.name then format :: rest
    else if format.name < other.name then format :: other :: rest
    else other :: insert format rest

/-- The registry with the format registered under its name. -/
def register (r : Registry) (format : ReportFormat) : Registry :=
  ⟨insert format r.formats⟩

/-- The registry of the built-in formats. -/
def standard : Registry :=
  (empty.register .console).register .json

/-- The names of the formats, in ascending order. -/
def names (r : Registry) : List Text :=
  r.formats.map (·.name)

/-- The name is registered. -/
def has (r : Registry) (name : Text) : Bool :=
  r.formats.any (·.name == name)

/-- The format of a name. -/
def get (r : Registry) (name : Text) : Except ReportFault ReportFormat :=
  match r.formats.find? (·.name == name) with
  | some format => .ok format
  | none => .error (.formatNotFound name)

/-- The name of the format that the extension of a file name asks for. -/
def detect? (r : Registry) (fileName : Text) : Option Text :=
  match Path.extension? fileName with
  | none => none
  | some extension =>
    (r.formats.find? fun format => format.extensions.contains extension).map (·.name)

/-- The report of the statistics in the named format. -/
def render (r : Registry) (name : Text) (s : Statistics) (now : Instant) :
    Except ReportFault Text := do
  let format ← r.get name
  format.render s now

end Registry

/-- The file next to a markdown file in which its statistics are saved. -/
def statisticsPath (path : Text) : Text :=
  Path.withFileName path (Path.stem path ++ "-stats.json".toList)

end Tagdown
