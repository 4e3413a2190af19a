/-
  Tagdown.Display.Markdown

  Markdown, diagnostics and reports as they are shown on a terminal. Each
  function takes whether colours are on.
-/

import Tagdown.Display.Style
import Tagdown.Document.Conversion
import Tagdown.Preview

namespace Tagdown
namespace Display

open Style (paint)

/-- The style of a line of generated markdown. -/
def markdownStyle? : LineKind → Option Style
  | .heading 1 => some (.boldColoured .red)
  | .heading 2 => some (.boldColoured .yellow)
  | .heading _ => some (.boldColoured .blue)
  | .listItem => some (.coloured .green)
  | .quote => some (.coloured .cyan)
  | .plain => none

/-- A text in a style, if it has one. -/
def paintSome (on : Bool) (style : Option Style) (t : Text) : Text :=
  match style with
  | some style => paint on style t
  | none => t

/-- A line of markdown in the style of its kind. -/
def markdownLine (on : Bool) (line : Text) : Text :=
  paintSome on (markdownStyle? (.classify line)) line

/-- Markdown, each line in the style of its kind. -/
def markdown (on : Bool) (t : Text) : Text :=
  Text.joinLines ((Text.lines t).map (markdownLine on))

/-- What would have been right in place of a fault. -/
def hint : LineFault → Text
  | .malformed _ => "   Expected format: Title1(Your Content) or AAA(Your Content)".toList
  | .unknownName _ known => "   Supported: ".toList ++ List.intercalate ", ".toList known

/-- A diagnostic in two lines: what went wrong, and a hint. -/
def diagnostic (on : Bool) (d : Diagnostic) : Text :=
  let headline :=
    "Line ".toList ++ Text.ofNat d.lineNumber ++ ": ".toList ++ d.fault.headline
  paint on (.coloured .red) headline ++ '\n' :: paint on .dim (hint d.fault)

/-- The line of a report heads a section. -/
def isSectionHead (line : Text) : Bool :=
  line.getLast? == some ':' && line.head? != some ' '

/-- A report, the heads of its sections in bold. -/
def report (on : Bool) (t : Text) : Text :=
  Text.joinLines <| (Text.lines t).map fun line =>
    if isSectionHead line then paint on .bold line else line

end Display
end Tagdown
