/-
  Tagdown.Display.Preview

  The preview of a file: where it is and how large, then its first lines.
-/

import Tagdown.Display.Markdown
import Tagdown.Numeric.Layout

namespace Tagdown
namespace Display

open Style (paint)

/-- The rule between the parts of a page. -/
def rule : Text :=
  List.replicate 50 '-'

/-- The style of a line of a preview. -/
def previewStyle? : LineKind → Option Style
  | .heading _ => some (.boldColoured .cyan)
  | .listItem => some (.coloured .green)
  | .quote => some (.coloured .yellow)
  | .plain => none

/-- A size in kilobytes with two decimals. -/
def kilobytes (bytes : Nat) : Text :=
  ((Binary64.ofNat bytes).div (.ofNat 1024)).toFixed 2 ++ " KB".toList

/-- The six lines above the text. -/
def previewHead (on : Bool) (path : Text) (bytes : Nat) : List Text :=
  [paint on (.boldColoured .yellow) "File Information:".toList,
   "   Path: ".toList ++ paint on (.coloured .green) path,
   "   Size: ".toList ++ paint on (.coloured .green) (kilobytes bytes),
   [],
   paint on (.boldColoured .yellow) "Content Preview:".toList,
   rule]

/-- The lines below the text: how many more there are, if there are any. -/
def previewFoot (on : Bool) (remaining : Nat) : List Text :=
  if remaining = 0 then []
  else
    [[], paint on .dim ("... and ".toList ++ Text.ofNat remaining ++ " more lines".toList)]

/-- The preview of the file at `path`. -/
def preview (on : Bool) (path : Text) (bytes : Nat) (p : Preview) : Text :=
  Text.joinLines <|
    previewHead on path bytes ++
    p.lines.map (fun line => paintSome on (previewStyle? line.kind) line.text) ++
    previewFoot on p.remaining

end Display
end Tagdown
