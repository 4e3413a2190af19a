/-
  Tagdown.Document.Conversion

  Conversion of a whole text, segment by segment. A segment that fails is
  diagnosed with its number and does not stop the rest.
-/

import Tagdown.Document.Block

namespace Tagdown

/-- A segment that failed, with its number, counted from one. -/
structure Diagnostic where
  lineNumber : Nat
  fault : LineFault
  deriving DecidableEq, Repr

/-- The recognized blocks of a text and its diagnostics, both in text order. -/
structure Conversion where
  blocks : List Block
  diagnostics : List Diagnostic
  deriving DecidableEq, Repr

namespace Conversion

/-- The conversion of segments that are numbered from `first` on. -/
def ofSegments (table : TagTable) (first : Nat) : List Text → Conversion
  | [] => ⟨[], []⟩
  | segment :: rest =>
    let later := ofSegments table (first + 1) rest
    match Block.recognize table segment with
    | .ok none => later
    | .ok (some block) => { later with blocks := block :: later.blocks }
    | .error fault =>
      { later with diagnostics := ⟨first, fault⟩ :: later.diagnostics }

/-- The conversion of a text. -/
def ofText (table : TagTable) (text : Text) : Conversion :=
  ofSegments table 1 (Text.segments text)

/-- The markdown of the blocks, one block a line. -/
def markdown (t : Conversion) : Text :=
  Text.joinLines (t.blocks.map (·.markdown))

/-- The file name for the markdown: the name of the first tag, or a fixed one
    when nothing was recognized. -/
def fileName (t : Conversion) : Text :=
  match t.blocks with
  | [] => "output.md".toList
  | first :: _ => first.name ++ ".md".toList

/-- What the conversion reports about itself: each segment that was skipped,
    then the totals. -/
def trace (t : Conversion) : List Text :=
  t.diagnostics.map (fun d =>
      "skipping line ".toList ++ Text.ofNat d.lineNumber ++ ": ".toList ++ d.fault.message) ++
    ["recognized ".toList ++ Text.ofNat t.blocks.length ++ " line(s), ".toList ++
      Text.ofNat t.diagnostics.length ++ " diagnostic(s)".toList]

end Conversion
end Tagdown
