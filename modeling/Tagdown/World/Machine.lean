/-
  Tagdown.World.Machine

  What a script does in a given world: the text it writes, the files it leaves
  and the code it exits with.
-/

import Tagdown.Text.ControlSequence
import Tagdown.World.Script

namespace Tagdown

/-- A world in which a script runs. The standard error is no terminal. -/
structure Machine where
  files : FileTree
  input : ByteArray
  clock : Instant
  /-- The standard output is a terminal. -/
  terminal : Bool
  /-- Texts are styled where the command line makes no choice. The environment
      decides, which may ask for styles without a terminal and none on one. -/
  styled : Bool
  /-- The step that a source reports is written to the standard error. -/
  traced : StepSource → Text → Bool

/-- What a run leaves behind. -/
structure Outcome where
  code : Nat
  out : Text
  err : Text
  files : FileTree

namespace Machine

/-- A reported step as it is written. The lines after the first are indented,
    and what only a terminal understands is left out, so that a sequence that
    does not end takes the end of the line with it. -/
def traceLine (t : Text) : Text :=
  let indented := t.flatMap fun c => if c = '\n' then "\n    ".toList else [c]
  ControlSequence.clean ("[DEBUG] ".toList ++ indented ++ ['\n'])

/-- The run of a script, after `out` and `err` were written. -/
def runFrom (m : Machine) (out err : Text) : Script Unit → Outcome
  | .done () => ⟨0, out, err, m.files⟩
  | .exit code => ⟨code, out, err, m.files⟩
  | .out t next => m.runFrom (out ++ t) err next
  | .err t next => m.runFrom out (err ++ t) next
  | .trace source t next =>
    m.runFrom out (if m.traced source t then err ++ traceLine t else err) next
  | .readFile path next => m.runFrom out err (next (m.files.read path >>= decodeText))
  | .readInput next => m.runFrom out err (next (decodeText m.input))
  | .isFile path next => m.runFrom out err (next (m.files.isFile path))
  | .fileSize path next => m.runFrom out err (next ((m.files.read path).map ByteArray.size))
  | .writeFile path content next =>
    match m.files.write path (encodeText content) with
    | .ok files => runFrom { m with files := files } out err (next (.ok ()))
    | .error fault => m.runFrom out err (next (.error fault))
  | .now next => m.runFrom out err (next m.clock)
  | .isTerminal next => m.runFrom out err (next m.terminal)
  | .isStyled next => m.runFrom out err (next m.styled)

/-- The run of a script. -/
def run (m : Machine) (s : Script Unit) : Outcome :=
  m.runFrom [] [] s

end Machine
end Tagdown
