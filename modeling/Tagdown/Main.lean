/-
  Tagdown.Main

  The program on a real machine: carries out the effects of a script.
-/

import Std.Time.DateTime.Timestamp
import Tagdown.Command.Run
import Tagdown.World.Log
import Tagdown.World.Machine

namespace Tagdown
namespace Perform

/-- The fault behind an error of the machine. -/
def faultOf : IO.Error → FileFault
  | .noFileOrDirectory .. => .notFound
  | .inappropriateType _ 20 _ => .notDirectory
  | .inappropriateType _ 21 _ => .isDirectory
  | .invalidArgument _ 36 _ => .nameTooLong
  | e => .other (toString e).toList

/-- What an action gives, its errors as faults. -/
def attempt {α : Type} (act : IO α) : IO (Except FileFault α) := do
  try
    return .ok (← act)
  catch e =>
    return .error (faultOf e)

/-- The time on the clock of the machine. -/
def now : IO Instant := do
  let stamp ← Std.Time.Timestamp.now
  let nanos := stamp.toNanosecondsSinceUnixEpoch.val
  return ⟨nanos / 1000000000, (nanos % 1000000000).toNat⟩

/-- The bytes that a stream still has, behind those that were read. -/
partial def readAll (stream : IO.FS.Stream) (bytes : ByteArray) : IO ByteArray := do
  let more ← stream.read 65536
  if more.isEmpty then return bytes else readAll stream (bytes ++ more)

/-- What the machine knows of the file at a path. -/
def metadata (path : Text) : IO IO.FS.Metadata := do
  let place ← IO.FS.realPath (String.ofList path)
  place.metadata

/-- The environment asks for styles: by force, or on a terminal unless it asks
    for none. -/
def isStyled : IO Bool := do
  let isSet (name : String) : IO (Option Bool) := do
    return (← IO.getEnv name).map (· != "0")
  if (← isSet "CLICOLOR_FORCE") == some true then return true
  else if (← isSet "NO_COLOR").isSome then return false
  else return (← isSet "CLICOLOR").getD true && (← (← IO.getStdout).isTty)

/-- Carries out a script and gives its exit code. -/
def script (traced : StepSource → Text → Bool) : Script Unit → IO UInt32
  | .done () => return 0
  | .exit code => return code.toUInt32
  | .out t next => do
    (← IO.getStdout).putStr (String.ofList t)
    script traced next
  | .err t next => do
    (← IO.getStderr).putStr (String.ofList t)
    script traced next
  | .trace source t next => do
    if traced source t then (← IO.getStderr).putStr (String.ofList (Machine.traceLine t))
    script traced next
  | .readFile path next => do
    let bytes ← attempt (IO.FS.readBinFile (String.ofList path))
    script traced (next (bytes >>= decodeText))
  | .readInput next => do
    let bytes ← attempt (do readAll (← IO.getStdin) .empty)
    script traced (next (bytes >>= decodeText))
  | .isFile path next => do
    match ← attempt (metadata path) with
    | .ok m => script traced (next (m.type == .file))
    | .error _ => script traced (next false)
  | .fileSize path next => do
    let found ← attempt (metadata path)
    script traced (next (found.map fun m => m.byteSize.toNat))
  | .writeFile path content next => do
    let written ← attempt (IO.FS.writeBinFile (String.ofList path) (encodeText content))
    script traced (next written)
  | .now next => do script traced (next (← now))
  | .isTerminal next => do script traced (next (← (← IO.getStdout).isTty))
  | .isStyled next => do script traced (next (← isStyled))

end Perform
end Tagdown

/-- The program. A refused command line is answered with the reason alone. -/
def main (words : List String) : IO UInt32 := do
  let log := (← IO.getEnv "RUST_LOG").getD ""
  let (filter, faults) := Tagdown.LogFilter.ofText log.toList
  let texts : Tagdown.LibraryTexts :=
    { warnings := faults.map Tagdown.LogFault.message
      usage := fun _ refusal => (toString (repr refusal)).toList ++ ['\n'] }
  Tagdown.Perform.script (fun source step => filter.shows source.name step)
    (Tagdown.Program.run texts (words.map String.toList))
