/-
  Tagdown.Command.Run

  What the program does for a command line, as a script of effects.

  Diagnostics and notices go to the standard error. A command that fails exits
  with the code 1 and a refused command line with the code 2.
-/

import Tagdown.Command.Arguments
import Tagdown.Display.Guide
import Tagdown.Report.Registry
import Tagdown.Settings.Load
import Tagdown.World.Script

namespace Tagdown

/-- The texts that are not the program's own, but those of what reads its command
    line and of what writes its reported steps. -/
structure LibraryTexts where
  /-- What is wrong with the filter of the reported steps. -/
  warnings : List Text
  /-- The answer to words that are refused. -/
  usage : List Text → Refusal → Text

/-- What has colours in a run. -/
structure Colouring where
  /-- Texts that have styles are written with them. -/
  styled : Bool
  /-- Converted markdown is highlighted on the standard output. -/
  highlighted : Bool
  deriving DecidableEq, Repr

namespace Program

open Script (printLine complain report fail forEach)

/-! ## Colours -/

/-- What has colours under a choice. Where none is made, markdown is highlighted
    on a terminal, and the environment decides on styles. -/
def colouring : ColourChoice → Script Colouring
  | .always => return ⟨true, true⟩
  | .never => return ⟨false, false⟩
  | .auto => do return ⟨← .isStyled .done, ← .isTerminal .done⟩

/-! ## Files -/

/-- The text of a file that has to be readable. -/
def readSource (path : Text) : Script Text := do
  report .program ("reading ".toList ++ path)
  match ← .readFile path .done with
  | .ok t => return t
  | .error fault =>
    fail ("Error reading file '".toList ++ path ++ "': ".toList ++ fault.message)

/-- The text of the standard input, which has to be readable. -/
def readInput : Script Text := do
  report .program "reading stdin".toList
  match ← .readInput .done with
  | .ok t => return t
  | .error fault => fail ("Error reading stdin: ".toList ++ fault.message)

/-- Writes a file that has to be writable. -/
def writeTarget (path content : Text) : Script Unit := do
  report .program ("writing ".toList ++ path)
  match ← .writeFile path content .done with
  | .ok () => return ()
  | .error fault =>
    fail ("Error writing file '".toList ++ path ++ "': ".toList ++ fault.message)

/-- The statistics of a text. -/
def analyze (t : Text) : Script Statistics := do
  let s := Statistics.ofText t
  report .statistics (s.trace t)
  return s

/-! ## Settings -/

/-- The file of settings that is read where it exists. -/
def localSettings : Text :=
  "mdwriter.toml".toList

/-- The file that a path of settings means: the path itself, or the path with
    the extension of settings added to its name. -/
def findSettings (path : Text) : Script (Option Text) := do
  if ← .isFile path .done then return some path
  else
    match Path.fileName? path with
    | none => return none
    | some name =>
      let longer := Path.withFileName path (name ++ ".toml".toList)
      if ← .isFile longer .done then return some longer else return none

/-- The layer of a file of settings. -/
def readLayer (path : Text) (optional : Bool) : Script Settings.Layer := do
  match ← findSettings path with
  | none => return .absent optional
  | some path =>
    match ← .readFile path .done with
    | .ok t => return .file t
    | .error _ => return .absent optional

/-- The settings of the program: the built-in values, the local file if there is
    one, and the file that the command line names. -/
def loadSettings (config : Option Text) : Script Settings := do
  let first ← readLayer localSettings true
  let more ←
    match config with
    | none => pure []
    | some path => do pure [← readLayer path false]
  match Settings.load (first :: more) [] with
  | .ok settings => return settings
  | .error fault => fail ("Failed to load configuration: ".toList ++ fault.message)

/-! ## Commands -/

/-- The operand that stands for the standard input. -/
def inputMark : Text :=
  ['-']

/-- The name and the text of what is to be converted. -/
def convertSource (input : Option Text) : Script (Text × Text) := do
  match input with
  | none => return ("<stdin>".toList, ← readInput)
  | some path =>
    if path = inputMark then return ("<stdin>".toList, ← readInput)
    else return (path, ← readSource path)

/-- Where converted markdown is saved, if not on the standard output. -/
def convertTarget (settings : Settings) (output : Option Text) (save : Bool)
    (t : Conversion) : Option Text :=
  match output with
  | some path => some path
  | none => if save then some (Path.join settings.directory t.fileName) else none

/-- Converts tag lines to markdown. -/
def convert (c : Colouring) (settings : Settings) (table : TagTable)
    (input output : Option Text) (save : Bool) : Script Unit := do
  let (name, source) ← convertSource input
  let t := Conversion.ofText table source
  forEach (report .conversion) t.trace
  forEach (fun d => complain (Display.diagnostic c.styled d)) t.diagnostics
  if t.blocks.isEmpty then
    fail ("Error: No valid content to process in '".toList ++ name ++ "'".toList)
  else
    match convertTarget settings output save t with
    | some path => do
      writeTarget path t.markdown
      complain ("File saved: ".toList ++ path)
    | none =>
      printLine (if c.highlighted then Display.markdown c.styled t.markdown else t.markdown)

/-- The report format to use: the one that is named, else the one that the name
    of the output asks for, else the one of the settings. -/
def reportFormat (settings : Settings) (format output : Option Text) : Text :=
  match format with
  | some format => format
  | none => (output.bind Registry.standard.detect?).getD settings.format

/-- The report in a format that has to exist, made now. -/
def makeReport (format : Text) (s : Statistics) : Script Text := do
  let now ← .now .done
  match Registry.standard.render format s now with
  | .ok t => return t
  | .error fault => fail ("Error: ".toList ++ fault.message)

/-- Reports the statistics of a markdown file. -/
def stats (colour : Bool) (input format : Text) (output : Option Text) (save : Bool) :
    Script Unit := do
  let s ← analyze (← readSource input)
  let text ← makeReport format s
  match output with
  | some path => do
    writeTarget path text
    complain ("Report saved: ".toList ++ path)
  | none =>
    printLine (if format = "console".toList then Display.report colour text else text)
  if save then
    -- A report that is JSON already is saved as it was shown.
    let json ← if format = "json".toList then pure text else makeReport "json".toList s
    let path := statisticsPath input
    writeTarget path json
    complain ("JSON report saved: ".toList ++ path)

/-- Shows the head of a markdown file. -/
def preview (colour : Bool) (input : Text) (lines : Nat) : Script Unit := do
  let source ← readSource input
  match ← .fileSize input .done with
  | .ok size => printLine (Display.preview colour input size (Preview.ofText source lines))
  | .error fault =>
    fail ("Error reading file '".toList ++ input ++ "': ".toList ++ fault.message)

/-- Lists the report formats. -/
def listFormats : Script Unit := do
  printLine "Report formats:".toList
  forEach
    (fun f => printLine ("  ".toList ++ Text.padEnd 10 f.name ++ ' ' :: f.description))
    Registry.standard.formats

/-- Carries out a command. -/
def runCommand (c : Colouring) (settings : Settings) (table : TagTable) :
    Command → Script Unit
  | .convert input output save => convert c settings table input output save
  | .stats input format output save =>
    stats c.styled input (reportFormat settings format output) output save
  | .preview input lines => preview c.styled input (lines.getD settings.maxLines)
  | .guide => printLine (Display.guide c.styled table)

/-- Does what a command line asks for. -/
def runInvocation (i : Invocation) : Script Unit := do
  let c ← colouring i.colour
  if i.listFormats then listFormats
  else
    let settings ← loadSettings i.config
    match settings.tagTable with
    | .error fault => fail ("Error: ".toList ++ fault.message)
    | .ok table =>
      match i.command with
      | some command => runCommand c settings table command
      | none => fail "Unknown subcommand. Use --help for usage information.".toList

/-- The name and the version of the program. -/
def versionLine : Text :=
  "mdwriter 0.1.0".toList

/-- Answers a refused command line, with the text that is given for the refusal
    unless it asks for the version. What was asked for goes to the standard
    output. -/
def refuse (r : Refusal) (t : Text) : Script Unit :=
  match r with
  | .version => printLine versionLine
  | .help => .out t (.done ())
  | _ => .err t (.exit 2)

/-- The program for the words of a command line. What is wrong with the filter
    of its reported steps comes first. -/
def run (texts : LibraryTexts) (words : List Text) : Script Unit := do
  forEach complain texts.warnings
  match Invocation.read words with
  | .ok invocation => runInvocation invocation
  | .error refusal => refuse refusal (texts.usage (Invocation.completed words) refusal)

end Program
end Tagdown
