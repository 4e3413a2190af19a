/-
  Tagdown.Command.Usage

  The commands of the program, the options that each of them takes, and the
  reasons for which a command line is not carried out.
-/

import Tagdown.Numeric.Power
import Tagdown.Text.Basic

namespace Tagdown

/-- When to use colours. -/
inductive ColourChoice where
  | auto
  | always
  | never
  deriving DecidableEq, Repr

namespace ColourChoice

/-- The choice that a word names. -/
def ofText? (t : Text) : Option ColourChoice :=
  if t = "auto".toList then some auto
  else if t = "always".toList then some always
  else if t = "never".toList then some never
  else none

end ColourChoice

/-- Why a command line is not carried out. -/
inductive Refusal where
  /-- Help was asked for. -/
  | help
  /-- The version was asked for. -/
  | version
  /-- Nothing was asked for. -/
  | nothing
  /-- A word stands where only the name of a command can stand. -/
  | unknownCommand (word : Text)
  /-- An option or an operand that the command does not take. -/
  | unknownArgument (word : Text)
  /-- A value that is missing or none of those allowed. -/
  | badValue
  /-- A value that is no number. -/
  | badNumber
  /-- An option given twice, or two options that exclude each other. -/
  | conflict
  /-- An operand that has to be there is missing. -/
  | missingOperand
  /-- A value for an option that takes none. -/
  | needlessValue
  deriving DecidableEq, Repr

/-- The options of the program. -/
inductive CliOption where
  | listFormats
  | config
  | color
  | output
  | save
  | format
  | lines
  | help
  | version
  deriving DecidableEq, Repr

namespace CliOption

/-- The option takes a value. -/
def takesValue : CliOption → Bool
  | config | color | output | format | lines => true
  | listFormats | save | help | version => false

/-- The fault of a value that the option does not allow. -/
def valueFault? (o : CliOption) (value : Text) : Option Refusal :=
  match o with
  | color => if (ColourChoice.ofText? value).isNone then some .badValue else none
  | lines => if (Text.toNatBelow? wordLimit value).isNone then some .badNumber else none
  | _ => none

end CliOption

/-- A part of a command line: what stands before the command, or the command. -/
inductive Level where
  | top
  | convert
  | stats
  | preview
  | guide
  deriving DecidableEq, Repr

namespace Level

/-- The command that a word names. -/
def ofName? (word : Text) : Option Level :=
  if word = "convert".toList then some convert
  else if word = "stats".toList then some stats
  else if word = "preview".toList then some preview
  else if word = "guide".toList then some guide
  else none

/-- The word that asks for help on commands. -/
def helpName : Text :=
  "help".toList

/-- The word names a command, or asks for help. -/
def isCommandName (word : Text) : Bool :=
  (ofName? word).isSome || word == helpName

/-- The options of a level, by their long names. -/
def longOptions (level : Level) : List (String × CliOption) :=
  let everywhere : List (String × CliOption) :=
    [("list-formats", .listFormats), ("config", .config), ("color", .color), ("help", .help)]
  let own : List (String × CliOption) :=
    match level with
    | top => [("version", .version)]
    | convert => [("output", .output), ("save", .save)]
    | stats => [("format", .format), ("output", .output), ("save", .save)]
    | preview => [("lines", .lines)]
    | guide => []
  everywhere ++ own

/-- The options of a level, by their letters. -/
def shortOptions (level : Level) : List (Char × CliOption) :=
  match level with
  | top => [('h', .help), ('V', .version)]
  | convert => [('h', .help), ('o', .output)]
  | stats => [('h', .help), ('f', .format), ('o', .output)]
  | preview => [('h', .help), ('n', .lines)]
  | guide => [('h', .help)]

/-- The option with a long name. -/
def long? (level : Level) (name : Text) : Option CliOption :=
  (level.longOptions.find? fun (long, _) => long.toList == name).map (·.2)

/-- The option with a letter. -/
def short? (level : Level) (letter : Char) : Option CliOption :=
  (level.shortOptions.find? fun (short, _) => short == letter).map (·.2)

/-- The command takes the path of its input as an operand. -/
def takesInput : Level → Bool
  | convert | stats | preview => true
  | top | guide => false

/-- The command cannot do without the path of its input. -/
def needsInput : Level → Bool
  | stats | preview => true
  | top | convert | guide => false

end Level
end Tagdown
