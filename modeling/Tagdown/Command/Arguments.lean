/-
  Tagdown.Command.Arguments

  Reading of a command line.

  Words are read from left to right. An option takes its value from behind an
  equals sign or, for a letter, from the rest of the word; otherwise the next
  word is its value unless that is an option itself. Such a value is judged
  only when the next option or operand comes, or at the end of its level.

  The words after the name of a command belong to the command; what is wrong
  with them comes before what is wrong in front of the name.

  A command line whose first word is neither an option nor the name of a
  command converts the file of that name: `convert` is put in front of it.
-/

import Tagdown.Command.Usage

namespace Tagdown

/-- What the program is to do. -/
inductive Command where
  | convert (input output : Option Text) (save : Bool)
  | stats (input : Text) (format output : Option Text) (save : Bool)
  | preview (input : Text) (lines : Option Nat)
  | guide
  deriving DecidableEq, Repr

/-- A command line that can be carried out. -/
structure Invocation where
  listFormats : Bool
  config : Option Text
  colour : ColourChoice
  command : Option Command
  deriving DecidableEq, Repr

/-- A word of a command line. -/
inductive Word where
  /-- Two dashes: all that follows are operands. -/
  | escape
  | long (name : Text) (value : Option Text)
  | short (letter : Char) (rest : Text)
  | operand (t : Text)
  deriving DecidableEq, Repr

namespace Word

/-- The kind of a word. A lone dash is an operand. -/
def ofText : Text → Word
  | ['-', '-'] => escape
  | '-' :: '-' :: rest =>
    let value :=
      match rest.dropWhile (· != '=') with
      | _ :: value => some value
      | [] => none
    long (rest.takeWhile (· != '=')) value
  | '-' :: letter :: rest => short letter rest
  | t => operand t

/-- The value that stands in one word with a letter. -/
def attached : Text → Option Text
  | [] => none
  | '=' :: value => some value
  | value => some value

end Word

/-- The words of a level as far as they are read. -/
structure Reading where
  /-- The options with their values; those without a value have an empty one. -/
  given : List (CliOption × Text)
  input : Option Text
  /-- An option in front, with its value once that is read. -/
  pending : Option (CliOption × Option Text)
  /-- All that follows are operands. -/
  escaped : Bool

namespace Reading

/-- Nothing is read. -/
def start : Reading :=
  ⟨[], none, none, false⟩

/-- The option was given. -/
def has (r : Reading) (o : CliOption) : Bool :=
  r.given.any (·.1 == o)

/-- The value of an option. -/
def value? (r : Reading) (o : CliOption) : Option Text :=
  (r.given.find? (·.1 == o)).map (·.2)

/-- Adds an option with its value. -/
def add (r : Reading) (o : CliOption) (value : Text) : Except Refusal Reading :=
  if r.has o then .error .conflict
  else
    match o.valueFault? value with
    | some refusal => .error refusal
    | none => .ok { r with given := r.given ++ [(o, value)] }

/-- Judges the option in front, if there is one. -/
def settle (r : Reading) : Except Refusal Reading :=
  match r.pending with
  | none => .ok r
  | some (_, none) => .error .badValue
  | some (o, some value) => { r with pending := none }.add o value

/-- Reads an option with the value that stands in the same word. -/
def addOption (r : Reading) (o : CliOption) (value : Option Text) : Except Refusal Reading :=
  if o.takesValue then do
    -- The option in front comes first, also where both are wrong.
    let r ← r.settle
    match value with
    | some value => r.add o value
    | none => return { r with pending := some (o, none) }
  else if value.isSome then .error .needlessValue
  else do
    let r ← r.settle
    match o with
    | .help => throw .help
    | .version => throw .version
    | _ => r.add o []

/-- Reads an operand. -/
def addOperand (r : Reading) (level : Level) (t : Text) : Except Refusal Reading :=
  if level.takesInput ∧ r.input = none then do
    let r ← r.settle
    return { r with input := some t }
  -- Behind two dashes the name of a command is an operand that nothing takes.
  else if level = .top ∧ !(r.escaped ∧ Level.isCommandName t) then .error (.unknownCommand t)
  else .error (.unknownArgument t)

/-- Reads a word that does not name a command. -/
def addWord (r : Reading) (level : Level) (t : Text) : Except Refusal Reading :=
  if r.escaped then r.addOperand level t
  else
    match Word.ofText t, r.pending with
    | .escape, _ => .ok { r with escaped := true }
    | .long name value, _ =>
      match level.long? name with
      | some o => r.addOption o value
      | none => .error (.unknownArgument t)
    | .short letter rest, _ =>
      match level.short? letter with
      | some o => r.addOption o (if o.takesValue then Word.attached rest else none)
      | none => .error (.unknownArgument t)
    | .operand t, some (o, none) => .ok { r with pending := some (o, some t) }
    | .operand t, _ => r.addOperand level t

/-- The word after this can be the name of a command. -/
def expectsCommand (r : Reading) : Bool :=
  !r.escaped &&
    (match r.pending with
     | some (_, none) => false
     | _ => true)

/-- Judges a level whose words are all read. -/
def finish (r : Reading) (level : Level) (hasCommand : Bool) : Except Refusal Reading := do
  let r ← r.settle
  if level = .top ∧ !hasCommand ∧ r.given.isEmpty then throw .nothing
  else if level = .convert ∧ r.has .output ∧ r.has .save then throw .conflict
  else if level.needsInput ∧ r.input.isNone then throw .missingOperand
  else return r

/-- The words of a command. -/
def ofWords (level : Level) : Reading → List Text → Except Refusal Reading
  | r, [] => r.finish level false
  | r, t :: rest => do ofWords level (← r.addWord level t) rest

/-- The refusal of a request for help on commands. -/
def helpOn : List Text → Refusal
  | [] => .help
  | [word] => if Level.isCommandName word then .help else .unknownCommand word
  | word :: next :: _ => .unknownCommand (if Level.isCommandName word then next else word)

/-- All words: those in front, and the command with its words if there is one. -/
def ofLine : Reading → List Text → Except Refusal (Reading × Option (Level × Reading))
  | r, [] => do return (← r.finish .top false, none)
  | r, t :: rest =>
    if r.expectsCommand ∧ t = Level.helpName then .error (helpOn rest)
    else
      match (if r.expectsCommand then Level.ofName? t else none) with
      | some level => do
        let command ← ofWords level start rest
        return (← r.finish .top true, some (level, command))
      | none => do ofLine (← r.addWord .top t) rest

/-- The command of a level that was read. -/
def toCommand (r : Reading) : Level → Option Command
  | .top => none
  | .convert => some (.convert r.input (r.value? .output) (r.has .save))
  | .stats =>
    some (.stats (r.input.getD []) (r.value? .format) (r.value? .output) (r.has .save))
  | .preview =>
    some (.preview (r.input.getD []) ((r.value? .lines).bind (Text.toNatBelow? wordLimit)))
  | .guide => some .guide

end Reading

namespace Invocation

/-- What the two levels of a command line ask for. An option of all commands
    may stand at either; the one behind the command wins. -/
def ofReadings (front : Reading) (command : Option (Level × Reading)) : Invocation :=
  let back := (command.map (·.2)).getD .start
  let value? (o : CliOption) := (back.value? o).or (front.value? o)
  { listFormats := front.has .listFormats || back.has .listFormats
    config := value? .config
    colour := ((value? .color).bind ColourChoice.ofText?).getD .auto
    command := command.bind fun (level, r) => r.toCommand level }

/-- What the words of a command line ask for, just as they are. -/
def ofWords (words : List Text) : Except Refusal Invocation := do
  let (front, command) ← Reading.ofLine .start words
  return ofReadings front command

/-- The words that are no name of a file to convert where they come first. -/
def commandNames : List Text :=
  ["convert".toList, "stats".toList, "preview".toList, "guide".toList, "help".toList]

/-- The first word is neither an option nor the name of a command. -/
def impliesConvert : List Text → Bool
  | [] => false
  | word :: _ => word.head? != some '-' && !commandNames.contains word

/-- The words that are read in the end. If they are refused as they are, but
    imply the command `convert`, it is put in front of them. -/
def completed (words : List Text) : List Text :=
  match ofWords words with
  | .ok _ => words
  | .error _ => if impliesConvert words then "convert".toList :: words else words

/-- What a command line asks for. -/
def read (words : List Text) : Except Refusal Invocation :=
  ofWords (completed words)

end Invocation
end Tagdown
