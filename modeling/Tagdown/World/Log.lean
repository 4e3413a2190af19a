/-
  Tagdown.World.Log

  Which of the reported steps are written. A filter is a list of rules between
  commas: a level, the name of a source, or `source=level`. A source is judged
  by the rule with the longest name that its own name starts with. Behind a
  slash may stand a pattern that has to occur in the written steps.
-/

import Tagdown.Search.Pattern

namespace Tagdown

/-- How much a rule lets through, from nothing to everything. -/
inductive LogLevel where
  | off
  | error
  | warn
  | info
  | debug
  | trace
  deriving DecidableEq, Repr

namespace LogLevel

/-- The words for the levels. -/
def words : List (String × LogLevel) :=
  [("off", off), ("error", error), ("warn", warn), ("info", info), ("debug", debug),
   ("trace", trace)]

/-- The level that a word names, in upper or lower case. -/
def ofText? (t : Text) : Option LogLevel :=
  (words.find? fun (word, _) => word.toList == Text.lowercase t).map (·.2)

/-- Reported steps are let through. -/
def showsSteps : LogLevel → Bool
  | debug | trace => true
  | off | error | warn | info => false

end LogLevel

/-- What a source may write. -/
structure LogRule where
  /-- What the names of the sources start with; no name stands for all. -/
  name : Option Text
  level : LogLevel
  deriving DecidableEq, Repr

namespace LogRule

/-- The name, which is empty if there is none. -/
def start (r : LogRule) : Text :=
  r.name.getD []

/-- The rule is about the source of this name. -/
def covers (r : LogRule) (source : Text) : Bool :=
  r.start.isPrefixOf source

/-- The rules with one more, in the place of the rule of that name if there is
    one. -/
def put (rule : LogRule) : List LogRule → List LogRule
  | [] => [rule]
  | other :: rest =>
    if other.name = rule.name then rule :: rest else other :: put rule rest

end LogRule

/-- What is wrong with the text of a filter. -/
inductive LogFault where
  /-- A rule or a level that cannot be read. -/
  | invalid (part : Text)
  /-- The filter has more than one slash. -/
  | slashes (filter : Text)
  /-- The pattern behind the slash cannot be used. -/
  | pattern (written : Text) (fault : Search.Fault)
  deriving DecidableEq, Repr

namespace LogFault

/-- The warning about a fault. -/
def message : LogFault → Text
  | invalid part =>
    "warning: invalid logging spec '".toList ++ part ++ "', ignoring it".toList
  | slashes filter =>
    "warning: invalid logging spec '".toList ++ filter ++
      "' (too many '/'s), ignoring it".toList
  | pattern written fault =>
    "warning: invalid regex filter - ".toList ++ fault.message written ++
      ", ignoring it".toList

end LogFault

/-- A choice among the reported steps. -/
structure LogFilter where
  rules : List LogRule
  /-- What has to occur in a written step. -/
  content : Search.Expression

namespace LogFilter

/-- The filter that nothing passes. -/
def closed : LogFilter :=
  ⟨[], .empty⟩

/-! ## Reading -/

/-- The rule that a part of a filter stands for. -/
def readRule (part : Text) : Except LogFault LogRule :=
  match Text.splitOn '=' part with
  | [word] =>
    match LogLevel.ofText? word with
    | some level => .ok ⟨none, level⟩
    | none => .ok ⟨some word, .trace⟩
  | [name, word] =>
    let word := Text.trimBlank word
    if word.isEmpty then .ok ⟨some name, .trace⟩
    else
      match LogLevel.ofText? word with
      | some level => .ok ⟨some name, level⟩
      | none => .error (.invalid word)
  | _ => .error (.invalid part)

/-- Reads the parts of a filter. Those that cannot be read are left out. -/
def readRules : List LogRule → List Text → List LogRule × List LogFault
  | rules, [] => (rules, [])
  | rules, part :: rest =>
    match readRule part with
    | .ok rule => readRules (rule.put rules) rest
    | .error fault =>
      let (rules, faults) := readRules rules rest
      (rules, fault :: faults)

/-- The parts of a filter between its commas, empty ones left out. -/
def parts (t : Text) : List Text :=
  ((Text.splitOn ',' t).map Text.trimBlank).filter (!·.isEmpty)

/-- The filter that a text describes, and what is wrong with the text. -/
def ofText (t : Text) : LogFilter × List LogFault :=
  match Text.splitOn '/' t with
  | [rules] =>
    let (rules, faults) := readRules [] (parts rules)
    (⟨rules, .empty⟩, faults)
  | [rules, written] =>
    let (rules, faults) := readRules [] (parts rules)
    match Search.Expression.ofText written with
    | .ok content => (⟨rules, content⟩, faults)
    | .error fault => (⟨rules, .empty⟩, faults ++ [.pattern written fault])
  | _ => (closed, [.slashes t])

/-! ## Choosing -/

/-- The rule that decides about a source: of those that cover it, the one with
    the longest name, and of several the last. -/
def ruleFor? (f : LogFilter) (source : Text) : Option LogRule :=
  (f.rules.filter (·.covers source)).foldl
    (fun best rule =>
      match best with
      | none => some rule
      | some old => if rule.start.length < old.start.length then some old else some rule)
    none

/-- The step that the source reports is written. -/
def shows (f : LogFilter) (source step : Text) : Bool :=
  match f.ruleFor? source with
  | some rule => rule.level.showsSteps && f.content.occursIn step
  | none => false

end LogFilter
end Tagdown
