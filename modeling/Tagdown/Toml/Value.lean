/-
  Tagdown.Toml.Value

  The values of TOML documents and the settings that they stand for.

  A setting keeps a date or time as its text. A table may stand for one too: if
  its first key is `momentKey`, it is the moment that the text of this key
  describes, and its other keys do not count.
-/

import Tagdown.Settings.Setting
import Tagdown.Toml.Moment

namespace Tagdown
namespace Toml

/-- A value of a document. -/
inductive Value where
  | bool (b : Bool)
  | int (i : Int)
  | float (x : Binary64)
  | text (t : Text)
  /-- A date, a time or both, in its one spelling. -/
  | moment (t : Text)
  | list (items : List Value)
  | table (entries : List (Text × Value))

namespace Value

/-- The key that turns a table into a moment. -/
def momentKey : Text :=
  "$__toml_private_datetime".toList

/-- The setting of a table for a moment with the value of its first key. Only a
    text describes a moment. -/
def momentSetting? : Value → Option Setting
  | text t => (momentOfText? t).map .text
  | _ => none

mutual

/-- The setting that a value stands for; there is none if a table for a moment
    does not describe one. -/
def toSetting? : Value → Option Setting
  | bool b => some (.bool b)
  | int i => some (.int i)
  | float x => some (.float x)
  | text t => some (.text t)
  | moment t => some (.text t)
  | list items => (itemSettings? items).map .list
  | table [] => some (.table [])
  | table ((key, first) :: rest) =>
    if key = momentKey then momentSetting? first
    else do
      let value ← toSetting? first
      let others ← entrySettings? rest
      return .table ((key, value) :: others)

/-- The settings that the items of a list stand for. -/
def itemSettings? : List Value → Option (List Setting)
  | [] => some []
  | item :: rest => do
    let value ← toSetting? item
    let others ← itemSettings? rest
    return value :: others

/-- The settings that the entries of a table stand for. -/
def entrySettings? : List (Text × Value) → Option (List (Text × Setting))
  | [] => some []
  | (key, value) :: rest => do
    let value ← toSetting? value
    let others ← entrySettings? rest
    return (key, value) :: others

end

end Value
end Toml
end Tagdown
