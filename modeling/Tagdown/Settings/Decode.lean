/-
  Tagdown.Settings.Decode

  The settings that the program uses, decoded from a tree of settings.

  Scalars are converted where a text or a count is wanted. A record is written
  as a table or as the list of its values in order.
-/

import Tagdown.Numeric.Layout
import Tagdown.Settings.KeyPath
import Tagdown.Tag.Table

namespace Tagdown

/-- Why settings cannot be loaded. -/
inductive SettingsFault where
  /-- A file that has to be there cannot be read. -/
  | unreadable
  /-- The text of a file is not well formed. -/
  | malformedFile
  /-- The key of an override is not well formed. -/
  | malformedKey
  /-- A value cannot be converted to the wanted text or count. -/
  | inconvertible
  /-- A field is missing, or a record or list has another shape. -/
  | wrongShape
  deriving DecidableEq, Repr

namespace SettingsFault

/-- The fault in words. -/
def message : SettingsFault → Text
  | unreadable => "configuration file not found".toList
  | malformedFile => "configuration file is not well formed".toList
  | malformedKey => "configuration key is not well formed".toList
  | inconvertible => "configuration value has the wrong type".toList
  | wrongShape => "configuration section has the wrong shape".toList

end SettingsFault

/-- The settings of the program. -/
structure Settings where
  /-- The directory into which generated markdown is saved. -/
  directory : Text
  /-- The number of lines of a preview. -/
  maxLines : Nat
  /-- The format of reports. -/
  format : Text
  /-- The tags that are declared after the built-in ones. -/
  extra : List Tag
  deriving DecidableEq, Repr

namespace Setting

/-- The setting as a text. -/
def toText : Setting → Except SettingsFault Text
  | text t => .ok t
  | bool b => .ok (if b then "true".toList else "false".toList)
  | int i => .ok (Text.ofInt i)
  | float x => .ok (NumberLayout.plain.write x)
  | _ => .error .inconvertible

/-- The count that a text describes: a switch word in any case, or digits. -/
def countOfText? (t : Text) : Option Nat :=
  let word := Text.lowercase t
  if word ∈ ["true".toList, "on".toList, "yes".toList] then some 1
  else if word ∈ ["false".toList, "off".toList, "no".toList] then some 0
  else Text.toNatBelow? wordLimit t

/-- The setting as a count. -/
def toCount : Setting → Except SettingsFault Nat
  | int i => if 0 ≤ i then .ok i.toNat else .error .inconvertible
  | bool b => .ok b.toNat
  | float x => .ok (x.toNatUpTo (wordLimit - 1))
  | text t =>
    match countOfText? t with
    | some n => .ok n
    | none => .error .inconvertible
  | _ => .error .inconvertible

/-- The fields of a record with the given names, as far as they are there. -/
def fields (names : List Text) : Setting → Except SettingsFault (List (Option Setting))
  | table entries => .ok (names.map fun name => Entries.get? name entries)
  | list items => .ok ((List.range names.length).map fun i => items[i]?)
  | _ => .error .wrongShape

/-- The only field of a record. -/
def onlyField (name : String) (s : Setting) : Except SettingsFault Setting := do
  match ← s.fields [name.toList] with
  | [some value] => return value
  | _ => throw .wrongShape

/-- The setting as a declared tag. What is there is converted before it is
    noticed that something is missing. -/
def toTag (s : Setting) : Except SettingsFault Tag := do
  let found ← s.fields ["prefix".toList, "markdown".toList]
  match ← found.mapM (·.mapM toText) with
  | [some name, some marker] => return ⟨name, marker⟩
  | _ => throw .wrongShape

/-- The setting as the list of declared tags. -/
def toTags : Setting → Except SettingsFault (List Tag)
  | list items => items.mapM toTag
  | _ => .error .wrongShape

/-- The declared tags of the section of tags, none if it does not list any. -/
def extraTags (s : Setting) : Except SettingsFault (List Tag) := do
  match ← s.fields ["extra".toList] with
  | [some tags] => tags.toTags
  | _ => return []

end Setting

namespace Settings

/-- A section that has to be there. -/
def sectionOf (name : String) (root : Setting.Entries) : Except SettingsFault Setting :=
  match root.get? name.toList with
  | some value => .ok value
  | none => .error .wrongShape

/-- The settings in a tree. -/
def ofEntries (root : Setting.Entries) : Except SettingsFault Settings := do
  let directory ← (← (← sectionOf "output" root).onlyField "directory").toText
  let maxLines ← (← (← sectionOf "preview" root).onlyField "max_lines").toCount
  let format ← (← (← sectionOf "report" root).onlyField "format").toText
  let extra ←
    match root.get? "tags".toList with
    | some tags => tags.extraTags
    | none => .ok []
  return ⟨directory, maxLines, format, extra⟩

/-- The table of the built-in tags and the extra ones. -/
def tagTable (s : Settings) : Except TagFault TagTable :=
  TagTable.build (Declarations.standard.declareAll s.extra)

end Settings
end Tagdown
