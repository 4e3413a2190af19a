/-
  Tagdown.Settings.Load

  Loading of settings: the built-in values, then files in order, then single
  overrides. What comes later wins, key by key.
-/

import Tagdown.Settings.Decode
import Tagdown.Toml.Document

namespace Tagdown
namespace Settings

/-- The built-in values. -/
def builtIn : Setting.Entries :=
  [("output".toList, .table [("directory".toList, .text ['.'])]),
   ("preview".toList, .table [("max_lines".toList, .int 20)]),
   ("report".toList, .table [("format".toList, .text "console".toList)]),
   ("tags".toList, .table [("extra".toList, .list [])])]

/-- A file of settings as it was found. -/
inductive Layer where
  /-- The file was read. -/
  | file (text : Text)
  /-- The file could not be read; it is passed over if it is optional. -/
  | absent (optional : Bool)
  deriving DecidableEq, Repr

/-- The tree with a value of a file. A key at the top of a file may be a path;
    one that is no path is taken as it is. -/
def addEntry (root : Setting.Entries) (entry : Text × Setting) : Setting.Entries :=
  let (key, value) := entry
  match KeyPath.ofText? key with
  | some path => path.set value root
  | none => Setting.put root key value

/-- The tree with all values of a file. -/
def addLayer (root : Setting.Entries) : Layer → Except SettingsFault Setting.Entries
  | .absent optional => if optional then .ok root else .error .unreadable
  | .file text =>
    match Toml.parse? text with
    | some entries => .ok (entries.foldl addEntry root)
    | none => .error .malformedFile

/-- An override with its key read. -/
def readOverride (o : Text × Setting) : Except SettingsFault (KeyPath × Setting) :=
  match KeyPath.ofText? o.1 with
  | some path => .ok (path, o.2)
  | none => .error .malformedKey

/-- The settings of the layers and the overrides. The keys of the overrides are
    read before any file. -/
def load (layers : List Layer) (overrides : List (Text × Setting)) :
    Except SettingsFault Settings := do
  let overrides ← overrides.mapM readOverride
  let root ← layers.foldlM addLayer builtIn
  ofEntries (overrides.foldl (fun root (path, value) => path.set value root) root)

end Settings
end Tagdown
