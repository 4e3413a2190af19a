/-
  Tagdown.Settings.Setting

  The tree of settings that configuration files and overrides describe, and the
  two ways to change it: putting a value under a key and merging a table.

  Keys are kept in lower case. A table that is put where a table stands is
  merged into it key by key; every other value takes the place of the old one.
-/

import Tagdown.Numeric.Binary64
import Tagdown.Text.Basic

namespace Tagdown

/-- A value of a configuration. -/
inductive Setting where
  /-- A place that was made but never filled. -/
  | unset
  | bool (b : Bool)
  | int (i : Int)
  | float (x : Binary64)
  | text (t : Text)
  | list (items : List Setting)
  | table (entries : List (Text × Setting))

namespace Setting

/-- The named values of a table. -/
abbrev Entries := List (Text × Setting)

namespace Entries

/-- The value of a key. -/
def get? (key : Text) : Entries → Option Setting
  | [] => none
  | (k, value) :: rest => if k = key then some value else get? key rest

/-- The entries with `value` for `key`, in the place of the old value if there
    is one. -/
def set (key : Text) (value : Setting) : Entries → Entries
  | [] => [(key, value)]
  | (k, old) :: rest =>
    if k = key then (key, value) :: rest else (k, old) :: set key value rest

theorem get?_set (key other : Text) (value : Setting) (entries : Entries) :
    get? other (set key value entries) =
      if other = key then some value else get? other entries := by
  induction entries with
  | nil =>
    by_cases h : other = key
    · simp [set, get?, h]
    · have : key ≠ other := fun e => h e.symm
      simp [set, get?, h, this]
  | cons entry rest ih =>
    obtain ⟨k, old⟩ := entry
    by_cases hk : k = key
    · subst hk
      by_cases h : other = k
      · simp [set, get?, h]
      · have : k ≠ other := fun e => h e.symm
        simp [set, get?, h, this]
    · by_cases ho : k = other
      · subst ho
        simp [set, get?, hk]
      · simp [set, get?, hk, ho, ih]

end Entries

/-- The named values of a setting; a setting that is no table has none. -/
def entries : Setting → Entries
  | table entries => entries
  | _ => []

/-- The items of a setting; a setting that is no list has none. -/
def items : Setting → List Setting
  | list items => items
  | _ => []

mutual

/-- The entries with `value` put under the key. -/
def put (target : Entries) (key : Text) : Setting → Entries
  | .table incoming =>
    let old := (target.get? (Text.lowercase key)).getD (.table [])
    target.set (Text.lowercase key) (merge old incoming)
  | .unset => target.set (Text.lowercase key) .unset
  | .bool b => target.set (Text.lowercase key) (.bool b)
  | .int i => target.set (Text.lowercase key) (.int i)
  | .float x => target.set (Text.lowercase key) (.float x)
  | .text t => target.set (Text.lowercase key) (.text t)
  | .list items => target.set (Text.lowercase key) (.list items)

/-- The setting with all of the entries put into it. It becomes a table if it
    was none; without entries it is left as it is. -/
def merge (target : Setting) : List (Text × Setting) → Setting
  | [] => target
  | (key, value) :: rest => merge (.table (put target.entries key value)) rest

end

end Setting
end Tagdown
