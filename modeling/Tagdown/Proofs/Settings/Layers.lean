/-
  Tagdown.Proofs.Settings.Layers

  What a tree of settings holds for each key that the program uses.

  An entry of a file and an override are changes of the tree that answer for the keys
  they give and leave all others (`takes_addEntry`, `takes_assign`). By `Takes.trans` a
  run of such changes answers with the last answer: for a file by `takes_addEntries`,
  for all files by `exists_addLayers`, for all overrides by `takes_assigns`.
-/

import Tagdown.Proofs.Latest
import Tagdown.Proofs.Settings.Merge
import Tagdown.Proofs.Toml.Keys

namespace Tagdown
namespace Settings

open Setting (Entries)

/-! ## Keys -/

/-- The keys of the settings. -/
inductive Key where
  | directory
  | maxLines
  | format
  | extra
  deriving DecidableEq, Repr

namespace Key

/-- All keys. -/
def all : List Key :=
  [directory, maxLines, format, extra]

/-- The table in which a key stands. -/
def table : Key → Text
  | directory => "output".toList
  | maxLines => "preview".toList
  | format => "report".toList
  | extra => "tags".toList

/-- The name of a key in its table. -/
def name : Key → Text
  | directory => "directory".toList
  | maxLines => "max_lines".toList
  | format => "format".toList
  | extra => "extra".toList

/-- The value where nothing else is given. -/
def builtIn : Key → Setting
  | directory => .text ['.']
  | maxLines => .int 20
  | format => .text "console".toList
  | extra => .list []

/-- The value can be converted to what the key wants. -/
def Accepts : Key → Setting → Prop
  | directory, value => value.toText.isOk
  | maxLines, value => value.toCount.isOk
  | format, value => value.toText.isOk
  | extra, value => value.toTags.isOk

instance : (k : Key) → (value : Setting) → Decidable (k.Accepts value)
  | directory, _ => inferInstanceAs (Decidable (_ = true))
  | maxLines, _ => inferInstanceAs (Decidable (_ = true))
  | format, _ => inferInstanceAs (Decidable (_ = true))
  | extra, _ => inferInstanceAs (Decidable (_ = true))

/-- The value of a key in a tree. -/
def valueIn? (k : Key) (root : Entries) : Option Setting :=
  (root.get? k.table).bind (·.entries.get? k.name)

/-- The key with its table, as overrides have it. -/
def written (k : Key) : Text :=
  k.table ++ '.' :: k.name

variable {k : Key} {value : Setting}

theorem mem_all (k : Key) : k ∈ all := by
  cases k <;> decide

theorem table_injective : Function.Injective table := by
  intro k l h
  cases k <;> cases l <;> first | rfl | cases h

theorem lowercase_table (k : Key) : Text.lowercase k.table = k.table := by
  cases k <;> decide

theorem lowercase_name (k : Key) : Text.lowercase k.name = k.name := by
  cases k <;> decide

theorem ofText?_table (k : Key) : KeyPath.ofText? k.table = some ⟨k.table, []⟩ := by
  cases k <;> decide

theorem ofText?_written (k : Key) :
    KeyPath.ofText? k.written = some ⟨k.table, [.child k.name]⟩ := by
  cases k <;> decide

theorem valueIn?_builtIn (k : Key) : k.valueIn? Settings.builtIn = some k.builtIn := by
  cases k <;> rfl

theorem accepts_builtIn (k : Key) : k.Accepts k.builtIn := by
  cases k <;> rfl

/-- No key wants a table. -/
theorem Accepts.not_isTable (h : k.Accepts value) : ¬ value.IsTable := by
  rintro ⟨entries, rfl⟩
  cases k <;> cases h

end Key

/-! ## Files -/

/-- The setting is a table with keys in lower case, and has a value that the key accepts
    if it has one for it. -/
def Key.IsTableFor (k : Key) : Setting → Prop
  | .table entries => (∀ entry ∈ entries, Text.lowercase entry.1 = entry.1) ∧
      ∀ value ∈ Entries.get? k.name entries, k.Accepts value
  | _ => False

instance (k : Key) : (s : Setting) → Decidable (k.IsTableFor s)
  | .table _ => inferInstanceAs (Decidable (_ ∧ _))
  | .unset | .bool _ | .int _ | .float _ | .text _ | .list _ => inferInstanceAs (Decidable False)

/-- An entry at the top of a file: its key is in lower case, and the tables of the
    settings are tables for their keys. -/
def IsWellFormed (entry : Text × Setting) : Prop :=
  Text.lowercase entry.1 = entry.1 ∧ ∀ k ∈ Key.all, entry.1 = k.table → k.IsTableFor entry.2

instance (entry : Text × Setting) : Decidable (IsWellFormed entry) :=
  inferInstanceAs (Decidable (_ ∧ _))

/-- A key at the top of a file is a path of several steps into a table of the settings. -/
def IsPathInto (key : Text) : Prop :=
  ∃ path ∈ KeyPath.ofText? key, path.steps ≠ [] ∧
    ∃ k ∈ Key.all, Text.lowercase path.head = k.table

instance (key : Text) : Decidable (IsPathInto key) :=
  inferInstanceAs (Decidable (∃ path ∈ KeyPath.ofText? key, _))

namespace Layer

/-- The entries of a file; a file that is not there has none. -/
def entries : Layer → Entries
  | .file text => (Toml.parse? text).getD []
  | .absent _ => []

/-- An optional file that is not there, or a document of well-formed entries. -/
def IsWellFormed : Layer → Prop
  | .file text => ∃ entries ∈ Toml.parse? text, ∀ entry ∈ entries, Settings.IsWellFormed entry
  | .absent optional => optional = true

instance : (layer : Layer) → Decidable layer.IsWellFormed
  | .file text => inferInstanceAs (Decidable (∃ entries ∈ Toml.parse? text, _))
  | .absent _ => inferInstanceAs (Decidable (_ = true))

end Layer

/-- The value that a file gives a key. -/
def Key.givenBy? (k : Key) (layer : Layer) : Option Setting :=
  k.valueIn? layer.entries

/-- All keys stand in tables. -/
def HasTables (root : Entries) : Prop :=
  ∀ k : Key, ∃ entries, root.get? k.table = some (.table entries)

/-- A tree in which all keys stand in tables, and which has what is given, and else what
    the tree before had. -/
structure Takes (given : Key → Option Setting) (root out : Entries) : Prop where
  tables : HasTables out
  valueIn? (k : Key) : k.valueIn? out = (given k).or (k.valueIn? root)

section Takes

variable {given later both : Key → Option Setting} {root mid out : Entries}

theorem Takes.refl (h : HasTables root) : Takes (fun _ => none) root root :=
  ⟨h, fun _ => rfl⟩

/-- What is given later hides what is given before. -/
theorem Takes.trans (h : Takes given root mid) (hlater : Takes later mid out)
    (hboth : ∀ k, both k = (later k).or (given k)) : Takes both root out :=
  ⟨hlater.tables, fun k => by rw [hlater.valueIn?, h.valueIn?, hboth, Option.or_assoc]⟩

end Takes

variable {root : Entries} {entry : Text × Setting} {k : Key}

/-- An entry under the name of a table is one. -/
theorem IsWellFormed.exists_table {value : Setting} (h : IsWellFormed (k.table, value)) :
    ∃ entries, value = .table entries ∧ (∀ e ∈ entries, Text.lowercase e.1 = e.1) ∧
      ∀ v ∈ Entries.get? k.name entries, k.Accepts v := by
  have htable := h.2 k k.mem_all rfl
  cases value with
  | table entries => exact ⟨entries, rfl, htable⟩
  | _ => exact htable.elim

/-- An entry under the name of a table is merged into it. -/
theorem addEntry_table (k : Key) (value : Setting) (root : Entries) :
    addEntry root (k.table, value) = Setting.put root k.table value := by
  rw [addEntry, k.ofText?_table]
  rfl

/-- Any other entry leaves the table as it is. -/
theorem get?_addEntry_of_ne (hlower : Text.lowercase entry.1 = entry.1)
    (hpath : ¬ IsPathInto entry.1) (hne : entry.1 ≠ k.table) :
    (addEntry root entry).get? k.table = root.get? k.table := by
  obtain ⟨key, value⟩ := entry
  have hkey : k.table ≠ Text.lowercase key := fun heq => hne (hlower.symm.trans heq.symm)
  rw [addEntry]
  cases hread : KeyPath.ofText? key with
  | none => exact Setting.get?_put_of_ne hkey
  | some path =>
    refine KeyPath.get?_set_of_ne fun heq => ?_
    obtain ⟨head, steps⟩ := path
    -- A path of one step is the key itself; a longer one would lead into the table.
    cases steps with
    | nil =>
      obtain rfl := KeyPath.eq_of_ofText? hread
      exact hkey heq
    | cons step steps =>
      exact hpath ⟨_, hread, List.cons_ne_nil _ _, k, k.mem_all, heq.symm⟩

/-- One entry of a file. -/
theorem takes_addEntry (hdistinct : entry.2.DistinctKeys) (hwell : IsWellFormed entry)
    (hpath : ¬ IsPathInto entry.1) (hroot : HasTables root) :
    Takes (fun k => k.valueIn? [entry]) root (addEntry root entry) := by
  suffices h : ∀ k : Key, (∃ entries, (addEntry root entry).get? k.table = some (.table entries)) ∧
      k.valueIn? (addEntry root entry) = (k.valueIn? [entry]).or (k.valueIn? root) from
    ⟨fun k => (h k).1, fun k => (h k).2⟩
  intro k
  obtain ⟨key, value⟩ := entry
  by_cases hkey : key = k.table
  · -- The table is merged into the one that is there, which keeps its other keys.
    subst hkey
    obtain ⟨incoming, rfl, hlower, haccepts⟩ := hwell.exists_table
    obtain ⟨old, hold⟩ := hroot k
    have hmerged : (addEntry root (k.table, .table incoming)).get? k.table =
        some (Setting.merge (.table old) incoming) := by
      rw [addEntry_table, Setting.put, k.lowercase_table, hold]
      exact (Entries.get?_set ..).trans (if_pos rfl)
    have hvalue : (Setting.merge (.table old) incoming).entries.get? k.name =
        (Entries.get? k.name incoming).or (Entries.get? k.name old) := by
      cases hdistinct with
      | table hnodup _ =>
        exact Setting.get?_merge hnodup hlower fun value hget => (haccepts value hget).not_isTable
    constructor
    · obtain ⟨out, hout⟩ := Setting.isTable_merge old incoming
      exact ⟨out, by rw [hmerged, hout]⟩
    · simp only [Key.valueIn?, hmerged, hold, Option.bind_some, hvalue, Entries.get?, if_pos]
      rfl
  · have hsame : (addEntry root (key, value)).get? k.table = root.get? k.table :=
      get?_addEntry_of_ne hwell.1 hpath hkey
    have hnone : k.valueIn? [(key, value)] = none := by
      simp only [Key.valueIn?, Entries.get?, if_neg hkey, Option.bind_none]
    rw [hnone, Key.valueIn?, hsame]
    exact ⟨hroot k, rfl⟩

/-- All entries of a file. -/
theorem takes_addEntries {entries : Entries} (hdistinct : (Setting.table entries).DistinctKeys)
    (hwell : ∀ entry ∈ entries, IsWellFormed entry)
    (hpath : ∀ entry ∈ entries, ¬ IsPathInto entry.1) (hroot : HasTables root) :
    Takes (fun k => k.valueIn? entries) root (entries.foldl addEntry root) := by
  induction entries generalizing root with
  | nil => exact .refl hroot
  | cons entry entries ih =>
    cases hdistinct with
    | table hnodup hinner =>
      rw [List.map_cons, List.nodup_cons] at hnodup
      rw [List.forall_mem_cons] at hwell hpath hinner
      have hfirst := takes_addEntry hinner.1 hwell.1 hpath.1 hroot
      have hrest := ih (.table hnodup.2 hinner.2) hwell.2 hpath.2 hfirst.tables
      refine hfirst.trans hrest fun k => ?_
      -- The key of the first entry does not come again.
      by_cases hkey : entry.1 = k.table
      · have hnone := Entries.get?_eq_none_iff.mpr (hkey ▸ hnodup.1)
        simp [Key.valueIn?, Entries.get?, hkey, hnone]
      · simp [Key.valueIn?, Entries.get?, hkey]

/-- One file; one that may be missing changes nothing. -/
theorem exists_addLayer {layer : Layer} (hwell : layer.IsWellFormed)
    (hpath : ∀ entry ∈ layer.entries, ¬ IsPathInto entry.1) (hroot : HasTables root) :
    ∃ out, addLayer root layer = .ok out ∧ Takes (fun k => k.givenBy? layer) root out := by
  cases layer with
  | absent optional =>
    obtain rfl : optional = true := hwell
    exact ⟨root, rfl, .refl hroot⟩
  | file text =>
    obtain ⟨entries, hparse, hentries⟩ := hwell
    have hsame : (Layer.file text).entries = entries := by
      rw [Layer.entries, hparse, Option.getD_some]
    refine ⟨_, by rw [addLayer, hparse], ?_⟩
    rw [hsame] at hpath
    simp only [Key.givenBy?, hsame]
    exact takes_addEntries (Toml.distinctKeys_of_parse? hparse) hentries hpath hroot

/-- All files: a key is answered by the last file that gives it. -/
theorem exists_addLayers {layers : List Layer} (hwell : ∀ layer ∈ layers, layer.IsWellFormed)
    (hpath : ∀ layer ∈ layers, ∀ entry ∈ layer.entries, ¬ IsPathInto entry.1)
    (hroot : HasTables root) :
    ∃ out, layers.foldlM addLayer root = .ok out ∧
      Takes (fun k => lastAnswer? k.givenBy? layers) root out := by
  induction layers generalizing root with
  | nil => exact ⟨root, rfl, .refl hroot⟩
  | cons layer layers ih =>
    rw [List.forall_mem_cons] at hwell hpath
    obtain ⟨next, hnext, hfirst⟩ := exists_addLayer hwell.1 hpath.1 hroot
    obtain ⟨out, hout, hrest⟩ := ih hwell.2 hpath.2 hfirst.tables
    refine ⟨out, ?_, hfirst.trans hrest fun k => lastAnswer?_cons layer layers⟩
    rw [List.foldlM_cons, hnext]
    exact hout

/-! ## Overrides -/

/-- The value that an override gives a key. -/
def Key.overriddenBy? (k : Key) (o : Key × Setting) : Option Setting :=
  if o.1 = k then some o.2 else none

/-- One override. -/
theorem takes_assign {o : Key × Setting} (haccepts : o.1.Accepts o.2) (hroot : HasTables root) :
    Takes (fun k => k.overriddenBy? o) root
      (KeyPath.set ⟨o.1.table, [.child o.1.name]⟩ o.2 root) := by
  obtain ⟨l, value⟩ := o
  have hput : ∀ entries, Setting.put entries l.name value = entries.set l.name value := by
    intro entries
    rw [Setting.put_of_not_isTable haccepts.not_isTable, l.lowercase_name]
  have hget : ∀ k : Key, (KeyPath.set ⟨l.table, [.child l.name]⟩ value root).get? k.table =
      if k = l then
        some (.table (((root.get? l.table).getD .unset).entries.set l.name value))
      else root.get? k.table := by
    intro k
    rw [KeyPath.set_pair, l.lowercase_table, hput, Entries.get?_set]
    simp only [Key.table_injective.eq_iff]
  refine ⟨fun k => ?_, fun k => ?_⟩
  · rw [hget]
    split
    · exact ⟨_, rfl⟩
    · exact hroot k
  · rw [Key.valueIn?, hget, Key.overriddenBy?]
    by_cases hkl : l = k
    · subst hkl
      rw [if_pos rfl, if_pos rfl]
      exact (Entries.get?_set ..).trans (if_pos rfl)
    · rw [if_neg (Ne.symm hkl), if_neg hkl, Option.none_or]
      rfl

/-- All overrides: a key is answered by its last override. -/
theorem takes_assigns {overrides : List (Key × Setting)}
    (haccepts : ∀ o ∈ overrides, o.1.Accepts o.2) (hroot : HasTables root) :
    Takes (fun k => lastAnswer? k.overriddenBy? overrides) root
      ((overrides.map fun o => (KeyPath.mk o.1.table [.child o.1.name], o.2)).foldl
        (fun root (path, value) => path.set value root) root) := by
  induction overrides generalizing root with
  | nil => exact .refl hroot
  | cons o overrides ih =>
    rw [List.forall_mem_cons] at haccepts
    have hfirst := takes_assign haccepts.1 hroot
    have hrest := ih haccepts.2 hfirst.tables
    exact hfirst.trans hrest fun k => lastAnswer?_cons o overrides

theorem mapM_readOverride (overrides : List (Key × Setting)) :
    (overrides.map fun o => (o.1.written, o.2)).mapM readOverride =
      .ok (overrides.map fun o => (KeyPath.mk o.1.table [.child o.1.name], o.2)) := by
  induction overrides with
  | nil => rfl
  | cons o overrides ih =>
    rw [List.map_cons, List.mapM_cons, ih, readOverride, o.1.ofText?_written]
    rfl

end Settings
end Tagdown
