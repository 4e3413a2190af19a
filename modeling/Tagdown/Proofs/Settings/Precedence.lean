/-
  Tagdown.Proofs.Settings.Precedence

  Where a setting comes from: the last override, else the last file that gives it,
  else the built-in value (`exists_load`).
-/

import Tagdown.Proofs.Command.Parts
import Tagdown.Proofs.Settings.Layers
import Tagdown.Proofs.Tag.Declared

namespace Tagdown
namespace Settings

open Setting (Entries)

variable {root : Entries}

/-! ## Loading -/

/-- The settings are converted from these values of the keys. -/
structure AreFrom (s : Settings) (value : Key → Setting) : Prop where
  directory : (value .directory).toText = .ok s.directory
  maxLines : (value .maxLines).toCount = .ok s.maxLines
  format : (value .format).toText = .ok s.format
  extra : (value .extra).toTags = .ok s.extra

/-- Settings are known by the values of their keys. -/
theorem AreFrom.eq {s s' : Settings} {value : Key → Setting} (h : s.AreFrom value)
    (h' : s'.AreFrom value) : s = s' := by
  obtain ⟨directory, maxLines, format, extra⟩ := s
  obtain ⟨directory', maxLines', format', extra'⟩ := s'
  have hdirectory := h.directory.symm.trans h'.directory
  have hmaxLines := h.maxLines.symm.trans h'.maxLines
  have hformat := h.format.symm.trans h'.format
  have hextra := h.extra.symm.trans h'.extra
  cases hdirectory
  cases hmaxLines
  cases hformat
  cases hextra
  rfl

/-- The table of a key is found, and the key in it. -/
theorem exists_sectionOf {k : Key} {value : Setting} (htables : HasTables root)
    (hvalue : k.valueIn? root = some value) {tableName name : String}
    (htable : k.table = tableName.toList) (hname : k.name = name.toList) :
    ∃ entries, root.get? tableName.toList = some (.table entries) ∧
      sectionOf tableName root = .ok (.table entries) ∧
      Setting.onlyField name (.table entries) = .ok value ∧
      Setting.fields [name.toList] (.table entries) = .ok [some value] := by
  obtain ⟨entries, hentries⟩ := htables k
  have hget : Entries.get? k.name entries = some value := by
    rw [Key.valueIn?, hentries] at hvalue
    exact hvalue
  rw [htable] at hentries
  rw [hname] at hget
  have hfields : Setting.fields [name.toList] (.table entries) = .ok [some value] := by
    rw [Setting.fields, List.map_singleton, hget]
  refine ⟨entries, hentries, ?_, ?_, hfields⟩
  · rw [sectionOf, hentries]
  · rw [Setting.onlyField, hfields]
    rfl

theorem exists_ok_of_isOk {α ε : Type} {result : Except ε α} (h : result.isOk = true) :
    ∃ a, result = .ok a := by
  cases result with
  | ok a => exact ⟨a, rfl⟩
  | error e => cases h

/-- A tree with a value for every key has settings. -/
theorem exists_ofEntries {value : Key → Setting} (htables : HasTables root)
    (hvalues : ∀ k : Key, k.valueIn? root = some (value k))
    (haccepts : ∀ k : Key, k.Accepts (value k)) :
    ∃ s : Settings, ofEntries root = .ok s ∧ s.AreFrom value := by
  obtain ⟨output, -, houtput, hdirectory, -⟩ :=
    exists_sectionOf htables (hvalues .directory) rfl rfl
  obtain ⟨preview, -, hpreview, hmaxLines, -⟩ :=
    exists_sectionOf htables (hvalues .maxLines) rfl rfl
  obtain ⟨report, -, hreport, hformat, -⟩ :=
    exists_sectionOf htables (hvalues .format) rfl rfl
  obtain ⟨tags, htags, -, -, hextra⟩ := exists_sectionOf htables (hvalues .extra) rfl rfl
  obtain ⟨directory, htoDirectory⟩ := exists_ok_of_isOk (haccepts .directory)
  obtain ⟨maxLines, htoMaxLines⟩ := exists_ok_of_isOk (haccepts .maxLines)
  obtain ⟨format, htoFormat⟩ := exists_ok_of_isOk (haccepts .format)
  obtain ⟨extra, htoExtra⟩ := exists_ok_of_isOk (haccepts .extra)
  refine ⟨⟨directory, maxLines, format, extra⟩, ?_,
    ⟨htoDirectory, htoMaxLines, htoFormat, htoExtra⟩⟩
  have hextraTags : Setting.extraTags (.table tags) = .ok extra := by
    rw [Setting.extraTags, hextra]
    exact htoExtra
  rw [ofEntries, houtput, hpreview, hreport, htags]
  dsimp only [bind, Except.bind]
  rw [hdirectory, hmaxLines, hformat]
  dsimp only
  rw [htoDirectory, htoMaxLines, htoFormat, hextraTags]
  rfl

/-- The value of a key: that of its last override, else that of the last file that gives
    it, else the built-in one. -/
def Key.chosen (k : Key) (layers : List Layer) (overrides : List (Key × Setting)) : Setting :=
  (lastAnswer? k.overriddenBy? overrides).getD ((lastAnswer? k.givenBy? layers).getD k.builtIn)

/-- A well-formed file gives a key what it accepts. -/
theorem Layer.IsWellFormed.accepts_givenBy? {layer : Layer} (h : layer.IsWellFormed) {k : Key}
    {value : Setting} (hvalue : k.givenBy? layer = some value) : k.Accepts value := by
  cases layer with
  | absent optional => cases hvalue
  | file text =>
    obtain ⟨entries, hparse, hentries⟩ := h
    rw [Key.givenBy?, Layer.entries, hparse, Option.getD_some] at hvalue
    obtain ⟨table, htable, hvalue⟩ := Option.bind_eq_some_iff.mp hvalue
    obtain ⟨inner, rfl, -, hin⟩ := (hentries _ (Entries.mem_of_get? htable)).exists_table
    exact hin value hvalue

theorem Key.accepts_chosen {layers : List Layer} {overrides : List (Key × Setting)}
    (hwell : ∀ layer ∈ layers, layer.IsWellFormed)
    (haccepts : ∀ o ∈ overrides, o.1.Accepts o.2) (k : Key) :
    k.Accepts (k.chosen layers overrides) := by
  rw [Key.chosen]
  cases hoverride : lastAnswer? k.overriddenBy? overrides with
  | some value =>
    obtain ⟨⟨l, other⟩, ho, hvalue⟩ := exists_of_lastAnswer? hoverride
    rw [Key.overriddenBy?] at hvalue
    split at hvalue
    · rename_i hl
      cases hvalue
      exact hl ▸ haccepts _ ho
    · cases hvalue
  | none =>
    cases hlayer : lastAnswer? k.givenBy? layers with
    | none => exact k.accepts_builtIn
    | some value =>
      obtain ⟨layer, hmem, hvalue⟩ := exists_of_lastAnswer? hlayer
      exact (hwell layer hmem).accepts_givenBy? hvalue

/-- Files and overrides load, each key from what was given last. -/
theorem exists_load {layers : List Layer} {overrides : List (Key × Setting)}
    (hwell : ∀ layer ∈ layers, layer.IsWellFormed)
    (hpath : ∀ layer ∈ layers, ∀ entry ∈ layer.entries, ¬ IsPathInto entry.1)
    (haccepts : ∀ o ∈ overrides, o.1.Accepts o.2) :
    ∃ s, load layers (overrides.map fun o => (o.1.written, o.2)) = .ok s ∧
      s.AreFrom fun k => k.chosen layers overrides := by
  have hbuiltIn : HasTables builtIn := by
    intro k
    cases k <;> exact ⟨_, rfl⟩
  obtain ⟨root, hroot, hfiles⟩ := exists_addLayers hwell hpath hbuiltIn
  have hassigned := takes_assigns haccepts hfiles.tables
  -- Every key has a value at the end, since the built-in tree gives one to each.
  have hvalues : ∀ k : Key, (lastAnswer? k.overriddenBy? overrides).or (k.valueIn? root) =
      some (k.chosen layers overrides) := by
    intro k
    rw [hfiles.valueIn?, k.valueIn?_builtIn, Option.or_some, Option.or_some]
    rfl
  obtain ⟨s, hs, hfrom⟩ := exists_ofEntries hassigned.tables
    (fun k => (hassigned.valueIn? k).trans (hvalues k)) (Key.accepts_chosen hwell haccepts)
  refine ⟨s, ?_, hfrom⟩
  rw [load, mapM_readOverride]
  show (layers.foldlM addLayer builtIn >>= _) = _
  rw [hroot]
  exact hs

/-- The settings do not depend on the order of two files that give different keys. -/
theorem chosen_swap {before after : List Layer} {a b : Layer}
    (hdisjoint : ∀ k : Key, k.givenBy? a = none ∨ k.givenBy? b = none)
    (overrides : List (Key × Setting)) (k : Key) :
    k.chosen (before ++ b :: a :: after) overrides =
      k.chosen (before ++ a :: b :: after) overrides := by
  simp only [Key.chosen, lastAnswer?_append, lastAnswer?_cons, Option.or_assoc]
  rcases hdisjoint k with h | h <;> rw [h] <;> simp only [Option.none_or]

/-! ## Precedence -/

/-- **What is given last is taken**, key by key: overrides before files, later files before
    earlier ones, and files before the built-in values. The extra tags are those of one
    file, declared in their order behind the built-in ones. Neighbouring files that give
    different keys may be swapped. For a command the file that is named comes after the
    local one. -/
theorem settings_are_what_is_given_last {layers : List Layer} {overrides : List (Key × Setting)}
    (hwell : ∀ layer ∈ layers, layer.IsWellFormed)
    (hpath : ∀ layer ∈ layers, ∀ entry ∈ layer.entries, ¬ IsPathInto entry.1)
    (haccepts : ∀ o ∈ overrides, o.1.Accepts o.2) :
    (∃ s, load layers (overrides.map fun o => (o.1.written, o.2)) = .ok s ∧
      (s.AreFrom fun k => k.chosen layers overrides) ∧
      TagTable.BuiltOf (TagTable.standardTags ++ s.extra) s.tagTable ∧
      ∀ table, s.tagTable = .ok table → TagTable.standard.names <+: table.names) ∧
    (∀ before a b after, layers = before ++ a :: b :: after →
      (∀ k : Key, k.givenBy? a = none ∨ k.givenBy? b = none) →
      load (before ++ b :: a :: after) (overrides.map fun o => (o.1.written, o.2)) =
        load layers (overrides.map fun o => (o.1.written, o.2))) ∧
    ∀ (m : Machine) (config : Option Text),
      let own := m.files.layerAt Program.localSettings true
      let named := config.map (m.files.layerAt · false)
      layers = own :: named.toList →
        ∃ s, m.perform (Program.loadSettings config) = ⟨.ok s, [], [], m.files⟩ ∧
          s.AreFrom fun k => (named.bind k.givenBy?).getD ((k.givenBy? own).getD k.builtIn) := by
  refine ⟨?_, ?_, ?_⟩
  · obtain ⟨s, hs, hfrom⟩ := exists_load hwell hpath haccepts
    have hbuilt : TagTable.BuiltOf (TagTable.standardTags ++ s.extra) s.tagTable := by
      rw [tagTable, Declarations.declareAll_standard]
      exact TagTable.builtOf_declareAll _
    exact ⟨s, hs, hfrom, hbuilt, fun _ => TagTable.standard_names_isPrefix⟩
  · rintro before a b after rfl hdisjoint
    have hperm : ∀ layer, layer ∈ before ++ b :: a :: after ↔ layer ∈ before ++ a :: b :: after :=
      fun _ => ((List.Perm.swap a b after).append_left before).mem_iff
    -- Both orders give every key the same value, and the values determine the settings.
    obtain ⟨s, hs, hfrom⟩ := exists_load hwell hpath haccepts
    obtain ⟨s', hs', hfrom'⟩ := exists_load (fun layer h => hwell layer ((hperm layer).mp h))
      (fun layer h => hpath layer ((hperm layer).mp h)) haccepts
    simp only [chosen_swap hdisjoint] at hfrom'
    rw [hs, hs', hfrom.eq hfrom']
  · intro m config own named hlayers
    have hnone : ∀ o ∈ ([] : List (Key × Setting)), o.1.Accepts o.2 := by simp
    obtain ⟨s, hs, hfrom⟩ := exists_load hwell hpath hnone
    have hsettings : m.files.settings config = .ok s := by
      rw [hlayers] at hs
      exact hs
    refine ⟨s, Program.perform_loadSettings hsettings, ?_⟩
    have hchosen : ∀ k : Key, k.chosen layers [] =
        (named.bind k.givenBy?).getD ((k.givenBy? own).getD k.builtIn) := by
      intro k
      rw [Key.chosen, hlayers, lastAnswer?_cons]
      cases named with
      | none => rfl
      | some layer =>
        cases h : k.givenBy? layer <;> simp [lastAnswer?, h]
    simpa only [hchosen] using hfrom

/-- Two files that share a table but no key, in either order, and an override. -/
theorem settings_of_two_files :
    let first := Layer.file ("[output]\ndirectory = \"out\"\n\n" ++
      "[tags]\nextra = [[\"A\", \"#\"]]\n").toList
    let second := Layer.file ("[output]\nwrap = true\n\n" ++
      "[preview]\nmax_lines = \"5\"\n").toList
    let overrides := [(Key.format, Setting.text "json".toList)]
    (∀ layer ∈ [first, second], layer.IsWellFormed) ∧
      (∀ layer ∈ [first, second], ∀ entry ∈ layer.entries, ¬ IsPathInto entry.1) ∧
      (∀ o ∈ overrides, o.1.Accepts o.2) ∧
      (∀ k : Key, k.givenBy? first = none ∨ k.givenBy? second = none) ∧
      load [second, first] [("report.format".toList, .text "json".toList)] =
        .ok ⟨"out".toList, 5, "json".toList, [⟨['A'], ['#']⟩]⟩ := by
  intro first second overrides
  have hwell : ∀ layer ∈ [first, second], layer.IsWellFormed := by decide +kernel
  have hpath : ∀ layer ∈ [first, second], ∀ entry ∈ layer.entries, ¬ IsPathInto entry.1 := by
    decide +kernel
  have haccepts : ∀ o ∈ overrides, o.1.Accepts o.2 := by decide +kernel
  have hdisjoint : ∀ k : Key, k.givenBy? first = none ∨ k.givenBy? second = none := by
    intro k
    cases k <;> decide +kernel
  have hload : load [first, second] [("report.format".toList, .text "json".toList)] =
      .ok ⟨"out".toList, 5, "json".toList, [⟨['A'], ['#']⟩]⟩ := by decide +kernel
  refine ⟨hwell, hpath, haccepts, hdisjoint, ?_⟩
  obtain ⟨-, hswap, -⟩ := settings_are_what_is_given_last hwell hpath haccepts
  exact (hswap [] first second [] rfl hdisjoint).trans hload

/-- A quoted key of a file that is a path changes a part of what an earlier file gave. So
    the condition on the keys of files cannot be left out. -/
theorem path_key_changes_one_tag :
    let first := Layer.file ("[[tags.extra]]\nprefix = \"A\"\nmarkdown = \"#\"\n\n" ++
      "[[tags.extra]]\nprefix = \"B\"\nmarkdown = \"##\"\n").toList
    let second := Layer.file "\"tags.extra[1].prefix\" = \"Y\"\n".toList
    (∀ layer ∈ [first, second], layer.IsWellFormed) ∧
      (Key.extra.givenBy? second).isNone ∧
      (Key.extra.chosen [first, second] []).toTags = .ok [⟨['A'], ['#']⟩, ⟨['B'], ['#', '#']⟩] ∧
      load [first, second] [] =
        .ok ⟨['.'], 20, "console".toList, [⟨['A'], ['#']⟩, ⟨['Y'], ['#', '#']⟩]⟩ ∧
      ¬ ∃ s, load [first, second] [] = .ok s ∧ s.AreFrom fun k => k.chosen [first, second] [] := by
  intro first second
  have hwell : ∀ layer ∈ [first, second], layer.IsWellFormed := by decide +kernel
  have hgiven : (Key.extra.givenBy? second).isNone := by decide +kernel
  have hchosen : (Key.extra.chosen [first, second] []).toTags =
      .ok [⟨['A'], ['#']⟩, ⟨['B'], ['#', '#']⟩] := by decide +kernel
  have hload : load [first, second] [] =
      .ok ⟨['.'], 20, "console".toList, [⟨['A'], ['#']⟩, ⟨['Y'], ['#', '#']⟩]⟩ := by decide +kernel
  refine ⟨hwell, hgiven, hchosen, hload, ?_⟩
  rintro ⟨s, hs, hfrom⟩
  rw [hload] at hs
  cases hs
  exact absurd (hchosen.symm.trans hfrom.extra) (by decide)

end Settings
end Tagdown
