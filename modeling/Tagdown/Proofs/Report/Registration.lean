/-
  Tagdown.Proofs.Report.Registration

  The registry of report formats after a run of registrations. One registration
  changes what is found under its name and nothing else (`Registry.find?_insert`) and
  keeps the formats in the order of their names (`Registry.isAscending_insert`). Two
  registries in that order that find the same are the same (`Registry.eq_of_find?_eq`),
  so a run leaves the latest format of each name, and the order in which different
  names were registered cannot be seen (`Registry.registerAll_reflects_registrations`).
-/

import Mathlib.Data.Char
import Mathlib.Data.List.Lex
import Tagdown.Proofs.Latest
import Tagdown.Report.Registry

namespace Tagdown
namespace Registry

variable {format : ReportFormat} {formats as bs history order : List ReportFormat} {name : Text}
  {r : Registry}

/-- The formats stand in ascending order of their names, each name once. -/
def IsAscending (formats : List ReportFormat) : Prop :=
  formats.Pairwise (·.name < ·.name)

theorem IsAscending.nodup_names (h : IsAscending formats) :
    (formats.map ReportFormat.name).Nodup :=
  List.pairwise_map.mpr (h.imp ne_of_lt)

/-! ## One registration -/

/-- A format is found under its name, and under every other name what was found before. -/
theorem find?_insert (format : ReportFormat) (formats : List ReportFormat) (name : Text) :
    (insert format formats).find? (·.name == name) =
      if format.name = name then some format else formats.find? (·.name == name) := by
  induction formats with
  | nil => rw [insert, find?_key_cons]
  | cons other rest ih =>
    by_cases hsame : format.name = other.name
    · rw [insert, if_pos hsame, find?_key_cons, find?_key_cons, hsame]
      split <;> rfl
    · by_cases hless : format.name < other.name
      · rw [insert, if_neg hsame, if_pos hless, find?_key_cons]
      · rw [insert, if_neg hsame, if_neg hless, find?_key_cons, find?_key_cons, ih]
        by_cases hother : other.name = name
        · have h : format.name ≠ name := fun h => hsame (h.trans hother.symm)
          rw [if_pos hother, if_neg h, if_pos hother]
        · rw [if_neg hother, if_neg hother]

/-- What stands in a registry after a registration was registered or stood there before. -/
theorem eq_or_mem_of_mem_insert {other : ReportFormat} (h : other ∈ insert format formats) :
    other = format ∨ other ∈ formats := by
  induction formats with
  | nil => exact .inl (List.mem_singleton.mp h)
  | cons first rest ih =>
    by_cases hsame : format.name = first.name
    · rw [insert, if_pos hsame, List.mem_cons] at h
      exact h.imp id (List.mem_cons_of_mem _)
    · by_cases hless : format.name < first.name
      · rw [insert, if_neg hsame, if_pos hless, List.mem_cons] at h
        exact h
      · rw [insert, if_neg hsame, if_neg hless, List.mem_cons] at h
        rcases h with rfl | h
        · exact .inr List.mem_cons_self
        · exact (ih h).imp id (List.mem_cons_of_mem _)

theorem isAscending_insert (h : IsAscending formats) : IsAscending (insert format formats) := by
  induction formats with
  | nil => exact List.pairwise_singleton _ _
  | cons first rest ih =>
    obtain ⟨hfirst, hrest⟩ := List.pairwise_cons.mp h
    by_cases hsame : format.name = first.name
    · -- The format stands in the place of the old one, and the names are what they were.
      rw [insert, if_pos hsame]
      exact List.pairwise_cons.mpr ⟨by rwa [hsame], hrest⟩
    · by_cases hless : format.name < first.name
      · rw [insert, if_neg hsame, if_pos hless]
        refine List.pairwise_cons.mpr ⟨?_, h⟩
        intro other hother
        rcases List.mem_cons.mp hother with rfl | hother
        · exact hless
        · exact hless.trans (hfirst other hother)
      · rw [insert, if_neg hsame, if_neg hless]
        -- What stands behind the first format stood there before or is the new one.
        have hgreater : first.name < format.name :=
          lt_of_le_of_ne (not_lt.mp hless) (Ne.symm hsame)
        refine List.pairwise_cons.mpr ⟨?_, ih hrest⟩
        intro other hother
        rcases eq_or_mem_of_mem_insert hother with rfl | hother
        · exact hgreater
        · exact hfirst other hother

/-! ## Look-ups -/

/-- Lists of formats in ascending order are equal if they find the same. -/
theorem eq_of_find?_eq (ha : IsAscending as) (hb : IsAscending bs)
    (h : ∀ name, as.find? (·.name == name) = bs.find? (·.name == name)) : as = bs := by
  have hperm : as.Perm bs := by
    rw [List.perm_ext_iff_of_nodup ha.nodup_names.of_map hb.nodup_names.of_map]
    intro format
    have hmem : format ∈ as ∧ format.name = format.name ↔ format ∈ bs ∧ format.name = format.name := by
      rw [← find?_key_eq_some_iff ha.nodup_names, ← find?_key_eq_some_iff hb.nodup_names, h]
    simpa using hmem
  refine hperm.eq_of_pairwise (fun a b _ _ hab hba => ?_) ha hb
  exact absurd (hab.trans hba) (lt_irrefl _)

theorem get_eq_ok_iff : r.get name = .ok format ↔ r.formats.find? (·.name == name) = some format := by
  rw [get]
  cases r.formats.find? (·.name == name) with
  | none => exact ⟨nofun, nofun⟩
  | some other => rw [Except.ok.injEq, Option.some.injEq]

theorem find?_eq_none_iff : r.formats.find? (·.name == name) = none ↔ name ∉ r.names := by
  rw [List.find?_eq_none, names, List.mem_map]
  simp

theorem get_eq_error_iff {fault : ReportFault} :
    r.get name = .error fault ↔ name ∉ r.names ∧ fault = .formatNotFound name := by
  rw [← find?_eq_none_iff, get]
  cases r.formats.find? (·.name == name) with
  | none => rw [Except.error.injEq, eq_comm]; simp
  | some other => simp

theorem render_unlisted {s : Statistics} {now : Instant} (h : name ∉ r.names) :
    r.render name s now = .error (.formatNotFound name) := by
  rw [render, get_eq_error_iff.mpr ⟨h, rfl⟩]
  rfl

theorem render_listed {s : Statistics} {now : Instant} (h : r.get name = .ok format) :
    r.render name s now = format.render s now := by
  rw [render, h]
  rfl

/-- The answer that a format is missing says that its name is not listed, or is what the format
    of that name answers itself. -/
theorem render_eq_missing_iff {s : Statistics} {now : Instant} :
    r.render name s now = .error (.formatNotFound name) ↔
      name ∉ r.names ∨ ∃ format, r.get name = .ok format ∧
        format.render s now = .error (.formatNotFound name) := by
  constructor
  · intro h
    cases hget : r.get name with
    | ok format =>
      rw [render_listed hget] at h
      exact .inr ⟨format, rfl, h⟩
    | error fault => exact .inl (get_eq_error_iff.mp hget).1
  · rintro (hunlisted | ⟨format, hget, h⟩)
    · exact render_unlisted hunlisted
    · rw [render_listed hget, h]

theorem has_iff : r.has name = true ↔ name ∈ r.names := by
  rw [has, List.any_eq_true, names, List.mem_map]
  simp

/-! ## Detection -/

/-- No two formats of the registry ask for one extension. -/
def HasOwnExtensions (r : Registry) : Prop :=
  ∀ a ∈ r.formats, ∀ b ∈ r.formats, ∀ extension ∈ a.extensions, extension ∈ b.extensions →
    a.name = b.name

/-- A file name asks for the one format that has its extension. -/
theorem detect?_eq_some_iff (hown : r.HasOwnExtensions) {fileName : Text} :
    r.detect? fileName = some name ↔
      ∃ format ∈ r.formats, format.name = name ∧
        ∃ extension ∈ format.extensions, Path.extension? fileName = some extension := by
  rw [detect?]
  cases Path.extension? fileName with
  | none => simp
  | some extension =>
    simp only [Option.map_eq_some_iff, Option.some.injEq, exists_eq_right']
    constructor
    · rintro ⟨format, hfind, rfl⟩
      have hasks := List.find?_some hfind
      exact ⟨format, List.mem_of_find?_eq_some hfind, rfl, by simpa using hasks⟩
    · -- Some format with the extension is found first, and no other one has it.
      rintro ⟨format, hmem, rfl, hasks⟩
      obtain ⟨other, hother⟩ :
          ∃ other, r.formats.find? (·.extensions.contains extension) = some other :=
        Option.isSome_iff_exists.mp (List.find?_isSome.mpr ⟨format, hmem, by simpa using hasks⟩)
      have hother' : extension ∈ other.extensions := by simpa using List.find?_some hother
      exact ⟨other, hother, hown other (List.mem_of_find?_eq_some hother) format hmem extension hother'
        hasks⟩

/-! ## Runs of registrations -/

/-- The registry after formats were registered in order. -/
def registerAll (r : Registry) (history : List ReportFormat) : Registry :=
  history.foldl register r

theorem isAscending_registerAll (h : IsAscending r.formats) (history : List ReportFormat) :
    IsAscending (r.registerAll history).formats := by
  induction history generalizing r with
  | nil => exact h
  | cons format history ih => exact ih (isAscending_insert h)

/-- What is found after a run: the latest format of the name, or else what was found before. -/
theorem find?_registerAll (r : Registry) (history : List ReportFormat) (name : Text) :
    (r.registerAll history).formats.find? (·.name == name) =
      (latest? ReportFormat.name name history).or (r.formats.find? (·.name == name)) := by
  have hput : ∀ (r : Registry) (format : ReportFormat),
      (r.register format).formats.find? (·.name == name) =
        if format.name = name then some format else r.formats.find? (·.name == name) :=
    fun r format => find?_insert format r.formats name
  exact lookup_foldl (·.formats.find? (·.name == name)) hput r history

/-- The built-in formats are themselves a run of registrations. -/
theorem registerAll_standard (history : List ReportFormat) :
    standard.registerAll history = empty.registerAll ([.console, .json] ++ history) :=
  rfl

/-- The order of registrations of different names cannot be seen. -/
theorem registerAll_eq_of_perm (hperm : as.Perm bs) (hnodup : (as.map ReportFormat.name).Nodup)
    (h : IsAscending r.formats) : r.registerAll as = r.registerAll bs := by
  have hformats : (r.registerAll as).formats = (r.registerAll bs).formats := by
    apply eq_of_find?_eq (isAscending_registerAll h as) (isAscending_registerAll h bs)
    intro name
    rw [find?_registerAll, find?_registerAll, latest?_eq_of_perm hperm hnodup]
  exact congrArg Registry.mk hformats

/-- A registry answers all questions from the latest format of each name in its history. -/
structure Reflects (r : Registry) (history : List ReportFormat) : Prop where
  names_ascending : r.names.Pairwise (· < ·)
  mem_names_iff : ∀ name, name ∈ r.names ↔ ∃ format ∈ history, format.name = name
  has_iff : ∀ name, r.has name = true ↔ name ∈ r.names
  get_eq_ok_iff : ∀ name format,
    r.get name = .ok format ↔ latest? ReportFormat.name name history = some format
  get_eq_error_iff : ∀ name fault,
    r.get name = .error fault ↔ name ∉ r.names ∧ fault = .formatNotFound name
  render_unlisted : ∀ name s now,
    name ∉ r.names → r.render name s now = .error (.formatNotFound name)
  render_listed : ∀ name s now format,
    r.get name = .ok format → r.render name s now = format.render s now
  render_eq_missing_iff : ∀ name s now,
    r.render name s now = .error (.formatNotFound name) ↔
      name ∉ r.names ∨ ∃ format, r.get name = .ok format ∧
        format.render s now = .error (.formatNotFound name)
  detect?_eq_some_iff : r.HasOwnExtensions → ∀ fileName name,
    r.detect? fileName = some name ↔
      ∃ format, latest? ReportFormat.name name history = some format ∧
        ∃ extension ∈ format.extensions, Path.extension? fileName = some extension

/-- The formats of the registry may be kept in any order: sorting the names gives the names
    of the registry, and every look-up finds the same. -/
structure IsUnordered (r : Registry) : Prop where
  names_eq : ∀ order : List ReportFormat, order.Perm r.formats →
    (names ⟨order⟩).mergeSort = r.names
  get_eq : ∀ order : List ReportFormat, order.Perm r.formats → ∀ name,
    get ⟨order⟩ name = r.get name
  detect?_eq : r.HasOwnExtensions → ∀ order : List ReportFormat, order.Perm r.formats →
    ∀ fileName, detect? ⟨order⟩ fileName = r.detect? fileName

theorem isUnordered_of_isAscending (h : IsAscending r.formats) : IsUnordered r := by
  have hnodup := h.nodup_names
  constructor
  · intro order hperm
    -- Both lists are sorted and have the same names.
    have hsorted : ((names ⟨order⟩).mergeSort).Pairwise fun a b => decide (a ≤ b) = true :=
      List.pairwise_mergeSort (fun a b c => by simpa using le_trans)
        (fun a b => by simpa using le_total a b) _
    have hnames : (names ⟨order⟩).Perm r.names := hperm.map _
    refine ((List.mergeSort_perm _ _).trans hnames).eq_of_pairwise
      (fun a b _ _ => le_antisymm) (by simpa using hsorted) ?_
    exact List.pairwise_map.mpr (h.imp le_of_lt)
  · intro order hperm name
    have hfind : order.find? (·.name == name) = r.formats.find? (·.name == name) := by
      apply Option.ext
      intro format
      rw [find?_key_eq_some_iff ((hperm.map _).nodup_iff.mpr hnodup), find?_key_eq_some_iff hnodup,
        hperm.mem_iff]
    rw [get, get, hfind]
  · intro hown order hperm fileName
    have hown' : HasOwnExtensions ⟨order⟩ := fun a ha b hb =>
      hown a (hperm.mem_iff.mp ha) b (hperm.mem_iff.mp hb)
    apply Option.ext
    intro name
    rw [detect?_eq_some_iff hown', detect?_eq_some_iff hown]
    simp only [hperm.mem_iff]

/-- A run from nothing leaves a registry that reflects it. -/
theorem reflects_registerAll (history : List ReportFormat) :
    Reflects (empty.registerAll history) history := by
  have hascending : IsAscending (empty.registerAll history).formats :=
    isAscending_registerAll List.Pairwise.nil history
  have hfind : ∀ name, (empty.registerAll history).formats.find? (·.name == name) =
      latest? ReportFormat.name name history := by
    intro name
    rw [find?_registerAll]
    exact Option.or_none
  -- From here on nothing is known of the run but what it left.
  generalize empty.registerAll history = r at hascending hfind
  have hget : ∀ name format,
      r.get name = .ok format ↔ latest? ReportFormat.name name history = some format := by
    intro name format
    rw [get_eq_ok_iff, hfind]
  refine ⟨List.pairwise_map.mpr hascending, fun name => ?_, fun _ => has_iff, hget,
    fun _ _ => get_eq_error_iff, fun _ _ _ => render_unlisted, fun _ _ _ _ => render_listed,
    fun _ _ _ => render_eq_missing_iff, fun hown fileName name => ?_⟩
  · rw [← not_iff_not, ← find?_eq_none_iff, hfind, latest?_eq_none_iff]
    push Not
    rfl
  · rw [detect?_eq_some_iff hown]
    simp only [← hfind, find?_key_eq_some_iff hascending.nodup_names, and_assoc]

/-- After every run of registrations, from nothing or behind the built-in formats, the registry
    reflects what was registered, in whatever order it keeps its formats. Runs that register
    the same formats under different names leave the same registry. -/
theorem registerAll_reflects_registrations (history : List ReportFormat) :
    (Reflects (empty.registerAll history) history ∧ IsUnordered (empty.registerAll history)) ∧
      (Reflects (standard.registerAll history) ([.console, .json] ++ history) ∧
        IsUnordered (standard.registerAll history)) ∧
      ∀ other : List ReportFormat, history.Perm other → (history.map ReportFormat.name).Nodup →
        empty.registerAll history = empty.registerAll other ∧
          standard.registerAll history = standard.registerAll other := by
  have hempty : IsAscending empty.formats := List.Pairwise.nil
  have hstandard : IsAscending standard.formats :=
    isAscending_registerAll hempty [.console, .json]
  refine ⟨⟨reflects_registerAll history, ?_⟩, ⟨?_, ?_⟩, fun other hperm hnodup => ⟨?_, ?_⟩⟩
  · exact isUnordered_of_isAscending (isAscending_registerAll hempty history)
  · rw [registerAll_standard]
    exact reflects_registerAll _
  · exact isUnordered_of_isAscending (isAscending_registerAll hstandard history)
  · exact registerAll_eq_of_perm hperm hnodup hempty
  · exact registerAll_eq_of_perm hperm hnodup hstandard

/-- A format that answers that it is missing itself. -/
def lost : ReportFormat :=
  { name := "lost".toList
    description := []
    extensions := []
    render := fun _ _ => .error (.formatNotFound "lost".toList) }

/-- So a format may be listed and yet be answered to be missing. -/
theorem render_listed_as_missing :
    let r := empty.registerAll [lost]
    "lost".toList ∈ r.names ∧
      r.render "lost".toList (.ofText []) ⟨0, 0⟩ = .error (.formatNotFound "lost".toList) := by
  intro r
  have hget : r.get "lost".toList = .ok lost := rfl
  exact ⟨by decide, render_listed hget⟩

end Registry
end Tagdown
