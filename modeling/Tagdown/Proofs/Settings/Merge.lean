/-
  Tagdown.Proofs.Settings.Merge

  What the changes of a tree of settings leave under a key: a value that is put or
  assigned takes the place of the old one, every other key is as before
  (`get?_put_of_ne`, `KeyPath.get?_set_of_ne`), and a table that is merged answers
  for its own keys only (`get?_merge`).
-/

import Mathlib.Data.List.Nodup
import Tagdown.Settings.Load

namespace Tagdown
namespace Setting

variable {target entries : Entries} {key name : Text} {value : Setting}

/-- The setting is a table. -/
def IsTable (s : Setting) : Prop :=
  ∃ entries, s = .table entries

theorem Entries.get?_eq_none_iff : Entries.get? name entries = none ↔ name ∉ entries.map Prod.fst := by
  induction entries with
  | nil => simp [Entries.get?]
  | cons entry entries ih =>
    rw [Entries.get?]
    by_cases h : entry.1 = name
    · simp [h]
    · rw [if_neg h, ih, List.map_cons, List.mem_cons, not_or]
      exact ⟨fun hrest => ⟨Ne.symm h, hrest⟩, And.right⟩

theorem Entries.mem_of_get? (h : entries.get? name = some value) : (name, value) ∈ entries := by
  induction entries with
  | nil => cases h
  | cons entry entries ih =>
    rw [Entries.get?] at h
    split at h
    · rename_i heq
      cases h
      exact heq ▸ List.mem_cons_self
    · exact List.mem_cons_of_mem _ (ih h)

/-! ## Putting -/

theorem put_of_not_isTable (h : ¬ value.IsTable) :
    put target key value = target.set (Text.lowercase key) value := by
  cases value with
  | table incoming => exact absurd ⟨incoming, rfl⟩ h
  | _ => rw [put]

theorem get?_put_of_ne (h : name ≠ Text.lowercase key) :
    (put target key value).get? name = target.get? name := by
  cases value <;> rw [put, Entries.get?_set, if_neg h]

/-! ## Merging -/

/-- A table is still a table when something is merged into it. -/
theorem isTable_merge (target : Entries) (incoming : Entries) :
    (merge (.table target) incoming).IsTable := by
  induction incoming generalizing target with
  | nil => exact ⟨target, by rw [merge]⟩
  | cons entry incoming ih =>
    rw [merge]
    exact ih _

/-- A merged table answers for its own keys, as far as no tables stand under them;
    every other key is answered as before. -/
theorem get?_merge {target : Setting} {incoming : Entries}
    (hnodup : (incoming.map Prod.fst).Nodup)
    (hlower : ∀ entry ∈ incoming, Text.lowercase entry.1 = entry.1)
    (hvalue : ∀ value, incoming.get? name = some value → ¬ value.IsTable) :
    (merge target incoming).entries.get? name =
      (incoming.get? name).or (target.entries.get? name) := by
  induction incoming generalizing target with
  | nil => rw [merge, Entries.get?, Option.none_or]
  | cons entry incoming ih =>
    obtain ⟨key, value⟩ := entry
    rw [List.map_cons, List.nodup_cons] at hnodup
    rw [List.forall_mem_cons] at hlower
    rw [merge]
    rw [Entries.get?] at hvalue ⊢
    by_cases hkey : key = name
    · -- The rest of the table does not have the key again.
      subst hkey
      rw [if_pos rfl] at hvalue ⊢
      have hrest := Entries.get?_eq_none_iff.mpr hnodup.1
      rw [ih hnodup.2 hlower.2 (by simp [hrest]), hrest, Option.none_or,
        put_of_not_isTable (hvalue value rfl), hlower.1]
      exact (Entries.get?_set ..).trans (if_pos rfl)
    · rw [if_neg hkey] at hvalue ⊢
      rw [ih hnodup.2 hlower.2 hvalue]
      congr 1
      refine get?_put_of_ne ?_
      rw [hlower.1]
      exact Ne.symm hkey

end Setting

/-! ## Assigning -/

namespace KeyPath

open Setting (Entries put)

variable {root : Entries} {path : KeyPath} {key name : Text} {value : Setting}

/-- A path of two steps puts a value into the table under the first key. -/
theorem set_pair : set ⟨key, [.child name]⟩ value root =
    root.set (Text.lowercase key)
      (.table (put ((root.get? (Text.lowercase key)).getD .unset).entries name value)) :=
  rfl

/-- A path changes what is under its first key. -/
theorem get?_set_of_ne (h : name ≠ Text.lowercase path.head) :
    (path.set value root).get? name = root.get? name := by
  obtain ⟨head, steps⟩ := path
  cases steps with
  | nil => exact Setting.get?_put_of_ne h
  | cons step steps => exact (Entries.get?_set ..).trans (if_neg h)

/-- A text that is a path of one step is its key. -/
theorem eq_of_ofText? {t : Text} (h : ofText? t = some ⟨key, []⟩) : key = t := by
  unfold ofText? at h
  dsimp only at h
  split at h
  · cases h
  · obtain ⟨steps, hsteps, heq⟩ := Option.map_eq_some_iff.mp h
    cases heq
    have hrest : t.dropWhile isKeyChar = [] := by
      rw [readSteps?.eq_def] at hsteps
      split at hsteps
      · assumption
      · cases hsteps
      · dsimp only at hsteps
        split at hsteps
        · cases hsteps
        · obtain ⟨_, _, heq⟩ := Option.map_eq_some_iff.mp hsteps
          cases heq
      · obtain ⟨_, _, hsteps⟩ := Option.bind_eq_some_iff.mp hsteps
        obtain ⟨_, _, heq⟩ := Option.map_eq_some_iff.mp hsteps
        cases heq
      · cases hsteps
    have hall := List.takeWhile_append_dropWhile (p := isKeyChar) (l := t)
    rwa [hrest, List.append_nil] at hall

end KeyPath
end Tagdown
