/-
  Tagdown.Proofs.Latest

  The first and the latest of several entries with one key. A store in which a new
  entry takes the place of the old one of its key answers with the latest entry
  (`lookup_foldl`), so tag tables and registries of formats need only prove what
  one new entry changes. Without repetitions entries stand in the order in which
  they are first seen (`pairwise_idxOf_eraseDups`).
-/

import Mathlib.Data.List.Induction
import Mathlib.Data.List.Nodup
import Tagdown.Text.Basic

namespace Tagdown

variable {α σ κ : Type} [BEq κ] {key : α → κ} {name : κ}

/-- The first entry is found under its key and hidden from every other key. -/
theorem find?_key_cons [LawfulBEq κ] [DecidableEq κ] (key : α → κ) (name : κ) (entry : α)
    (rest : List α) :
    (entry :: rest).find? (key · == name) =
      if key entry = name then some entry else rest.find? (key · == name) := by
  by_cases h : key entry = name <;> simp [h]

/-- Where no key is used twice, an entry is found exactly if it is there. -/
theorem find?_key_eq_some_iff [LawfulBEq κ] {entries : List α}
    (hnodup : (entries.map key).Nodup) {entry : α} :
    entries.find? (key · == name) = some entry ↔ entry ∈ entries ∧ key entry = name := by
  constructor
  · intro h
    exact ⟨List.mem_of_find?_eq_some h, by simpa using List.find?_some h⟩
  · -- Some entry of the key is found, and it can only be this one.
    rintro ⟨hmem, rfl⟩
    obtain ⟨other, hother⟩ : ∃ other, entries.find? (key · == key entry) = some other :=
      Option.isSome_iff_exists.mp (List.find?_isSome.mpr ⟨entry, hmem, beq_self_eq_true _⟩)
    have hkey : key other = key entry := by simpa using List.find?_some hother
    rw [hother, List.inj_on_of_nodup_map hnodup (List.mem_of_find?_eq_some hother) hmem hkey]

/-- The last of the entries with the key `name`. -/
def latest? (key : α → κ) (name : κ) (entries : List α) : Option α :=
  entries.findRev? (key · == name)

theorem latest?_append (early late : List α) :
    latest? key name (early ++ late) = (latest? key name late).or (latest? key name early) := by
  simp only [latest?, List.findRev?_eq_find?_reverse, List.reverse_append, List.find?_append]

theorem latest?_cons [LawfulBEq κ] [DecidableEq κ] (entry : α) (late : List α) :
    latest? key name (entry :: late) =
      (latest? key name late).or (if key entry = name then some entry else none) := by
  rw [← List.singleton_append, latest?_append]
  by_cases h : key entry = name <;> simp [latest?, h]

theorem latest?_eq_none_iff [LawfulBEq κ] {entries : List α} :
    latest? key name entries = none ↔ ∀ entry ∈ entries, key entry ≠ name := by
  simp [latest?, List.findRev?_eq_find?_reverse]

/-- Where no key is used twice, the latest entry of a key is the only one. -/
theorem latest?_eq_some_iff [LawfulBEq κ] {entries : List α}
    (hnodup : (entries.map key).Nodup) {entry : α} :
    latest? key name entries = some entry ↔ entry ∈ entries ∧ key entry = name := by
  have hreverse : (entries.reverse.map key).Nodup := by
    rwa [List.map_reverse, List.nodup_reverse]
  rw [latest?, List.findRev?_eq_find?_reverse, find?_key_eq_some_iff hreverse, List.mem_reverse]

/-- Where no key is used twice, the order of the entries does not matter. -/
theorem latest?_eq_of_perm [LawfulBEq κ] {as bs : List α} (hperm : as.Perm bs)
    (hnodup : (as.map key).Nodup) :
    latest? key name as = latest? key name bs := by
  apply Option.ext
  intro entry
  rw [latest?_eq_some_iff hnodup, latest?_eq_some_iff ((hperm.map key).nodup hnodup),
    hperm.mem_iff]

/-- What a store answers after a run of entries, each of which takes the place of the
    old entry of its key: the latest entry, or else what it answered before. -/
theorem lookup_foldl [LawfulBEq κ] [DecidableEq κ] {put : σ → α → σ} (lookup : σ → Option α)
    (hput : ∀ s entry, lookup (put s entry) = if key entry = name then some entry else lookup s)
    (s : σ) (entries : List α) :
    lookup (entries.foldl put s) = (latest? key name entries).or (lookup s) := by
  induction entries generalizing s with
  | nil => rfl
  | cons entry entries ih =>
    rw [List.foldl_cons, ih, hput, latest?_cons, Option.or_assoc]
    split <;> rfl

/-! ## The last answer -/

/-- The answer of the last member that has one. -/
def lastAnswer? {β : Type} (answer? : α → Option β) (as : List α) : Option β :=
  as.reverse.findSome? answer?

section LastAnswer

variable {β : Type} {answer? : α → Option β}

theorem lastAnswer?_append (early late : List α) :
    lastAnswer? answer? (early ++ late) =
      (lastAnswer? answer? late).or (lastAnswer? answer? early) := by
  rw [lastAnswer?, List.reverse_append, List.findSome?_append]
  rfl

theorem lastAnswer?_cons (a : α) (late : List α) :
    lastAnswer? answer? (a :: late) = (lastAnswer? answer? late).or (answer? a) := by
  rw [← List.singleton_append, lastAnswer?_append]
  cases h : answer? a <;> simp [lastAnswer?, h]

theorem exists_of_lastAnswer? {as : List α} {b : β} (h : lastAnswer? answer? as = some b) :
    ∃ a ∈ as, answer? a = some b := by
  obtain ⟨a, ha, hb⟩ := List.exists_of_findSome?_eq_some h
  exact ⟨a, List.mem_reverse.mp ha, hb⟩

end LastAnswer

/-! ## Where an entry is first seen -/

section FirstSeen

variable [BEq α] [LawfulBEq α] {entry : α} {entries : List α}

/-- One more entry is new, or it has been seen before. -/
theorem eraseDups_append_singleton :
    (entries ++ [entry]).eraseDups =
      if entry ∈ entries then entries.eraseDups else entries.eraseDups ++ [entry] := by
  rw [List.eraseDups_append]
  by_cases h : entry ∈ entries <;> simp [List.removeAll, h, List.eraseDups_cons]

/-- Without repetitions the entries stand in the order in which they are first seen. -/
theorem pairwise_idxOf_eraseDups (entries : List α) :
    entries.eraseDups.Pairwise fun a b => entries.idxOf a < entries.idxOf b := by
  induction entries using List.reverseRecOn with
  | nil => exact .nil
  | append_singleton entries entry ih =>
    have hplace : ∀ a ∈ entries.eraseDups, (entries ++ [entry]).idxOf a = entries.idxOf a :=
      fun a ha => List.idxOf_append_of_mem (List.mem_eraseDups.mp ha)
    have hold : entries.eraseDups.Pairwise
        fun a b => (entries ++ [entry]).idxOf a < (entries ++ [entry]).idxOf b := by
      refine ih.imp_of_mem fun {a b} ha hb hlt => ?_
      rwa [hplace a ha, hplace b hb]
    rw [eraseDups_append_singleton]
    split
    · exact hold
    · -- A new entry is first seen behind all the others.
      rename_i hnew
      refine List.pairwise_append.mpr ⟨hold, List.pairwise_singleton _ entry, fun a ha b hb => ?_⟩
      obtain rfl := List.mem_singleton.mp hb
      rw [hplace a ha, List.idxOf_append_of_notMem hnew]
      exact Nat.lt_add_right _ (List.idxOf_lt_length_of_mem (List.mem_eraseDups.mp ha))

theorem nodup_eraseDups (entries : List α) : entries.eraseDups.Nodup := by
  refine (pairwise_idxOf_eraseDups entries).imp fun {a b} hlt => ?_
  rintro rfl
  exact Nat.lt_irrefl _ hlt

end FirstSeen
end Tagdown
