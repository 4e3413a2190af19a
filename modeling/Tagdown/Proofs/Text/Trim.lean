/-
  Tagdown.Proofs.Text.Trim

  What trimming leaves of a text, said without the function: the core of a text
  stands between dropped characters and starts and ends with a kept one.

  `isCore_trimBy` says that `trimBy` gives a core and `IsCore.trimBy_eq` that a
  text has no other one. Everything else about trimming follows from the two.
-/

import Mathlib.Data.List.DropRight
import Tagdown.Text.Blank

namespace Tagdown
namespace Text

variable {p : Char → Bool} {t u w : Text}

/-- `w` is the core of `t`: what is left without the characters of `p` at both
    ends. -/
structure IsCore (p : Char → Bool) (t w : Text) : Prop where
  /-- Only characters of `p` stand before and behind the core. -/
  split : ∃ lead trail, t = lead ++ w ++ trail ∧
    (∀ c ∈ lead, p c = true) ∧ (∀ c ∈ trail, p c = true)
  /-- The core does not start with a character of `p`. -/
  head : ∀ c ∈ w.head?, p c = false
  /-- The core does not end with a character of `p`. -/
  last : ∀ c ∈ w.getLast?, p c = false

/-! ## One end -/

theorem dropEndWhile_eq_rdropWhile (p : Char → Bool) (t : Text) :
    dropEndWhile p t = t.rdropWhile p := rfl

theorem dropWhile_eq_self_of_head (h : ∀ c ∈ t.head?, p c = false) : t.dropWhile p = t := by
  cases t with
  | nil => rfl
  | cons c rest => simp [h c rfl]

theorem dropEndWhile_eq_self_of_last (h : ∀ c ∈ t.getLast?, p c = false) :
    dropEndWhile p t = t := by
  rw [dropEndWhile_eq_rdropWhile, List.rdropWhile_eq_self_iff]
  intro hne
  rw [h _ (List.getLast?_eq_some_getLast hne)]
  simp

/-- Characters of `p` behind a text do not change what is left of it. -/
theorem dropEndWhile_append_of_all (h : ∀ c ∈ u, p c = true) (t : Text) :
    dropEndWhile p (t ++ u) = dropEndWhile p t := by
  have hr : ∀ c ∈ u.reverse, p c = true := fun c hc => h c (List.mem_reverse.mp hc)
  unfold dropEndWhile
  rw [List.reverse_append, List.dropWhile_append_of_pos hr]

theorem dropEndWhile_eq_nil_of_all (h : ∀ c ∈ t, p c = true) : dropEndWhile p t = [] := by
  rw [dropEndWhile_eq_rdropWhile, List.rdropWhile_eq_nil_iff]
  exact h

/-- What is left of a text that starts with a kept character starts with it. -/
theorem head?_dropEndWhile (h : ∀ c ∈ t.head?, p c = false) :
    (dropEndWhile p t).head? = t.head? := by
  cases t with
  | nil => rfl
  | cons c rest =>
    have hc : p c = false := h c rfl
    obtain ⟨s, hs⟩ := List.rdropWhile_prefix p (c :: rest)
    rw [← dropEndWhile_eq_rdropWhile] at hs
    cases hd : dropEndWhile p (c :: rest) with
    | nil =>
      rw [dropEndWhile_eq_rdropWhile, List.rdropWhile_eq_nil_iff] at hd
      simp [hc] at hd
    | cons d more =>
      rw [hd, List.cons_append, List.cons.injEq] at hs
      rw [hs.1]
      rfl

/-- A kept character and all in front of it stay. -/
theorem dropEndWhile_append_cons {c : Char} (hc : p c = false) (t u : Text) :
    dropEndWhile p (t ++ c :: u) = t ++ c :: dropEndWhile p u := by
  have hreverse : (t ++ c :: u).reverse = u.reverse ++ (c :: t.reverse) := by simp
  have hstop : (c :: t.reverse).dropWhile p = c :: t.reverse := by simp [hc]
  unfold dropEndWhile
  rw [hreverse, List.dropWhile_append, hstop]
  split
  · rename_i hnil
    rw [List.isEmpty_iff.mp hnil]
    simp
  · simp

/-! ## Both ends -/

/-- Trimming gives a core. -/
theorem isCore_trimBy (p : Char → Bool) (t : Text) : IsCore p t (trimBy p t) := by
  have hhead : ∀ c ∈ (t.dropWhile p).head?, p c = false := by
    intro c hc
    have h := List.head?_dropWhile_not p t
    rw [hc] at h
    exact h
  -- In front the longest run of `p` is dropped, behind the longest of what is left.
  refine ⟨⟨t.takeWhile p, (t.dropWhile p).rtakeWhile p, ?_, ?_, ?_⟩, ?_, ?_⟩
  · unfold trimBy
    rw [dropEndWhile_eq_rdropWhile, List.append_assoc, List.rdropWhile_append_rtakeWhile,
      List.takeWhile_append_dropWhile]
  · exact List.all_eq_true.mp List.all_takeWhile
  · exact fun c hc => List.mem_rtakeWhile_imp hc
  · rw [trimBy, head?_dropEndWhile hhead]
    exact hhead
  · intro c hc
    obtain ⟨hne, rfl⟩ := List.mem_getLast?_eq_getLast hc
    have h := List.rdropWhile_last_not p (t.dropWhile p) hne
    exact Bool.eq_false_iff.mpr h

/-- A text has no other core than the trimmed text. -/
theorem IsCore.trimBy_eq (h : IsCore p t w) : trimBy p t = w := by
  obtain ⟨lead, trail, rfl, hlead, htrail⟩ := h.split
  rw [trimBy, List.append_assoc, List.dropWhile_append_of_pos hlead]
  -- Without a core the characters in front and behind are one run.
  by_cases hw : w = []
  · rw [hw, List.nil_append]
    exact dropEndWhile_eq_nil_of_all fun c hc => htrail c (List.dropWhile_subset p hc)
  · have hhead : ∀ c ∈ (w ++ trail).head?, p c = false := by
      rw [List.head?_append_of_ne_nil _ hw]
      exact h.head
    rw [dropWhile_eq_self_of_head hhead, dropEndWhile_append_of_all htrail,
      dropEndWhile_eq_self_of_last h.last]

/-- The core of a text is the trimmed text. -/
theorem isCore_iff_trimBy_eq : IsCore p t w ↔ trimBy p t = w :=
  ⟨IsCore.trimBy_eq, fun h => h ▸ isCore_trimBy p t⟩

/-- A text that starts and ends with a kept character is its own core. -/
theorem IsCore.refl (hhead : ∀ c ∈ t.head?, p c = false)
    (hlast : ∀ c ∈ t.getLast?, p c = false) : IsCore p t t :=
  ⟨⟨[], [], by simp, by simp, by simp⟩, hhead, hlast⟩

/-- A text with a kept character at each end is left as it is. -/
theorem trimBy_eq_self (hhead : ∀ c ∈ t.head?, p c = false)
    (hlast : ∀ c ∈ t.getLast?, p c = false) : trimBy p t = t :=
  (IsCore.refl hhead hlast).trimBy_eq

@[simp] theorem trimBy_trimBy (p : Char → Bool) (t : Text) :
    trimBy p (trimBy p t) = trimBy p t :=
  trimBy_eq_self (isCore_trimBy p t).head (isCore_trimBy p t).last

/-- Nothing is left of a text exactly when it has only characters of `p`. -/
theorem trimBy_eq_nil_iff : trimBy p t = [] ↔ ∀ c ∈ t, p c = true := by
  rw [← isCore_iff_trimBy_eq]
  constructor
  · intro h
    obtain ⟨lead, trail, rfl, hlead, htrail⟩ := h.split
    intro c hc
    rw [List.append_nil] at hc
    rcases List.mem_append.mp hc with hc | hc
    · exact hlead c hc
    · exact htrail c hc
  · intro h
    exact ⟨⟨t, [], by simp, h, by simp⟩, by simp, by simp⟩

/-- Characters of `p` around a text leave its core as it is. -/
theorem IsCore.pad {lead trail : Text} (h : IsCore p t w) (hlead : ∀ c ∈ lead, p c = true)
    (htrail : ∀ c ∈ trail, p c = true) : IsCore p (lead ++ t ++ trail) w := by
  obtain ⟨before, behind, rfl, hbefore, hbehind⟩ := h.split
  refine ⟨⟨lead ++ before, behind ++ trail, by simp, ?_, ?_⟩, h.head, h.last⟩
  · intro c hc
    exact (List.mem_append.mp hc).elim (hlead c) (hbefore c)
  · intro c hc
    exact (List.mem_append.mp hc).elim (hbehind c) (htrail c)

/-- Characters of `p` around a text do not change what is left of it. -/
theorem trimBy_append_of_all {lead trail : Text} (hlead : ∀ c ∈ lead, p c = true)
    (htrail : ∀ c ∈ trail, p c = true) (t : Text) :
    trimBy p (lead ++ t ++ trail) = trimBy p t :=
  ((isCore_trimBy p t).pad hlead htrail).trimBy_eq

/-- Every character of the core stands in the text. -/
theorem IsCore.mem {c : Char} (h : IsCore p t w) (hc : c ∈ w) : c ∈ t := by
  obtain ⟨lead, trail, rfl, -, -⟩ := h.split
  exact List.mem_append_left trail (List.mem_append_right lead hc)

end Text
end Tagdown
