/-
  Tagdown.Proofs.Statistics.Packing

  How many matches fit into a text without overlapping.

  `Packs` is any choice of matches from left to right, found by whatever search.
  The leftmost search gives one of them (`packs_count`). It gives the largest
  number if a match that starts later never ends earlier (`EndsInOrder`): the
  first match of any choice then ends no earlier than the leftmost one, so it can
  be exchanged for it (`Packs.le_count`).

  Links end in order. An image is a link behind an exclamation mark, so images
  that fit into a text are links that fit into it (`count_image_le_count_link`),
  although the two searches can find quite different places.
-/

import Mathlib.Data.List.Infix
import Tagdown.Proofs.Statistics.Counters

namespace Tagdown

/-! ## The first occurrence of a character -/

namespace Text

theorem after?_suffix {stop : Char} {t rest : Text} (h : after? stop t = some rest) :
    rest <:+ t := by
  induction t with
  | nil => simp [after?] at h
  | cons c t ih =>
    rw [after?] at h
    split at h
    · cases h
      exact List.suffix_cons c rest
    · exact (ih h).trans (List.suffix_cons c t)

/-- A later search for a character does not end earlier. -/
theorem after?_suffix_after? {stop : Char} {t u rest rest' : Text} (hsuffix : u <:+ t)
    (ht : after? stop t = some rest) (hu : after? stop u = some rest') : rest' <:+ rest := by
  induction t with
  | nil => simp [after?] at ht
  | cons c t ih =>
    rcases List.suffix_cons_iff.mp hsuffix with rfl | hsuffix'
    · rw [ht] at hu
      cases hu
      exact List.suffix_refl rest
    · rw [after?] at ht
      split at ht
      · cases ht
        exact (after?_suffix hu).trans hsuffix'
      · exact ih hsuffix' ht

theorem suffix_of_cons_suffix_cons {c d : Char} {t u : Text} (h : c :: u <:+ d :: t) :
    u <:+ t := by
  rcases List.suffix_cons_iff.mp h with heq | hsuffix
  · rw [(List.cons.inj heq).2]
  · exact (List.suffix_cons c u).trans hsuffix

end Text

namespace Pattern

variable {p : Pattern} {t u : Text} {n : Nat}

/-! ## Matches that do not overlap -/

/-- The text has room for `n` matches, one behind the other. -/
inductive Packs (p : Pattern) : Text → Nat → Prop where
  | none {t : Text} : Packs p t 0
  | skip {c : Char} {rest : Text} {n : Nat} : Packs p rest n → Packs p (c :: rest) n
  | take {t after : Text} {n : Nat} :
      p.rest? t = some after → Packs p after n → Packs p t (n + 1)

/-- The matches that are counted do not overlap. -/
theorem packs_count (p : Pattern) (t : Text) : Packs p t (p.count t) := by
  fun_induction count p t with
  | case1 => exact .none
  | case2 c rest after hafter ih => exact .take hafter ih
  | case3 c rest hnone ih => exact .skip ih

/-- Matches in the end of a text are matches in the text. -/
theorem Packs.of_suffix (h : Packs p u n) (hsuffix : u <:+ t) : Packs p t n := by
  induction t with
  | nil =>
    rw [List.suffix_nil.mp hsuffix] at h
    exact h
  | cons c t ih =>
    rcases List.suffix_cons_iff.mp hsuffix with rfl | hsuffix'
    · exact h
    · exact .skip (ih hsuffix')

/-! ## The leftmost search finds the most -/

/-- A match that starts later never ends earlier. -/
def EndsInOrder (p : Pattern) : Prop :=
  ∀ ⦃t u rest rest' : Text⦄, u <:+ t → p.rest? t = some rest → p.rest? u = some rest' →
    rest' <:+ rest

/-- The first match of any choice ends no earlier than a match at the start of
    the text, so the others fit behind that one. -/
theorem Packs.behind_first {after : Text} (hp : EndsInOrder p) (h : Packs p u (n + 1))
    (hsuffix : u <:+ t) (ht : p.rest? t = some after) : Packs p after n := by
  generalize hm : n + 1 = m at h
  induction h with
  | none => cases hm
  | skip _ ih => exact ih ((List.suffix_cons _ _).trans hsuffix) hm
  | take hu hrest _ =>
    cases hm
    exact hrest.of_suffix (hp hsuffix ht hu)

/-- No choice of matches is larger than the one that is counted. -/
theorem Packs.le_count (hp : EndsInOrder p) (h : Packs p t n) : n ≤ p.count t := by
  fun_induction count p t generalizing n with
  | case1 =>
    cases h with
    | none => exact Nat.le_refl 0
    | take hmatch _ =>
      have hshorter := p.length_lt hmatch
      simp at hshorter
  | case2 c rest after hafter ih =>
    cases n with
    | zero => exact Nat.zero_le _
    | succ n =>
      -- All matches but one lie behind the first match that the search takes.
      have hbehind := h.behind_first hp (List.suffix_refl _) hafter
      exact Nat.succ_le_succ (ih hbehind)
  | case3 c rest hnone ih =>
    cases h with
    | none => exact Nat.zero_le _
    | skip hrest => exact ih hrest
    | take hmatch _ =>
      rw [hnone] at hmatch
      cases hmatch

/-! ## Links and images -/

theorem afterLink?_eq_some_iff {rest : Text} :
    afterLink? t = some rest ↔
      ∃ label target, t = '[' :: label ∧ Text.after? ']' label = some ('(' :: target) ∧
        Text.after? ')' target = some rest := by
  constructor
  · intro h
    unfold afterLink? at h
    split at h
    · rename_i label
      split at h
      · rename_i target htarget
        exact ⟨label, target, rfl, htarget, h⟩
      · cases h
    · cases h
  · rintro ⟨label, target, rfl, htarget, hrest⟩
    simp only [afterLink?, htarget, hrest]

/-- The label of a later link starts later, so its target does, so its end does. -/
theorem endsInOrder_link : EndsInOrder link := by
  intro t u rest rest' hsuffix ht hu
  obtain ⟨label, target, rfl, htarget, hrest⟩ := afterLink?_eq_some_iff.mp ht
  obtain ⟨label', target', rfl, htarget', hrest'⟩ := afterLink?_eq_some_iff.mp hu
  have hlabel : label' <:+ label := Text.suffix_of_cons_suffix_cons hsuffix
  have hparen : '(' :: target' <:+ '(' :: target :=
    Text.after?_suffix_after? hlabel htarget htarget'
  exact Text.after?_suffix_after? (Text.suffix_of_cons_suffix_cons hparen) hrest hrest'

/-- Where images fit, the links behind their exclamation marks fit. -/
theorem Packs.link_of_image (h : Packs image t n) : Packs link t n := by
  induction h with
  | none => exact .none
  | skip _ ih => exact .skip ih
  | @take t after n hmatch _ ih =>
    have himage : afterImage? t = some after := hmatch
    unfold afterImage? at himage
    split at himage
    · exact .skip (.take himage ih)
    · cases himage

theorem count_image_le_count_link (t : Text) : image.count t ≤ link.count t :=
  (packs_count image t).link_of_image.le_count endsInOrder_link

end Pattern

/-! ## Texts -/

namespace Statistics

/-- **No text has more images than links.** -/
theorem images_le_links (text : Text) : (ofText text).images ≤ (ofText text).links := by
  apply Counters.isAdditive_images.sum_le_sum Counters.isAdditive_links
  intro line _
  exact Pattern.count_image_le_count_link (Text.trimLine line)

end Statistics
end Tagdown
