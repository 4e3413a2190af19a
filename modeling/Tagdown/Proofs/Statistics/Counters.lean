/-
  Tagdown.Proofs.Statistics.Counters

  Counters that add up. What is read off the counters of a text is the sum of
  what is read off its lines (`IsAdditive.apply_sum`). So a counter that is one on
  the lines of a kind and zero on all others counts the lines of that kind
  (`IsAdditive.sum_eq_countP`), and neither the order of the lines nor where a
  text is cut in two matters (`sum_eq_of_perm`, `sum_append`). Lines of padding are not
  counted, which makes no difference to what they have none of (`sum_map_solidLines`).
-/

import Mathlib.Algebra.Order.BigOperators.Group.List
import Mathlib.Algebra.Order.Ring.Nat
import Tagdown.Statistics.Analysis

namespace Tagdown

/-! ## Headings by level -/

namespace HeadingCounts

theorem count_zero (level : Nat) : zero.count level = 0 := by
  simp only [zero, count]
  split <;> rfl

theorem count_add (a b : HeadingCounts) (level : Nat) :
    (a.add b).count level = a.count level + b.count level := by
  simp only [add, count]
  split <;> rfl

theorem count_single {found level : Nat} (hlow : 1 ≤ level) (hhigh : level ≤ 6) :
    (single found).count level = if found = level then 1 else 0 := by
  obtain rfl | rfl | rfl | rfl | rfl | rfl :
    level = 1 ∨ level = 2 ∨ level = 3 ∨ level = 4 ∨ level = 5 ∨ level = 6 := by omega
  all_goals rfl

/-- The counts of the six levels are all that there is. -/
theorem eq_of_count {a b : HeadingCounts}
    (h : ∀ level, 1 ≤ level → level ≤ 6 → a.count level = b.count level) : a = b := by
  cases a
  cases b
  rw [mk.injEq]
  exact ⟨h 1 (by omega) (by omega), h 2 (by omega) (by omega), h 3 (by omega) (by omega),
    h 4 (by omega) (by omega), h 5 (by omega) (by omega), h 6 (by omega) (by omega)⟩

theorem mem_levels {h : HeadingCounts} {level n : Nat} :
    (level, n) ∈ h.levels ↔ (1 ≤ level ∧ level ≤ 6) ∧ n = h.count level := by
  have hrange : level ∈ [1, 2, 3, 4, 5, 6] ↔ 1 ≤ level ∧ level ≤ 6 := by
    simp only [List.mem_cons, List.not_mem_nil, or_false]
    omega
  rw [levels, List.mem_map, ← hrange]
  constructor
  · rintro ⟨_, hlevel, heq⟩
    obtain ⟨rfl, rfl⟩ := Prod.mk.inj heq
    exact ⟨hlevel, rfl⟩
  · rintro ⟨hlevel, rfl⟩
    exact ⟨level, hlevel, rfl⟩

/-- The levels that have headings say what all counts are: a level that is not among them has
    none. -/
theorem eq_of_filter_levels {a b : HeadingCounts}
    (h : a.levels.filter (fun x => x.2 ≠ 0) = b.levels.filter (fun x => x.2 ≠ 0)) : a = b := by
  apply eq_of_count
  intro level hlow hhigh
  have hmem : ∀ (c : HeadingCounts) (n : Nat), n ≠ 0 →
      ((level, n) ∈ c.levels.filter (fun x => x.2 ≠ 0) ↔ n = c.count level) := by
    intro c n hn
    rw [List.mem_filter, mem_levels]
    simp [hlow, hhigh, hn]
  -- Equal lists have equal members.
  have hcount : ∀ n, n ≠ 0 → (n = a.count level ↔ n = b.count level) := by
    intro n hn
    rw [← hmem a n hn, ← hmem b n hn, h]
  by_cases hzero : a.count level = 0
  · -- The level has no place in the one list, so it cannot have one in the other.
    by_contra hne
    have hnone : b.count level ≠ 0 := by omega
    exact hne ((hcount _ hnone).mpr rfl).symm
  · exact (hcount _ hzero).mp rfl

theorem sum_toList_zero : zero.toList.sum = 0 :=
  rfl

theorem sum_toList_add (a b : HeadingCounts) :
    (a.add b).toList.sum = a.toList.sum + b.toList.sum := by
  simp only [add, toList, List.sum_cons, List.sum_nil]
  omega

/-- A heading has one level at most. -/
theorem sum_toList_single_le_one (level : Nat) : (single level).toList.sum ≤ 1 := by
  simp only [single, toList, List.sum_cons, List.sum_nil]
  split_ifs <;> omega

theorem total_eq (h : HeadingCounts) : h.total = h.toList.sum % wordLimit := by
  simp only [total, toList, List.sum_cons, List.sum_nil]
  congr 1
  omega

end HeadingCounts

/-! ## Counters that add up -/

namespace Counters

/-- A number read off the counters that is zero for an empty text and adds up. -/
structure IsAdditive (f : Counters → Nat) : Prop where
  zero : f .zero = 0
  add : ∀ a b, f (a.add b) = f a + f b

theorem isAdditive_words : IsAdditive (·.words) :=
  ⟨rfl, fun _ _ => rfl⟩

theorem isAdditive_headings (level : Nat) : IsAdditive (·.headings.count level) where
  zero := HeadingCounts.count_zero level
  add a b := HeadingCounts.count_add a.headings b.headings level

theorem isAdditive_links : IsAdditive (·.links) :=
  ⟨rfl, fun _ _ => rfl⟩

theorem isAdditive_images : IsAdditive (·.images) :=
  ⟨rfl, fun _ _ => rfl⟩

theorem isAdditive_listItems : IsAdditive (·.listItems) :=
  ⟨rfl, fun _ _ => rfl⟩

theorem isAdditive_quotes : IsAdditive (·.quotes) :=
  ⟨rfl, fun _ _ => rfl⟩

theorem isAdditive_codeFences : IsAdditive (·.codeFences) :=
  ⟨rfl, fun _ _ => rfl⟩

/-- Numbers that add up add up together. -/
theorem IsAdditive.plus {f g : Counters → Nat} (hf : IsAdditive f) (hg : IsAdditive g) :
    IsAdditive fun c => f c + g c where
  zero := by rw [hf.zero, hg.zero]
  add a b := by
    rw [hf.add, hg.add]
    omega

theorem IsAdditive.times {f : Counters → Nat} (hf : IsAdditive f) (k : Nat) :
    IsAdditive fun c => k * f c where
  zero := by rw [hf.zero, Nat.mul_zero]
  add a b := by rw [hf.add, Nat.mul_add]

theorem isAdditive_headingSum : IsAdditive (·.headings.toList.sum) :=
  ⟨rfl, fun a b => HeadingCounts.sum_toList_add a.headings b.headings⟩

/-- The lines that are counted by their kind: headings, list items, quotes and fences. -/
def blocks (c : Counters) : Nat :=
  c.headings.toList.sum + c.listItems + c.quotes + c.codeFences

theorem isAdditive_blocks : IsAdditive blocks :=
  ((isAdditive_headingSum.plus isAdditive_listItems).plus isAdditive_quotes).plus isAdditive_codeFences

/-- Counters are equal if every number that adds up is equal. -/
theorem eq_of_isAdditive {a b : Counters} (h : ∀ f, IsAdditive f → f a = f b) : a = b := by
  have hheadings : a.headings = b.headings :=
    HeadingCounts.eq_of_count fun level _ _ => h _ (isAdditive_headings level)
  have hwords := h _ isAdditive_words
  have hlinks := h _ isAdditive_links
  have himages := h _ isAdditive_images
  have hlistItems := h _ isAdditive_listItems
  have hquotes := h _ isAdditive_quotes
  have hcodeFences := h _ isAdditive_codeFences
  cases a
  cases b
  simp only [mk.injEq]
  exact ⟨hwords, hheadings, hlinks, himages, hlistItems, hquotes, hcodeFences⟩

section Sums

variable {α : Type} {f g : Counters → Nat}

/-- A number that adds up is read off a sum part by part. -/
theorem IsAdditive.apply_sum (hf : IsAdditive f) (cs : List Counters) :
    f (sum cs) = (cs.map f).sum := by
  induction cs with
  | nil => exact hf.zero
  | cons c cs ih =>
    rw [sum] at ih
    rw [sum, List.foldr_cons, hf.add, ih, List.map_cons, List.sum_cons]

/-- A counter that is one on the elements of `p` and zero on the others counts
    the elements of `p`. -/
theorem IsAdditive.sum_eq_countP (hf : IsAdditive f) {line : α → Counters} {p : α → Prop}
    [DecidablePred p] {l : List α} (h : ∀ a ∈ l, f (line a) = if p a then 1 else 0) :
    f (.sum (l.map line)) = l.countP p := by
  rw [hf.apply_sum, List.map_map]
  induction l with
  | nil => rfl
  | cons a l ih =>
    rw [List.forall_mem_cons] at h
    rw [List.map_cons, List.sum_cons, ih h.2, Function.comp_apply, h.1, List.countP_cons]
    simp only [decide_eq_true_eq]
    omega

/-- A counter that is nowhere above another one is not above it in the sum. -/
theorem IsAdditive.sum_le_sum (hf : IsAdditive f) (hg : IsAdditive g) {line : α → Counters}
    {l : List α} (h : ∀ a ∈ l, f (line a) ≤ g (line a)) :
    f (.sum (l.map line)) ≤ g (.sum (l.map line)) := by
  rw [hf.apply_sum, hg.apply_sum, List.map_map, List.map_map]
  exact List.sum_le_sum h

/-- A counter that is one at most on each element is at most the number of elements. -/
theorem IsAdditive.sum_le_length (hf : IsAdditive f) {line : α → Counters} {l : List α}
    (h : ∀ a ∈ l, f (line a) ≤ 1) : f (.sum (l.map line)) ≤ l.length := by
  calc f (.sum (l.map line)) = (l.map (f ∘ line)).sum := by rw [hf.apply_sum, List.map_map]
    _ ≤ (l.map fun _ => 1).sum := List.sum_le_sum h
    _ = l.length := by simp

/-- The parts of a sum can be split in two. -/
theorem sum_append (as bs : List Counters) : sum (as ++ bs) = (sum as).add (sum bs) := by
  apply eq_of_isAdditive
  intro f hf
  rw [hf.add, hf.apply_sum, hf.apply_sum, hf.apply_sum, List.map_append, List.sum_append]

/-- The order of the parts of a sum does not matter. -/
theorem sum_eq_of_perm {as bs : List Counters} (h : as.Perm bs) : sum as = sum bs := by
  apply eq_of_isAdditive
  intro f hf
  rw [hf.apply_sum, hf.apply_sum, (h.map f).sum_eq]

end Sums

end Counters

/-! ## Counted lines -/

namespace Statistics

/-- A number that a line of padding has none of is the same on the counted lines as on all
    lines together. -/
theorem sum_map_solidLines {f : Text → Nat}
    (h : ∀ line, Paragraph.isSolid line = false → f line = 0) (text : Text) :
    ((solidLines text).map f).sum = ((Text.lines text).map f).sum := by
  rw [solidLines]
  induction Text.lines text with
  | nil => rfl
  | cons line rest ih =>
    rw [List.map_cons, List.sum_cons, ← ih]
    by_cases hsolid : Paragraph.isSolid line = true
    · rw [List.filter_cons_of_pos hsolid, List.map_cons, List.sum_cons]
    · -- The line is skipped, and nothing of it is missing in the sum.
      rw [List.filter_cons_of_neg hsolid, h line (Bool.eq_false_iff.mpr hsolid), Nat.zero_add]

end Statistics
end Tagdown
