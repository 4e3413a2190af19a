/-
  Tagdown.Proofs.Statistics.Extent

  How large the statistics of a text can be. No count is above the number of its
  characters (`Statistics.counts_le_length`): whatever is counted has a character of its
  own. The formatting characters are a part of the text, so both ratios are tenths of a
  percent from zero to one hundred (`Statistics.isTenth_ratios_ofText`).
-/

import Tagdown.Proofs.Numeric.Order
import Tagdown.Proofs.Report.RoundTrip
import Tagdown.Proofs.Statistics.Counters
import Tagdown.Proofs.Statistics.ParagraphRuns

namespace Tagdown

/-! ## Lengths -/

namespace Text

/-- The pieces of a cut text have no more characters than the text. -/
theorem sum_length_splitOn_le (sep : Char) (t : Text) :
    ((splitOn sep t).map List.length).sum ≤ t.length := by
  induction t with
  | nil => rfl
  | cons c rest ih =>
    rw [splitOn]
    obtain ⟨first, more, hpieces⟩ := List.exists_cons_of_ne_nil (splitOn_ne_nil sep rest)
    rw [hpieces] at ih ⊢
    by_cases hc : c = sep
    · simp only [hc, if_true, List.map_cons, List.sum_cons, List.length_nil] at ih ⊢
      rw [List.length_cons]
      omega
    · simp only [hc, if_false, List.modifyHead_cons, List.map_cons, List.sum_cons,
        List.length_cons] at ih ⊢
      omega

theorem length_trimBy_le (p : Char → Bool) (t : Text) : (trimBy p t).length ≤ t.length := by
  rw [trimBy, dropEndWhile, List.length_reverse]
  have hend := (List.dropWhile_suffix p (l := (t.dropWhile p).reverse)).length_le
  have hstart := (List.dropWhile_suffix p (l := t)).length_le
  rw [List.length_reverse] at hend
  omega

theorem length_runs_le (keep : Char → Bool) (t : Text) : (runs keep t).length ≤ t.length := by
  fun_induction runs keep t with
  | case1 => exact Nat.le_refl 0
  | case2 c rest _ ih =>
    have hrest := (List.dropWhile_suffix keep (l := rest)).length_le
    rw [List.length_cons, List.length_cons]
    omega
  | case3 c rest _ ih =>
    rw [List.length_cons]
    omega

/-- Every character takes at least a byte. -/
theorem length_le_utf8Size (t : Text) : t.length ≤ utf8Size t := by
  induction t with
  | nil => exact Nat.le_refl 0
  | cons c rest ih =>
    have hc := c.utf8Size_pos
    have hsize : utf8Size (c :: rest) = c.utf8Size + utf8Size rest := rfl
    rw [hsize, List.length_cons]
    omega

/-- Every character takes one or two units. -/
theorem length_le_units16 (t : Text) : t.length ≤ units16 t ∧ units16 t ≤ 2 * t.length := by
  induction t with
  | nil => exact ⟨Nat.le_refl 0, Nat.le_refl 0⟩
  | cons c rest ih =>
    have hsize : units16 (c :: rest) = units16OfChar c + units16 rest := rfl
    have hc : 1 ≤ units16OfChar c ∧ units16OfChar c ≤ 2 := by
      rw [units16OfChar]
      split <;> decide
    rw [hsize, List.length_cons]
    omega

end Text

/-! ## Line counters -/

namespace Pattern

/-- Matches of at least `size` characters, one behind the other, need that many each. -/
theorem mul_count_le_length (p : Pattern) {size : Nat}
    (h : ∀ t rest, p.rest? t = some rest → rest.length + size ≤ t.length) (t : Text) :
    size * p.count t ≤ t.length := by
  fun_induction count p t with
  | case1 => exact Nat.le_refl 0
  | case2 c rest after hafter ih =>
    have htaken := h _ _ hafter
    rw [Nat.mul_succ]
    omega
  | case3 c rest _ ih =>
    rw [List.length_cons]
    omega

/-- A match takes at least one character. -/
theorem count_le_length (p : Pattern) (t : Text) : p.count t ≤ t.length := by
  have hone : 1 * p.count t ≤ t.length := p.mul_count_le_length (fun _ _ => p.length_lt) t
  omega

end Pattern

namespace Line

theorem wordCount_le_length (line : Text) : wordCount line ≤ line.length :=
  (Text.length_runs_le _ _).trans (List.length_filter_le _ _)

theorem count_headings_le_one (line : Text) {level : Nat} (hlow : 1 ≤ level) (hhigh : level ≤ 6) :
    (counters line).headings.count level ≤ 1 := by
  rw [counters]
  cases headingLevel? line with
  | none =>
    show HeadingCounts.zero.count level ≤ 1
    rw [HeadingCounts.count_zero]
    exact Nat.zero_le 1
  | some found =>
    show (HeadingCounts.single found).count level ≤ 1
    rw [HeadingCounts.count_single hlow hhigh]
    split <;> decide

end Line

namespace Statistics

variable {f : Counters → Nat} {text : Text}

theorem sum_length_solidLines_le (text : Text) :
    ((solidLines text).map List.length).sum ≤ text.length := by
  have hall : ((solidLines text).map List.length).sum ≤ ((Text.lines text).map List.length).sum :=
    (List.filter_sublist.map _).sum_le_sum fun _ _ => Nat.zero_le _
  exact hall.trans (Text.sum_length_splitOn_le _ text)

/-- A counter that is never above the length of a line is not above that of the text. -/
theorem countersOf_le_length (hf : Counters.IsAdditive f)
    (h : ∀ line : Text, line ≠ [] → f (Line.counters line) ≤ line.length) (text : Text) :
    f (countersOf text) ≤ text.length := by
  have hline : ∀ line ∈ solidLines text, f (Line.counters (Text.trimLine line)) ≤ line.length := by
    intro line hline
    have hsolid := (List.mem_filter.mp hline).2
    rw [Paragraph.isSolid, Bool.not_eq_true', List.isEmpty_eq_false_iff] at hsolid
    exact (h _ hsolid).trans (Text.length_trimBy_le _ line)
  calc f (countersOf text) = ((solidLines text).map fun line =>
          f (Line.counters (Text.trimLine line))).sum := by
        rw [countersOf, hf.apply_sum, List.map_map]
        rfl
    _ ≤ ((solidLines text).map List.length).sum := List.sum_le_sum hline
    _ ≤ text.length := sum_length_solidLines_le text

/-- What is counted once a line is not above the length of the text. -/
theorem countersOf_le_length_of_le_one (hf : Counters.IsAdditive f)
    (h : ∀ line : Text, f (Line.counters line) ≤ 1) (text : Text) :
    f (countersOf text) ≤ text.length :=
  countersOf_le_length hf (fun line hne => (h line).trans (List.length_pos_iff.mpr hne)) text

/-- A piece that is solid has a character of its own. -/
theorem paragraphs_le_length (text : Text) : Paragraph.count text ≤ text.length := by
  rw [Paragraph.count]
  have hempty : Paragraph.isSolid [] = false := rfl
  fun_induction Paragraph.pieces text with
  | case1 => exact Nat.le_refl 0
  | case2 c rest after hafter ih =>
    have hshorter := Paragraph.afterBreak?_length_lt hafter
    rw [List.countP_cons_of_neg (by rw [hempty]; decide), List.length_cons]
    omega
  | case3 c rest _ ih =>
    cases hpieces : Paragraph.pieces rest with
    | nil => exact Nat.zero_le _
    | cons first more =>
      rw [hpieces, List.countP_cons] at ih
      rw [List.modifyHead_cons, List.countP_cons, List.length_cons]
      split <;> omega

/-- No count is above the number of characters. -/
theorem counts_le_length (text : Text) : ∀ n ∈ (ofText text).counts, n ≤ text.length := by
  have hheading : ∀ level, 1 ≤ level → level ≤ 6 →
      (countersOf text).headings.count level ≤ text.length := fun level hlow hhigh =>
    countersOf_le_length_of_le_one (Counters.isAdditive_headings level)
      (fun line => Line.count_headings_le_one line hlow hhigh) text
  have htoNat : ∀ b : Bool, b.toNat ≤ 1 := Bool.toNat_le
  -- One goal a count, in the order in which they are listed.
  simp only [counts, HeadingCounts.toList, List.cons_append, List.nil_append, List.forall_mem_cons]
  refine ⟨?_, ?_, ?_, ?_, ?_, ?_, ?_, hheading 1 (by decide) (by decide),
    hheading 2 (by decide) (by decide), hheading 3 (by decide) (by decide),
    hheading 4 (by decide) (by decide), hheading 5 (by decide) (by decide),
    hheading 6 (by decide) (by decide), List.forall_mem_nil _⟩
  · exact countersOf_le_length Counters.isAdditive_words
      (fun line _ => Line.wordCount_le_length line) text
  · exact paragraphs_le_length text
  · exact countersOf_le_length Counters.isAdditive_links
      (fun line _ => Pattern.link.count_le_length line) text
  · exact countersOf_le_length Counters.isAdditive_images
      (fun line _ => Pattern.image.count_le_length line) text
  · exact countersOf_le_length_of_le_one Counters.isAdditive_listItems (fun _ => htoNat _) text
  · exact countersOf_le_length_of_le_one Counters.isAdditive_quotes (fun _ => htoNat _) text
  · exact countersOf_le_length_of_le_one Counters.isAdditive_codeFences (fun _ => htoNat _) text

/-! ## Ratios -/

theorem formattingCount_le_length (text : Text) : formattingCount text ≤ text.length := by
  have hline : ∀ line ∈ solidLines text, line.countP isFormatting ≤ line.length :=
    fun _ _ => List.countP_le_length
  calc formattingCount text = ((solidLines text).map (·.countP isFormatting)).sum := rfl
    _ ≤ ((solidLines text).map List.length).sum := List.sum_le_sum hline
    _ ≤ text.length := sum_length_solidLines_le text

theorem isTenth_ratios {total formatting : Nat} (h : formatting ≤ total)
    (htotal : total < 18014398509481983 * pow2 970) :
    (ratios total formatting).1.IsTenth ∧ (ratios total formatting).2.IsTenth := by
  rw [ratios]
  by_cases hzero : total = 0
  · rw [if_pos hzero]
    exact ⟨Binary64.isTenth_zero, Binary64.isTenth_zero⟩
  · obtain ⟨hplain, hformatting⟩ :=
      Binary64.isTenth_percentages (Nat.pos_of_ne_zero hzero) h htotal
    rw [if_neg hzero]
    dsimp only
    exact ⟨hplain, hformatting⟩

/-- The ratios of a text that fits into memory are tenths. -/
theorem isTenth_ratios_ofText (hsize : Text.utf8Size text < wordLimit) :
    (ofText text).plainRatio.IsTenth ∧ (ofText text).formattingRatio.IsTenth := by
  obtain ⟨hunits, htwice⟩ := Text.length_le_units16 text
  have hlength := Text.length_le_utf8Size text
  have hlimit : 2 * wordLimit ≤ 18014398509481983 * pow2 970 := by
    have hpow : pow2 64 ≤ pow2 970 := pow2_le_pow2 (by decide)
    have hword : wordLimit = pow2 64 := rfl
    omega
  have htotal : Text.units16 text < 18014398509481983 * pow2 970 := by omega
  have hpart := (formattingCount_le_length text).trans hunits
  exact isTenth_ratios hpart htotal

end Statistics
end Tagdown
