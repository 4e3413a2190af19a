/-
  Tagdown.Proofs.Statistics.Bounds

  Bounds on the statistics of a text by its counted lines and by its characters
  (`Statistics.structure_bounds_counts`).

  The first character of a line decides which kind it can be of, and no character starts two
  kinds (`Line.starts_le_one`), so a counted line is counted once at most. A paragraph is a run
  of lines with a counted line in it, and every counted line stands in such a run; so there are
  no more paragraphs than counted lines, and none only where there is no counted line
  (`Paragraph.count_eq_zero_iff`).
-/

import Tagdown.Proofs.Statistics.BlockLine
import Tagdown.Proofs.Statistics.Extent
import Tagdown.Proofs.Statistics.Packing

namespace Tagdown

/-! ## Kinds of lines -/

namespace Line

/-- The character can start a list item: it is a bullet or a digit. -/
def startsItem (c : Char) : Bool :=
  c == '-' || c == '*' || c == '+' || Text.isDecimalDigit c

theorem headings_le_start (c : Char) (rest : Text) :
    (counters (c :: rest)).headings.toList.sum ≤ (c == '#').toNat := by
  by_cases hc : c = '#'
  · subst hc
    rw [counters]
    cases headingLevel? ('#' :: rest) with
    | none => exact Nat.zero_le 1
    | some level => exact HeadingCounts.sum_toList_single_le_one level
  · simp only [counters, headingLevel?_of_head_ne hc, HeadingCounts.sum_toList_zero]
    exact Nat.zero_le _

theorem listItems_le_start (c : Char) (rest : Text) :
    (counters (c :: rest)).listItems ≤ (startsItem c).toNat := by
  show (isListItem (c :: rest)).toNat ≤ _
  cases hc : startsItem c with
  | true => exact Bool.toNat_le _
  | false =>
    -- Neither a bullet, which `hc.1` says, nor a digit.
    rw [startsItem, Bool.or_eq_false_iff] at hc
    rw [isListItem, isBulletItem, hc.1, isNumberedItem_of_head hc.2]
    exact Nat.le_refl 0

theorem codeFences_le_start (c : Char) (rest : Text) :
    (counters (c :: rest)).codeFences ≤ (c == Char.ofNat 0x60).toNat := by
  show (isCodeFence (c :: rest)).toNat ≤ _
  by_cases hc : c = Char.ofNat 0x60
  · rw [hc]
    exact Bool.toNat_le _
  · rw [isCodeFence_of_head hc]
    exact Nat.zero_le _

/-- No character starts lines of two kinds. -/
theorem starts_le_one (c : Char) :
    (c == '#').toNat + (startsItem c).toNat + (c == '>').toNat + (c == Char.ofNat 0x60).toNat ≤ 1 := by
  by_cases hhash : c = '#'
  · rw [hhash]
    decide
  by_cases hquote : c = '>'
  · rw [hquote]
    decide
  by_cases hfence : c = Char.ofNat 0x60
  · rw [hfence]
    decide
  -- Any other character starts a list item or a line of no kind.
  rw [beq_eq_false_iff_ne.mpr hhash, beq_eq_false_iff_ne.mpr hquote, beq_eq_false_iff_ne.mpr hfence]
  have hitem := Bool.toNat_le (startsItem c)
  simpa using hitem

/-- The kinds of a line exclude each other. -/
theorem blocks_le_one (line : Text) : (counters line).blocks ≤ 1 := by
  cases line with
  | nil => decide
  | cons c rest =>
    have hheading := headings_le_start c rest
    have hitem := listItems_le_start c rest
    have hquote : (counters (c :: rest)).quotes = (c == '>').toNat := rfl
    have hfence := codeFences_le_start c rest
    have hone := starts_le_one c
    rw [Counters.blocks]
    omega

end Line

/-! ## Matches -/

namespace Pattern

/-- The shortest link is `[]()`. -/
theorem length_link_le {t rest : Text} (h : link.rest? t = some rest) :
    rest.length + 4 ≤ t.length := by
  obtain ⟨label, target, rfl, htarget, hrest⟩ := afterLink?_eq_some_iff.mp h
  -- Each of the two closing marks takes a character, and so does what opens each part.
  have hlabel := Text.after?_length_lt htarget
  have hend := Text.after?_length_lt hrest
  rw [List.length_cons] at hlabel ⊢
  omega

/-- The shortest image is `![]()`. -/
theorem length_image_le {t rest : Text} (h : image.rest? t = some rest) :
    rest.length + 5 ≤ t.length := by
  have himage : afterImage? t = some rest := h
  unfold afterImage? at himage
  split at himage
  · have hlink := length_link_le himage
    rw [List.length_cons]
    omega
  · cases himage

end Pattern

/-! ## Paragraphs -/

namespace Paragraph

/-- Each paragraph has a counted line of its own. -/
theorem count_le_length_solidLines (text : Text) :
    count text ≤ (Statistics.solidLines text).length := by
  rw [count_eq_countP_maximalRuns, Statistics.solidLines, ← List.countP_eq_length_filter]
  exact countP_any_maximalRuns_le isWritten isSolid _

/-- A counted line belongs to a paragraph. -/
theorem count_eq_zero_iff (text : Text) : count text = 0 ↔ Statistics.solidLines text = [] := by
  constructor
  · intro hzero
    rw [Statistics.solidLines, List.filter_eq_nil_iff]
    intro line hline hsolid
    -- The run that the line stands in would be a paragraph.
    obtain ⟨body, hbody, hmem⟩ := exists_mem_maximalRuns hline (isWritten_of_isSolid hsolid)
    rw [count_eq_countP_maximalRuns, List.countP_eq_zero] at hzero
    exact hzero body hbody (List.any_eq_true.mpr ⟨line, hmem, hsolid⟩)
  · intro hnil
    have hle := count_le_length_solidLines text
    rw [hnil] at hle
    exact Nat.le_zero.mp hle

end Paragraph

/-! ## Texts -/

namespace Statistics

/-- Each counted line has a character. -/
theorem length_solidLines_le (text : Text) : (solidLines text).length ≤ text.length := by
  have hne : ∀ line ∈ solidLines text, 1 ≤ line.length := by
    intro line hline
    obtain ⟨c, hc, -⟩ := Paragraph.isSolid_iff.mp (List.mem_filter.mp hline).2
    exact List.length_pos_of_mem hc
  calc (solidLines text).length = ((solidLines text).map fun _ => 1).sum := by simp
    _ ≤ ((solidLines text).map List.length).sum := List.sum_le_sum hne
    _ ≤ text.length := sum_length_solidLines_le text

theorem blocks_le_length_solidLines (text : Text) :
    (countersOf text).blocks ≤ (solidLines text).length :=
  Counters.isAdditive_blocks.sum_le_length fun line _ => Line.blocks_le_one (Text.trimLine line)

theorem four_mul_links_le_length (text : Text) : 4 * (countersOf text).links ≤ text.length :=
  countersOf_le_length (Counters.isAdditive_links.times 4)
    (fun line _ => Pattern.link.mul_count_le_length (fun _ _ => Pattern.length_link_le) line) text

theorem five_mul_images_le_length (text : Text) : 5 * (countersOf text).images ≤ text.length :=
  countersOf_le_length (Counters.isAdditive_images.times 5)
    (fun line _ => Pattern.image.mul_count_le_length (fun _ _ => Pattern.length_image_le) line) text

/-- A text without counted lines has nothing to count. -/
theorem countersOf_eq_zero {text : Text} (h : solidLines text = []) : countersOf text = .zero := by
  rw [countersOf, h]
  rfl

/-- **The structure of a text bounds its statistics.** A counted line has one kind at most and
    belongs to one paragraph at most, a link takes four characters and an image five. A text has
    no paragraph only if it has no counted line, and then nothing else is counted, so the average
    is that of the words whenever there are words. No count is above the number of characters,
    and where that fits in 64 bits no sum of the headings is cut off. -/
theorem structure_bounds_counts (text : Text) :
    let s := ofText text
    let retained := (solidLines text).length
    (s.headings.total ≤ s.headings.toList.sum ∧
      s.headings.toList.sum + s.listItems + s.quotes + s.codeFences ≤ retained ∧
      s.paragraphs ≤ retained) ∧
    (4 * s.links ≤ text.length ∧ 5 * s.images ≤ text.length ∧ s.words ≤ text.length) ∧
    (s.paragraphs = 0 ↔ retained = 0) ∧
    (s.paragraphs = 0 → s.toCounters = .zero) ∧
    (s.words ≠ 0 → s.wordsPerParagraph =
      ((Binary64.ofNat s.words).div (.ofNat s.paragraphs)).roundToTenth) ∧
    (∀ n ∈ s.headings.toList.sum :: s.counts, n ≤ text.length) ∧
    (text.length < wordLimit → s.headings.total = s.headings.toList.sum) := by
  intro s retained
  have hblocks : s.headings.toList.sum + s.listItems + s.quotes + s.codeFences ≤ retained :=
    blocks_le_length_solidLines text
  have hretained : retained ≤ text.length := length_solidLines_le text
  have hcounts := counts_le_length text
  have htotal := s.headings.total_eq
  have hempty : s.paragraphs = 0 → s.toCounters = .zero := fun hzero =>
    countersOf_eq_zero ((Paragraph.count_eq_zero_iff text).mp hzero)
  refine ⟨⟨?_, hblocks, Paragraph.count_le_length_solidLines text⟩,
    ⟨four_mul_links_le_length text, five_mul_images_le_length text, ?_⟩, ?_, hempty, ?_, ?_, ?_⟩
  · rw [htotal]
    exact Nat.mod_le _ _
  · exact hcounts s.words List.mem_cons_self
  · exact (Paragraph.count_eq_zero_iff text).trans List.length_eq_zero_iff.symm
  · intro hwords
    -- Without a paragraph there would be no word.
    have hparagraphs : s.paragraphs ≠ 0 := fun hzero =>
      hwords (congrArg Counters.words (hempty hzero))
    rw [wordsPerParagraph, if_neg hparagraphs]
  · rw [List.forall_mem_cons]
    exact ⟨by omega, hcounts⟩
  · intro hsize
    rw [htotal, Nat.mod_eq_of_lt (by omega)]

/-- A text with nothing but a byte order mark and blanks, and one with a heading. -/
theorem structure_bounds_mark_and_heading :
    let blank := ofText "\uFEFF \n ".toList
    let written := ofText "# A".toList
    (blank.paragraphs = 0 ∧ blank.toCounters = .zero) ∧
    (written.words ≠ 0 ∧ written.wordsPerParagraph =
      ((Binary64.ofNat written.words).div (.ofNat written.paragraphs)).roundToTenth) ∧
    ("# A".toList.length < wordLimit ∧ written.headings.total = 1) := by
  intro blank written
  obtain ⟨-, -, hparagraphs, hempty, -, -, -⟩ := structure_bounds_counts "\uFEFF \n ".toList
  obtain ⟨-, -, -, -, haverage, -, htotal⟩ := structure_bounds_counts "# A".toList
  have hzero : blank.paragraphs = 0 := hparagraphs.mpr (by decide)
  have hwords : written.words ≠ 0 := by decide +kernel
  have hsize : "# A".toList.length < wordLimit := by decide
  exact ⟨⟨hzero, hempty hzero⟩, ⟨hwords, haverage hwords⟩, hsize, (htotal hsize).trans (by decide)⟩

end Statistics
end Tagdown
