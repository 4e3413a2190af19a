/-
  Tagdown.Proofs.Statistics.Words

  Words as stretches of a line. The marks of markdown are dropped from a line before it is
  cut at its blanks. No mark is a blank (`Line.isBlank_of_isWordMark`), so the cuts are those
  of the line with its marks: a word is what is left of a maximal run of characters that are
  not blank, if something is left of it (`Line.words_unmarked`). So two words never become
  one, no word becomes two, and marks alone are no word.

  `Line.exists_words` lists the runs of which a word is left, and all else is read off that
  list. Words can be counted without dropping anything: they are the runs that hold more than
  marks (`Line.wordCount_eq_ncard`).
-/

import Tagdown.Proofs.Statistics.Occurrences
import Tagdown.Proofs.Statistics.Ratios

namespace Tagdown

/-! ## Runs of a text -/

namespace Text

theorem runs_eq_maximalRuns (keep : Char → Bool) (t : Text) : runs keep t = maximalRuns keep t := by
  fun_induction runs keep t with
  | case1 => rw [maximalRuns]
  | case2 c rest hc ih => rw [maximalRuns, if_pos hc, ih]
  | case3 c rest hc ih => rw [maximalRuns, if_neg hc, ih]

end Text

/-! ## Words of a line -/

namespace Line

/-- The line without its markdown marks. -/
def unmarked (line : Text) : Text :=
  line.filter (!isWordMark ·)

/-- The stretch is a word of the line: a maximal run of characters that are not blank, at
    least one of which is no markdown mark. -/
structure IsWord (line : Text) (s : Stretch Char) : Prop where
  run : IsMaximalRun (!Text.isBlank ·) line s
  kept : ∃ c ∈ s.body, isWordMark c = false

theorem isWord_iff {line : Text} {s : Stretch Char} :
    IsWord line s ↔ IsMaximalRun (!Text.isBlank ·) line s ∧ s.body.any (!isWordMark ·) = true := by
  simp only [List.any_eq_true, Bool.not_eq_true']
  exact ⟨fun h => ⟨h.run, h.kept⟩, fun h => ⟨h.1, h.2⟩⟩

/-- Every mark is a formatting character, and none of these is padding. -/
theorem isBlank_of_isWordMark {c : Char} (h : isWordMark c = true) : Text.isBlank c = false := by
  have hformatting : Statistics.isFormatting c = true := by
    rw [Statistics.isFormatting, h, Bool.true_or, Bool.true_or]
  exact Paragraph.isBlank_of_not_isPadding (Statistics.isPadding_of_isFormatting hformatting)

/-- The words of a line without its marks are what is left of the runs that hold more than
    marks. -/
theorem words_unmarked (line : Text) :
    Text.words (unmarked line) =
      ((maximalRuns (!Text.isBlank ·) line).filter (·.any (!isWordMark ·))).map unmarked := by
  -- What ends a run is a blank and so no mark: it is still there when the marks are dropped.
  have hgaps : ∀ c, (!Text.isBlank c) = false → (!isWordMark c) = true := by
    intro c hc
    cases hmark : isWordMark c with
    | false => rfl
    | true =>
      rw [isBlank_of_isWordMark hmark] at hc
      cases hc
  rw [Text.words, Text.runs_eq_maximalRuns]
  exact maximalRuns_filter hgaps line

/-- The words that are counted on a line stand in it, one behind the other, with marks among
    their characters. -/
theorem exists_words (line : Text) :
    ∃ found : List (Stretch Char), found.Pairwise Stretch.StartsBefore ∧
      (∀ s, s ∈ found ↔ IsWord line s) ∧
      Text.words (unmarked line) = found.map (fun s => unmarked s.body) ∧
      wordCount line = found.length := by
  obtain ⟨stretches, horder, hmem, hmap⟩ := exists_stretches (!Text.isBlank ·) line
  -- Of the runs, which keep their places, those of marks alone are left out.
  let found := stretches.filter (·.body.any (!isWordMark ·))
  have hfound : ∀ s, s ∈ found ↔ IsWord line s := by
    intro s
    rw [List.mem_filter, hmem, isWord_iff]
  have hwords : Text.words (unmarked line) = found.map fun s => unmarked s.body := by
    rw [words_unmarked, ← hmap, List.filter_map, List.map_map]
    rfl
  have hcount : wordCount line = found.length := by
    calc wordCount line = (Text.words (unmarked line)).length := rfl
      _ = found.length := by rw [hwords, List.length_map]
  exact ⟨found, horder.filter _, hfound, hwords, hcount⟩

theorem wordCount_eq_ncard (line : Text) : wordCount line = {s | IsWord line s}.ncard := by
  obtain ⟨found, horder, hmem, -, hcount⟩ := exists_words line
  rw [hcount, ncard_of_startsBefore horder hmem]

end Line

/-! ## Texts -/

namespace Statistics

/-- **Words are runs that hold more than marks.** A text has as many words as its trimmed lines
    have maximal runs of characters that are not blank, those of marks alone left out. What is
    counted on a line, after the marks are dropped and the rest is cut at its blanks, is these
    runs one by one from left to right, each without its marks. -/
theorem words_eq_sum_ncard_isWord (text : Text) :
    (ofText text).words =
        ((Text.lines text).map fun line => {s | Line.IsWord (Text.trimLine line) s}.ncard).sum ∧
      ∀ line : Text, ∃ found : List (Stretch Char), found.Pairwise Stretch.StartsBefore ∧
        (∀ s, s ∈ found ↔ Line.IsWord line s) ∧
        Text.words (Line.unmarked line) = found.map (fun s => Line.unmarked s.body) ∧
        (Line.counters line).words = found.length := by
  refine ⟨?_, Line.exists_words⟩
  -- A line of padding is skipped; trimmed it is empty and has no word either.
  have hnil : (Line.counters []).words = 0 := by
    simp [Line.counters, Line.wordCount, Text.words, Text.runs]
  calc (ofText text).words
      = ((Text.lines text).map fun line => Line.wordCount (Text.trimLine line)).sum :=
        apply_countersOf Counters.isAdditive_words hnil text
    _ = ((Text.lines text).map fun line => {s | Line.IsWord (Text.trimLine line) s}.ncard).sum := by
        simp only [Line.wordCount_eq_ncard]

-- Marks inside a word do not split it. Marks alone are none, and a byte order mark at the edge
-- of a line does not make them one.
example : (ofText "\uFEFF* a-b ** (c)d\n--".toList).words = 2 := by decide +kernel

end Statistics
end Tagdown
