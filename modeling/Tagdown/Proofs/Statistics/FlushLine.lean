/-
  Tagdown.Proofs.Statistics.FlushLine

  Texts of flush lines: lines that start with a visible character. Each of them
  is counted, so the counters of the text are the sum over its lines
  (`countersOf_joinLines`). All of them are written, so the text is one paragraph
  (`count_joinLines`).
-/

import Tagdown.Proofs.Statistics.ParagraphRuns

namespace Tagdown

namespace Text

/-- The text is one line and starts with a character that is not padding. -/
def IsFlush (t : Text) : Prop :=
  '\n' ∉ t ∧ ∃ c rest, t = c :: rest ∧ isPadding c = false

end Text

/-! ## Paragraphs -/

namespace Paragraph

theorem isWrittenLine_of_isFlush {t : Text} (h : Text.IsFlush t) : IsWrittenLine t := by
  obtain ⟨hfeed, c, rest, rfl, hc⟩ := h
  refine ⟨hfeed, ?_⟩
  rw [isWritten, List.any_cons, isBlank_of_not_isPadding hc]
  rfl

theorem isSolid_of_isFlush {t : Text} (h : Text.IsFlush t) : isSolid t = true := by
  obtain ⟨-, c, rest, rfl, hc⟩ := h
  exact isSolid_iff.mpr ⟨c, List.mem_cons_self, hc⟩

/-- Flush lines are one paragraph, no line is none. -/
theorem count_joinLines {ts : List Text} (h : ∀ t ∈ ts, Text.IsFlush t) :
    count (Text.joinLines ts) = if ts = [] then 0 else 1 := by
  rw [count_joinLines_of_written fun t ht => isWrittenLine_of_isFlush (h t ht)]
  cases ts with
  | nil => rfl
  | cons t ts =>
    rw [List.any_cons, isSolid_of_isFlush (h t List.mem_cons_self)]
    rfl

end Paragraph

/-! ## Counters -/

namespace Statistics

/-- Every flush line is counted. -/
theorem solidLines_joinLines {ts : List Text} (h : ∀ t ∈ ts, Text.IsFlush t) :
    solidLines (Text.joinLines ts) = ts := by
  by_cases hne : ts = []
  · rw [hne]
    rfl
  · rw [solidLines, Text.lines_joinLines hne fun t ht => (h t ht).1, List.filter_eq_self]
    intro t ht
    exact Paragraph.isSolid_of_isFlush (h t ht)

/-- The counters of flush lines are the sum over the lines. -/
theorem countersOf_joinLines {ts : List Text} (h : ∀ t ∈ ts, Text.IsFlush t) :
    countersOf (Text.joinLines ts) =
      .sum (ts.map fun line => Line.counters (Text.trimLine line)) := by
  rw [countersOf, solidLines_joinLines h]

end Statistics
end Tagdown
