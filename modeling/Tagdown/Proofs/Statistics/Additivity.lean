/-
  Tagdown.Proofs.Statistics.Additivity

  The statistics of a text in two parts. The line counters of texts that meet in a
  line feed are the sums of theirs, and they do not depend on the order of the
  lines. The paragraphs of texts that meet in an empty line are those of both,
  whatever blank lines end the first text or start the second.
-/

import Tagdown.Proofs.Statistics.Counters
import Tagdown.Proofs.Statistics.ParagraphRuns

namespace Tagdown

/-! ## Line counters -/

namespace Statistics

/-- The lines that are counted are those of both texts. -/
theorem solidLines_append_feed (a b : Text) :
    solidLines (a ++ '\n' :: b) = solidLines a ++ solidLines b := by
  rw [solidLines, Text.lines_append_feed, List.filter_append]
  rfl

theorem countersOf_append_feed (a b : Text) :
    countersOf (a ++ '\n' :: b) = (countersOf a).add (countersOf b) := by
  rw [countersOf, solidLines_append_feed, List.map_append, Counters.sum_append]
  rfl

/-- The counters do not depend on the order of the lines. -/
theorem countersOf_eq_of_perm {a b : Text} (h : (Text.lines a).Perm (Text.lines b)) :
    countersOf a = countersOf b :=
  Counters.sum_eq_of_perm ((h.filter _).map _)

end Statistics

/-! ## Paragraphs -/

namespace Paragraph

/-- An empty line between two texts separates their runs of written lines. -/
theorem count_append_feed_feed (a b : Text) :
    count (a ++ '\n' :: '\n' :: b) = count a + count b := by
  have hlines : Text.lines (a ++ '\n' :: '\n' :: b) = Text.lines a ++ [] :: Text.lines b := by
    rw [Text.lines_append_feed]
    exact congrArg _ (Text.lines_append_feed [] b)
  have hgap : isWritten [] = false := rfl
  rw [count_eq_countP_maximalRuns, hlines, maximalRuns_append_cons hgap, List.countP_append,
    ← count_eq_countP_maximalRuns, ← count_eq_countP_maximalRuns]

end Paragraph

/-! ## Statistics -/

namespace Statistics

/-- **The statistics add up.** A line feed between two texts adds each of their line
    counters, an empty line their paragraphs, and texts with the same lines in any
    order have the same line counters. -/
theorem ofText_adds_up (a b : Text) :
    let s := ofText a
    let s' := ofText b
    let joined := ofText (a ++ '\n' :: b)
    joined.words = s.words + s'.words ∧
    (∀ level, joined.headings.count level = s.headings.count level + s'.headings.count level) ∧
    joined.links = s.links + s'.links ∧
    joined.images = s.images + s'.images ∧
    joined.listItems = s.listItems + s'.listItems ∧
    joined.quotes = s.quotes + s'.quotes ∧
    joined.codeFences = s.codeFences + s'.codeFences ∧
    (ofText (a ++ '\n' :: '\n' :: b)).paragraphs = s.paragraphs + s'.paragraphs ∧
    ((Text.lines a).Perm (Text.lines b) → s.toCounters = s'.toCounters) := by
  intro s s' joined
  have hjoined : joined.toCounters = s.toCounters.add s'.toCounters := countersOf_append_feed a b
  refine ⟨?_, fun level => ?_, ?_, ?_, ?_, ?_, ?_, ?_, ?_⟩
  · exact congrArg Counters.words hjoined
  · have hheadings := congrArg Counters.headings hjoined
    rw [hheadings]
    exact HeadingCounts.count_add s.headings s'.headings level
  · exact congrArg Counters.links hjoined
  · exact congrArg Counters.images hjoined
  · exact congrArg Counters.listItems hjoined
  · exact congrArg Counters.quotes hjoined
  · exact congrArg Counters.codeFences hjoined
  · exact Paragraph.count_append_feed_feed a b
  · exact countersOf_eq_of_perm

/-- The lines of a heading and a list item in either order. -/
theorem ofText_adds_up_swapped :
    let a := "# T\n- x".toList
    let b := "- x\n# T".toList
    (Text.lines a).Perm (Text.lines b) ∧ (ofText a).toCounters = (ofText b).toCounters ∧
      (ofText (a ++ '\n' :: b)).listItems = 2 := by
  intro a b
  have hperm : (Text.lines a).Perm (Text.lines b) := by decide
  obtain ⟨-, -, -, -, hlistItems, -, -, -, horder⟩ := ofText_adds_up a b
  exact ⟨hperm, horder hperm, hlistItems.trans (by decide)⟩

end Statistics
end Tagdown
