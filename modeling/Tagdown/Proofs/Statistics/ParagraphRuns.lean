/-
  Tagdown.Proofs.Statistics.ParagraphRuns

  Paragraphs by lines. A line is written if it has a character that is not blank,
  and the paragraphs of a text are the maximal runs of written lines that hold
  more than padding (`count_eq_countP_maximalRuns`). A line with nothing but a
  byte order mark is written and may stand in a run, but makes no paragraph.

  Between two written lines no break can open, whatever blanks the second starts
  with (`pieces_joinLines_append`). A break swallows all blank lines behind a run
  but the last one of the text, and blanks at the start of what is left never
  count (`count_append_of_blank`), so it does not matter how many it swallows.
-/

import Tagdown.Proofs.Text.Lines
import Tagdown.Proofs.Text.Runs
import Tagdown.Proofs.Text.Trim
import Tagdown.Statistics.Analysis

namespace Tagdown
namespace Paragraph

/-- The line has a character that is not blank. -/
def isWritten (line : Text) : Bool :=
  line.any (!Text.isBlank ·)

/-! ## Solid texts -/

/-- A text is solid if it has a character that is not padding. -/
theorem isSolid_eq_any (t : Text) : isSolid t = t.any (!Text.isPadding ·) := by
  rw [Bool.eq_iff_iff, isSolid, Bool.not_eq_true', List.isEmpty_eq_false_iff, Ne, Text.trimLine,
    Text.trimBy_eq_nil_iff]
  simp

theorem isSolid_iff {t : Text} : isSolid t = true ↔ ∃ c ∈ t, Text.isPadding c = false := by
  rw [isSolid_eq_any, List.any_eq_true]
  simp only [Bool.not_eq_true']

theorem isSolid_append (t u : Text) : isSolid (t ++ u) = (isSolid t || isSolid u) := by
  simp only [isSolid_eq_any, List.any_append]

theorem isPadding_of_isBlank {c : Char} (hc : Text.isBlank c = true) : Text.isPadding c = true := by
  rw [Text.isPadding, hc, Bool.true_or]

theorem isBlank_of_not_isPadding {c : Char} (hc : Text.isPadding c = false) :
    Text.isBlank c = false := by
  rw [Text.isPadding, Bool.or_eq_false_iff] at hc
  exact hc.1

theorem isWritten_of_isSolid {line : Text} (h : isSolid line = true) : isWritten line = true := by
  obtain ⟨c, hc, hpadding⟩ := isSolid_iff.mp h
  rw [isWritten, List.any_eq_true]
  exact ⟨c, hc, by rw [isBlank_of_not_isPadding hpadding]; rfl⟩

theorem isBlank_feed : Text.isBlank '\n' = true := by
  decide

theorem isSolid_of_blank {t : Text} (ht : ∀ c ∈ t, Text.isBlank c = true) : isSolid t = false := by
  rw [isSolid_eq_any, List.any_eq_false]
  intro c hc
  simp [isPadding_of_isBlank (ht c hc)]

/-- Joined lines are solid if one of them is. -/
theorem isSolid_joinLines (ts : List Text) : isSolid (Text.joinLines ts) = ts.any isSolid := by
  have hfeed : isSolid ['\n'] = false := isSolid_of_blank (by simp [isBlank_feed])
  induction ts with
  | nil => rfl
  | cons t ts ih =>
    cases ts with
    | nil => simp
    | cons u us =>
      rw [Text.joinLines_cons_cons, List.append_cons, isSolid_append, isSolid_append, ih, hfeed,
        Bool.or_false]
      rfl

/-! ## Pieces -/

theorem pieces_cons_of_break {c : Char} {rest after : Text}
    (h : afterBreak? c rest = some after) : pieces (c :: rest) = [] :: pieces after := by
  rw [pieces]
  split
  · rename_i found hfound
    rw [h] at hfound
    cases hfound
    rfl
  · rename_i hnone
    rw [h] at hnone
    cases hnone

theorem pieces_cons_of_no_break {c : Char} {rest : Text} (h : afterBreak? c rest = none) :
    pieces (c :: rest) = (pieces rest).modifyHead (c :: ·) := by
  rw [pieces]
  split
  · rename_i after hafter
    rw [h] at hafter
    cases hafter
  · rfl

/-- Before the first line feed no break can start. -/
theorem pieces_append_of_no_feed {line : Text} (hfeed : '\n' ∉ line) (t : Text) :
    pieces (line ++ t) = (pieces t).modifyHead (line ++ ·) := by
  induction line with
  | nil => exact (congrFun List.modifyHead_id (pieces t)).symm
  | cons c line ih =>
    rw [List.mem_cons, not_or] at hfeed
    have hbreak : afterBreak? c (line ++ t) = none := by
      rw [afterBreak?, if_neg (Ne.symm hfeed.1)]
    rw [List.cons_append, pieces_cons_of_no_break hbreak, ih hfeed.2, List.modifyHead_modifyHead]
    rfl

/-- Blanks in front of the first piece do not make it solid. -/
theorem countP_modifyHead_cons {c : Char} (hc : Text.isBlank c = true) (ts : List Text) :
    (ts.modifyHead (c :: ·)).countP isSolid = ts.countP isSolid := by
  cases ts with
  | nil => rfl
  | cons t ts =>
    have hsolid : isSolid (c :: t) = isSolid t := by
      rw [isSolid_eq_any, List.any_cons, isPadding_of_isBlank hc, ← isSolid_eq_any]
      rfl
    rw [List.modifyHead_cons, List.countP_cons, List.countP_cons, hsolid]

/-! ## Blanks at the start -/

/-- The blanks that a break would swallow do not count without it either. -/
theorem count_of_afterLastFeed? {t after : Text} (h : afterLastFeed? t = some after) :
    count t = count after := by
  induction t generalizing after with
  | nil => cases h
  | cons c rest ih =>
    rw [afterLastFeed?] at h
    split at h
    · rename_i hc
      split at h
      · -- The last line feed comes later, so a break that opens here ends at the same place.
        rename_i found hfound
        cases h
        by_cases hfeed : c = '\n'
        · have hbreak : afterBreak? c rest = some after := by rw [afterBreak?, if_pos hfeed, hfound]
          rw [count, pieces_cons_of_break hbreak]
          exact List.countP_cons_of_neg (by decide)
        · have hbreak : afterBreak? c rest = none := by rw [afterBreak?, if_neg hfeed]
          rw [count, pieces_cons_of_no_break hbreak, countP_modifyHead_cons hc]
          exact ih hfound
      · -- This is the last line feed, and a break needs two.
        rename_i hnone
        split at h
        · rename_i hfeed
          cases h
          have hbreak : afterBreak? c rest = none := by rw [afterBreak?, if_pos hfeed, hnone]
          rw [count, pieces_cons_of_no_break hbreak, countP_modifyHead_cons hc]
          rfl
        · cases h
    · cases h

theorem count_cons_of_blank {c : Char} (hc : Text.isBlank c = true) (rest : Text) :
    count (c :: rest) = count rest := by
  cases hbreak : afterBreak? c rest with
  | some after =>
    rw [count, pieces_cons_of_break hbreak, List.countP_cons_of_neg (by decide)]
    rw [afterBreak?] at hbreak
    split at hbreak
    · exact (count_of_afterLastFeed? hbreak).symm
    · cases hbreak
  | none =>
    rw [count, pieces_cons_of_no_break hbreak, countP_modifyHead_cons hc]
    rfl

/-- Blanks at the start of a text do not count. -/
theorem count_append_of_blank {t : Text} (ht : ∀ c ∈ t, Text.isBlank c = true) (rest : Text) :
    count (t ++ rest) = count rest := by
  induction t with
  | nil => rfl
  | cons c t ih =>
    rw [List.forall_mem_cons] at ht
    rw [List.cons_append, count_cons_of_blank ht.1, ih ht.2]

/-! ## Runs of written lines -/

/-- The line is written and has no line feed of its own. -/
def IsWrittenLine (line : Text) : Prop :=
  '\n' ∉ line ∧ isWritten line = true

/-- The blanks that a written line starts with end before its line feed. -/
theorem afterLastFeed?_of_written {line : Text} (h : IsWrittenLine line) (rest : Text) :
    afterLastFeed? (line ++ rest) = none := by
  obtain ⟨hfeed, hwritten⟩ := h
  induction line with
  | nil => cases hwritten
  | cons c line ih =>
    rw [List.mem_cons, not_or] at hfeed
    rw [List.cons_append, afterLastFeed?]
    split
    · rename_i hc
      rw [isWritten, List.any_cons, hc, Bool.not_true, Bool.false_or] at hwritten
      rw [ih hfeed.2 hwritten]
      exact if_neg (Ne.symm hfeed.1)
    · rfl

/-- Between written lines no break can open. -/
theorem pieces_joinLines_append {ts : List Text} (h : ∀ t ∈ ts, IsWrittenLine t) (rest : Text) :
    pieces (Text.joinLines ts ++ rest) = (pieces rest).modifyHead (Text.joinLines ts ++ ·) := by
  induction ts with
  | nil => exact (congrFun List.modifyHead_id (pieces rest)).symm
  | cons t ts ih =>
    have ht := (h t List.mem_cons_self).1
    cases ts with
    | nil =>
      rw [Text.joinLines_singleton]
      exact pieces_append_of_no_feed ht rest
    | cons u us =>
      have hrest := ih fun s hs => h s (List.mem_cons_of_mem t hs)
      obtain ⟨more, hmore⟩ := Text.exists_joinLines_cons u us
      -- Behind the line feed comes a written line, so there is no break.
      have hbreak : afterBreak? '\n' (Text.joinLines (u :: us) ++ rest) = none := by
        rw [afterBreak?, if_pos rfl, hmore, List.append_assoc]
        exact afterLastFeed?_of_written (h u (List.mem_cons_of_mem t List.mem_cons_self)) _
      rw [Text.joinLines_cons_cons, List.append_assoc, pieces_append_of_no_feed ht,
        List.cons_append, pieces_cons_of_no_break hbreak, hrest, List.modifyHead_modifyHead,
        List.modifyHead_modifyHead]
      congr 1
      funext s
      simp

/-- A blank line and the line feed behind it let a break end. -/
theorem exists_afterLastFeed? {t : Text} (ht : ∀ c ∈ t, Text.isBlank c = true) (rest : Text) :
    ∃ after, afterLastFeed? (t ++ '\n' :: rest) = some after := by
  induction t with
  | nil =>
    rw [List.nil_append, afterLastFeed?, if_pos isBlank_feed]
    cases afterLastFeed? rest with
    | some after => exact ⟨after, rfl⟩
    | none => exact ⟨rest, rfl⟩
  | cons c t ih =>
    rw [List.forall_mem_cons] at ht
    obtain ⟨after, hafter⟩ := ih ht.2
    exact ⟨after, by rw [List.cons_append, afterLastFeed?, if_pos ht.1, hafter]⟩

theorem afterLastFeed?_of_no_feed {t : Text} (hfeed : '\n' ∉ t) : afterLastFeed? t = none := by
  induction t with
  | nil => rfl
  | cons c t ih =>
    rw [List.mem_cons, not_or] at hfeed
    rw [afterLastFeed?, ih hfeed.2]
    split
    · exact if_neg (Ne.symm hfeed.1)
    · rfl

theorem count_of_isSolid_append {t u : Text} (hu : isSolid u = false) :
    List.countP isSolid [t ++ u] = (isSolid t).toNat := by
  rw [List.countP_singleton, isSolid_append, hu, Bool.or_false]
  cases isSolid t <;> rfl

/-- Written lines alone are one piece. -/
theorem count_joinLines_of_written {ts : List Text} (h : ∀ t ∈ ts, IsWrittenLine t) :
    count (Text.joinLines ts) = (ts.any isSolid).toNat := by
  have hpieces := pieces_joinLines_append h []
  rw [List.append_nil, pieces, List.modifyHead_cons] at hpieces
  rw [count, hpieces, count_of_isSolid_append rfl, isSolid_joinLines]

/-- Behind a run of written lines a blank line ends the piece, unless it is the last
    line of the text; then nothing comes that could count. -/
theorem count_joinLines_feed {ts : List Text} (h : ∀ t ∈ ts, IsWrittenLine t) {gap : Text}
    (hgap : ∀ c ∈ gap, Text.isBlank c = true) (hfeed : '\n' ∉ gap) (us : List Text) :
    count (Text.joinLines ts ++ '\n' :: Text.joinLines (gap :: us)) =
      (ts.any isSolid).toNat + count (Text.joinLines (gap :: us)) := by
  have hpieces := pieces_joinLines_append h ('\n' :: Text.joinLines (gap :: us))
  rw [count, hpieces, ← isSolid_joinLines]
  cases us with
  | nil =>
    -- No break opens; the piece of the run gets blanks behind it.
    have hone : Text.joinLines [gap] = gap ++ [] := by simp
    have hbreak : afterBreak? '\n' (gap ++ []) = none := by
      rw [afterBreak?, if_pos rfl, List.append_nil, afterLastFeed?_of_no_feed hfeed]
    have hblank : isSolid ('\n' :: (gap ++ [])) = false := by
      apply isSolid_of_blank
      rw [List.append_nil, List.forall_mem_cons]
      exact ⟨isBlank_feed, hgap⟩
    rw [hone, count_append_of_blank hgap, pieces_cons_of_no_break hbreak,
      pieces_append_of_no_feed hfeed, pieces, List.modifyHead_cons, List.modifyHead_cons,
      List.modifyHead_cons, count_of_isSolid_append hblank]
    rw [count, pieces]
    rfl
  | cons u us =>
    -- The break takes the blank line and all blanks behind it.
    rw [Text.joinLines_cons_cons]
    obtain ⟨after, hafter⟩ := exists_afterLastFeed? hgap (Text.joinLines (u :: us))
    have hbreak : afterBreak? '\n' (gap ++ '\n' :: Text.joinLines (u :: us)) = some after := by
      rw [afterBreak?, if_pos rfl, hafter]
    rw [pieces_cons_of_break hbreak, List.modifyHead_cons, ← List.singleton_append,
      List.countP_append, count_of_isSolid_append rfl, count_of_afterLastFeed? hafter]
    rfl

/-! ## Paragraphs as runs of lines -/

/-- The paragraphs of joined lines are the maximal runs of written lines that are
    solid somewhere. -/
theorem count_joinLines_eq_countP {ts : List Text} (hfeed : ∀ t ∈ ts, '\n' ∉ t) :
    count (Text.joinLines ts) = (maximalRuns isWritten ts).countP (·.any isSolid) := by
  have hblank : ∀ {t : Text}, isWritten t = false → ∀ c ∈ t, Text.isBlank c = true := by
    intro t ht c hc
    rw [isWritten, List.any_eq_false] at ht
    simpa using ht c hc
  -- From left to right: a blank line never counts, and a run of written lines is one piece.
  induction ts using runs_induction (p := isWritten) with
  | nil =>
    rw [maximalRuns]
    exact count_joinLines_of_written (List.forall_mem_nil IsWrittenLine)
  | gap t ts ht ih =>
    rw [List.forall_mem_cons] at hfeed
    rw [maximalRuns_cons_of_neg ht, ← ih hfeed.2]
    cases ts with
    | nil =>
      have hone : Text.joinLines [t] = t ++ Text.joinLines [] := by simp
      rw [hone, count_append_of_blank (hblank ht)]
    | cons u us =>
      rw [Text.joinLines_cons_cons, count_append_of_blank (hblank ht),
        count_cons_of_blank isBlank_feed]
  | run body ts hne hall hts ih =>
    rw [List.forall_mem_append] at hfeed
    have hbody : ∀ t ∈ body, IsWrittenLine t := fun t ht => ⟨hfeed.1 t ht, hall t ht⟩
    have hone : (if body.any isSolid = true then 1 else 0) = (body.any isSolid).toNat := by
      cases body.any isSolid <;> rfl
    rw [maximalRuns_append hne hall hts, List.countP_cons, ← ih hfeed.2, hone, Nat.add_comm]
    cases ts with
    | nil =>
      rw [List.append_nil, count_joinLines_of_written hbody,
        count_joinLines_of_written (List.forall_mem_nil IsWrittenLine)]
      rfl
    | cons gap us =>
      have hgap := hblank (hts gap rfl)
      rw [Text.joinLines_append hne (List.cons_ne_nil gap us),
        count_joinLines_feed hbody hgap (hfeed.2 gap List.mem_cons_self)]

/-- The paragraphs of a text are the maximal runs of written lines that are solid
    somewhere. -/
theorem count_eq_countP_maximalRuns (t : Text) :
    count t = (maximalRuns isWritten (Text.lines t)).countP (·.any isSolid) := by
  have h := count_joinLines_eq_countP fun line hline => Text.no_feed_of_mem_lines (t := t) hline
  rwa [Text.joinLines_lines] at h

end Paragraph

namespace Statistics

/-- **Paragraphs are runs of lines.** The paragraphs of a text are its maximal runs
    of lines that are not blank, as far as they have a character that is neither
    blank nor a byte order mark. -/
theorem paragraphs_eq_ncard_isMaximalRun (text : Text) :
    (ofText text).paragraphs =
      {s | IsMaximalRun Paragraph.isWritten (Text.lines text) s ∧
        ∃ line ∈ s.body, ∃ c ∈ line, Text.isPadding c = false}.ncard := by
  have hsolid : ∀ body : List Text, (∃ line ∈ body, ∃ c ∈ line, Text.isPadding c = false) ↔
      body.any Paragraph.isSolid = true := by
    intro body
    simp only [List.any_eq_true, Paragraph.isSolid_iff]
  have hruns := ncard_isMaximalRun Paragraph.isWritten (Text.lines text)
    fun body => body.any Paragraph.isSolid = true
  simp only [hsolid, hruns, Bool.decide_eq_true]
  exact Paragraph.count_eq_countP_maximalRuns text

end Statistics
end Tagdown
