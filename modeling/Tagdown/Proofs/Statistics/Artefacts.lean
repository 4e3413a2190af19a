/-
  Tagdown.Proofs.Statistics.Artefacts

  What editors leave in a text and its counts do not see: line breaks that are written as
  pairs, and a byte order mark in front of the text.

  The counts depend on a line only through its traits, what is left of it when it is trimmed
  and whether it is written (`sameCounts_of_traits`). A carriage return at the end of a line
  changes neither. A byte order mark can make a blank line written; in front of the text that
  line only starts a run or stands alone, and does not count in either
  (`countP_maximalRuns_cons`).
-/

import Tagdown.Proofs.Statistics.ParagraphRuns
import Tagdown.Proofs.Text.LineBreaks

namespace Tagdown

/-! ## Runs of mapped lists -/

variable {α β : Type}

theorem maximalRuns_map (p : β → Bool) (f : α → β) (l : List α) :
    maximalRuns p (l.map f) = (maximalRuns (p ∘ f) l).map (·.map f) := by
  induction l using runs_induction (p := p ∘ f) with
  | nil => simp [maximalRuns]
  | gap a rest ha ih =>
    have ha' : p (f a) = false := ha
    rw [List.map_cons, maximalRuns_cons_of_neg ha', maximalRuns_cons_of_neg ha, ih]
  | run body rest hne hall hrest ih =>
    have hne' : body.map f ≠ [] := by simpa using hne
    have hall' : ∀ b ∈ body.map f, p b = true := List.forall_mem_map.mpr hall
    have hrest' : ∀ b ∈ (rest.map f).head?, p b = false := by
      cases rest with
      | nil => simp
      | cons a rest => simpa using hrest a rfl
    rw [List.map_append, maximalRuns_append hne' hall' hrest', maximalRuns_append hne hall hrest, ih,
      List.map_cons]

/-- An element in front of a list cannot join two runs, so it matters only if it counts
    itself. -/
theorem countP_maximalRuns_cons {p q : α → Bool} {a : α} (ha : q a = false) (rest : List α) :
    (maximalRuns p (a :: rest)).countP (·.any q) = (maximalRuns p rest).countP (·.any q) := by
  by_cases hp : p a = true
  · rw [maximalRuns, if_pos hp, List.countP_cons, List.any_cons, ha, Bool.false_or]
    cases rest with
    | nil => simp [maximalRuns]
    | cons b rest =>
      by_cases hb : p b = true
      · -- The run that the list starts with gets longer.
        rw [maximalRuns, if_pos hb, List.countP_cons, List.takeWhile_cons_of_pos hb,
          List.dropWhile_cons_of_pos hb]
      · -- The element is a run of its own.
        rw [List.takeWhile_cons_of_neg hb, List.dropWhile_cons_of_neg hb]
        simp
  · rw [maximalRuns_cons_of_neg (Bool.eq_false_iff.mpr hp)]

/-! ## Line breaks as pairs -/

namespace Text

/-- The text with a carriage return in front of each line feed. -/
def feedsToPairs (t : Text) : Text :=
  t.flatMap fun c => if c = '\n' then ['\r', '\n'] else [c]

theorem feedsToPairs_append (t u : Text) :
    feedsToPairs (t ++ u) = feedsToPairs t ++ feedsToPairs u :=
  List.flatMap_append

theorem feedsToPairs_feed (t : Text) : feedsToPairs ('\n' :: t) = '\r' :: '\n' :: feedsToPairs t :=
  rfl

theorem feedsToPairs_of_no_feed {t : Text} (h : '\n' ∉ t) : feedsToPairs t = t := by
  induction t with
  | nil => rfl
  | cons c t ih =>
    rw [List.mem_cons, not_or] at h
    rw [feedsToPairs, List.flatMap_cons, if_neg (Ne.symm h.1), ← feedsToPairs, ih h.2]
    rfl

/-- Every line but the last gets a carriage return at its end. What does not see it sees no
    difference. -/
theorem map_lines_feedsToPairs {f : Text → β} (hf : ∀ line, f (line ++ ['\r']) = f line) (t : Text) :
    (lines (feedsToPairs t)).map f = (lines t).map f := by
  -- The induction is on the lines: an induction on the characters would not know where one ends.
  suffices h : ∀ ts : List Text, ts ≠ [] → (∀ u ∈ ts, '\n' ∉ u) →
      (lines (feedsToPairs (joinLines ts))).map f = ts.map f by
    have ht := h (lines t) (splitOn_ne_nil '\n' t) fun u hu => no_feed_of_mem_lines hu
    rwa [joinLines_lines] at ht
  intro ts hne hfeed
  induction ts with
  | nil => exact absurd rfl hne
  | cons first more ih =>
    have hfirst : '\n' ∉ first := hfeed first List.mem_cons_self
    cases more with
    | nil =>
      rw [joinLines_singleton, feedsToPairs_of_no_feed hfirst, lines, splitOn_eq_singleton hfirst]
    | cons second more =>
      have hmore := ih (List.cons_ne_nil second more) fun u hu => hfeed u (List.mem_cons_of_mem first hu)
      have hline : '\n' ∉ first ++ ['\r'] := List.not_mem_append hfirst (by decide)
      rw [joinLines_cons_cons, feedsToPairs_append, feedsToPairs_feed, feedsToPairs_of_no_feed hfirst,
        List.append_cons, lines_append_feed, List.map_append, hmore, lines, splitOn_eq_singleton hline,
        List.map_singleton, hf]
      rfl

end Text

/-! ## What the counts see of a line -/

/-- What the counts of a text depend on in one of its lines. -/
structure LineTraits where
  /-- What is left of the line when it is trimmed. -/
  core : Text
  /-- The line has a character that is not blank. -/
  written : Bool

namespace LineTraits

/-- The traits of a line. -/
def ofLine (line : Text) : LineTraits :=
  ⟨Text.trimLine line, Paragraph.isWritten line⟩

/-- The line has more than padding. -/
def isSolid (traits : LineTraits) : Bool :=
  !traits.core.isEmpty

theorem isSolid_comp_ofLine : isSolid ∘ ofLine = Paragraph.isSolid :=
  rfl

theorem written_comp_ofLine : written ∘ ofLine = Paragraph.isWritten :=
  rfl

/-- A carriage return at the end of a line is trimmed and does not make it written. -/
theorem ofLine_append_carriage (line : Text) : ofLine (line ++ ['\r']) = ofLine line := by
  have hreturn : ∀ c ∈ ['\r'], Text.isPadding c = true := List.all_eq_true.mp (by decide)
  have hcore : Text.trimLine (line ++ ['\r']) = Text.trimLine line :=
    Text.trimBy_append_of_all (List.forall_mem_nil _) hreturn line
  have hwritten : Paragraph.isWritten (line ++ ['\r']) = Paragraph.isWritten line := by
    have hblank : (['\r'].any fun c => !Text.isBlank c) = false := by decide
    rw [Paragraph.isWritten, List.any_append, hblank, Bool.or_false, ← Paragraph.isWritten]
  rw [ofLine, hcore, hwritten, ← ofLine]

theorem trimLine_mark_cons (line : Text) :
    Text.trimLine (Text.byteOrderMark :: line) = Text.trimLine line := by
  have hmark : ∀ c ∈ [Text.byteOrderMark], Text.isPadding c = true :=
    List.all_eq_true.mp (by decide)
  have h := Text.trimBy_append_of_all hmark (List.forall_mem_nil _) line
  rwa [List.append_nil] at h

/-- A line with more than padding is written, with the mark and without it. -/
theorem ofLine_mark_cons {line : Text} (h : Paragraph.isSolid line = true) :
    ofLine (Text.byteOrderMark :: line) = ofLine line := by
  have hwritten : Paragraph.isWritten line = true := Paragraph.isWritten_of_isSolid h
  have hwrittenMark : Paragraph.isWritten (Text.byteOrderMark :: line) = true := by
    rw [Paragraph.isWritten, List.any_cons, ← Paragraph.isWritten, hwritten, Bool.or_true]
  rw [ofLine, ofLine, trimLine_mark_cons, hwritten, hwrittenMark]

end LineTraits

namespace Statistics

/-- All counts of the two are the same. -/
structure SameCounts (s s' : Statistics) : Prop where
  counters : s.toCounters = s'.toCounters
  paragraphs : s.paragraphs = s'.paragraphs

theorem countersOf_eq_of_cores {t u : Text}
    (h : (Text.lines t).map Text.trimLine = (Text.lines u).map Text.trimLine) :
    countersOf t = countersOf u := by
  have hcounters : ∀ text : Text, countersOf text = .sum
      ((((Text.lines text).map Text.trimLine).filter (!·.isEmpty)).map Line.counters) := by
    intro text
    rw [List.filter_map, List.map_map]
    rfl
  rw [hcounters, hcounters, h]

theorem count_eq_of_traits {t u : Text}
    (h : (Text.lines t).map LineTraits.ofLine = (Text.lines u).map LineTraits.ofLine) :
    Paragraph.count t = Paragraph.count u := by
  have hcount : ∀ text : Text, Paragraph.count text =
      (maximalRuns LineTraits.written ((Text.lines text).map LineTraits.ofLine)).countP
        (·.any LineTraits.isSolid) := by
    intro text
    rw [Paragraph.count_eq_countP_maximalRuns, maximalRuns_map, List.countP_map,
      LineTraits.written_comp_ofLine, ← LineTraits.isSolid_comp_ofLine]
    simp only [Function.comp_def, List.any_map]
  rw [hcount, hcount, h]

/-- Texts whose lines have the same traits, one by one, have the same counts. -/
theorem sameCounts_of_traits {t u : Text}
    (h : (Text.lines t).map LineTraits.ofLine = (Text.lines u).map LineTraits.ofLine) :
    SameCounts (ofText t) (ofText u) := by
  have hcores := congrArg (List.map LineTraits.core) h
  rw [List.map_map, List.map_map] at hcores
  exact ⟨countersOf_eq_of_cores hcores, count_eq_of_traits h⟩

theorem sameCounts_feedsToPairs (text : Text) :
    SameCounts (ofText (Text.feedsToPairs text)) (ofText text) :=
  sameCounts_of_traits (Text.map_lines_feedsToPairs LineTraits.ofLine_append_carriage text)

theorem sameCounts_mark_cons (text : Text) :
    SameCounts (ofText (Text.byteOrderMark :: text)) (ofText text) := by
  obtain ⟨first, rest, hlines⟩ := List.exists_cons_of_ne_nil (Text.splitOn_ne_nil '\n' text)
  have hmark : Text.lines (Text.byteOrderMark :: text) = (Text.byteOrderMark :: first) :: rest := by
    rw [Text.lines, Text.splitOn, if_neg (by decide), hlines, List.modifyHead_cons]
  by_cases hsolid : Paragraph.isSolid first = true
  · apply sameCounts_of_traits
    rw [hmark, Text.lines, hlines, List.map_cons, List.map_cons, LineTraits.ofLine_mark_cons hsolid]
  · -- The first line counts neither with the mark nor without it.
    have hfirst : Paragraph.isSolid first = false := Bool.eq_false_iff.mpr hsolid
    have hfirstMark : Paragraph.isSolid (Text.byteOrderMark :: first) = false := by
      rw [Paragraph.isSolid, LineTraits.trimLine_mark_cons, ← Paragraph.isSolid, hfirst]
    refine ⟨countersOf_eq_of_cores ?_, ?_⟩
    · rw [hmark, Text.lines, hlines, List.map_cons, List.map_cons, LineTraits.trimLine_mark_cons]
    · show Paragraph.count _ = Paragraph.count _
      rw [Paragraph.count_eq_countP_maximalRuns, Paragraph.count_eq_countP_maximalRuns, hmark,
        Text.lines, hlines, countP_maximalRuns_cons hfirst, countP_maximalRuns_cons hfirstMark]

/-- **Artefacts of editors change no count.** A text has the same counters and the same
    paragraphs with a carriage return in front of each line feed, and with a byte order mark
    in front of the text. -/
theorem counts_ignore_artefacts (text : Text) :
    SameCounts (ofText (Text.feedsToPairs text)) (ofText text) ∧
      SameCounts (ofText (Text.byteOrderMark :: text)) (ofText text) :=
  ⟨sameCounts_feedsToPairs text, sameCounts_mark_cons text⟩

end Statistics
end Tagdown
