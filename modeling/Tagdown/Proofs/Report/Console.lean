/-
  Tagdown.Proofs.Report.Console

  The report for readers, line by line. Its lines are printable (`isPrintable_of_mem_lines`), so
  the report has no other line feeds than those between them and is read back into its lines
  (`lines_render`).

  Which lines there are depends on the levels that have headings. Above the lines of the levels
  and below them the number of lines is fixed, so two equal reports have the same lines for the
  levels, and those say which levels they are about (`headingLines_inj`). All counts can be read
  off the report (`render_shows_counts`).
-/

import Tagdown.Proofs.Display.Stripped
import Tagdown.Proofs.Statistics.Counters
import Tagdown.Report.Console

namespace Tagdown
namespace ConsoleReport

open Text (IsPrintable IsBare isPrintable_ofNat)

variable {label label' value value' line : Text} {h h' : HeadingCounts} {s s' : Statistics}

/-! ## Printable lines -/

theorem isPrintable_metric (hlabel : IsPrintable label) (hvalue : IsPrintable value) :
    IsPrintable (metric label value) :=
  (((show IsPrintable "   ".toList by decide).append hlabel).append (by decide)).append hvalue

theorem isPrintable_headingLines (h : HeadingCounts) :
    ∀ line ∈ headingLines h, IsPrintable line := by
  intro line hline
  obtain ⟨⟨level, n⟩, -, rfl⟩ := List.mem_map.mp hline
  have hlabel : IsPrintable ('H' :: Text.ofNat level ++ " Headings".toList) :=
    ((isPrintable_ofNat level).cons (by decide)).append (by decide)
  exact isPrintable_metric hlabel (isPrintable_ofNat n)

theorem isPrintable_average (s : Statistics) : IsPrintable (average s) := by
  unfold average
  split
  · decide
  · exact Binary64.isPrintable_toFixed 1 _

/-- The lines are made of fixed words and of numbers. -/
theorem isPrintable_of_mem_lines : ∀ line ∈ lines s, IsPrintable line := by
  have hcount : ∀ label : String, IsPrintable label.toList → ∀ n, IsPrintable (count label n) :=
    fun _ hlabel n => isPrintable_metric hlabel (isPrintable_ofNat n)
  have hpercentage : ∀ label : String, IsPrintable label.toList → ∀ x,
      IsPrintable (percentage label x) := fun _ hlabel x =>
    isPrintable_metric hlabel ((Binary64.isPrintable_toFixed 1 x).append (by decide))
  rw [lines, List.forall_mem_append, List.forall_mem_append]
  refine ⟨⟨?_, isPrintable_headingLines s.headings⟩, ?_⟩
  · simp only [List.forall_mem_cons]
    exact ⟨by decide, by decide, by decide, by decide, hcount _ (by decide) _,
      hcount _ (by decide) _, hcount _ (by decide) _, hcount _ (by decide) _, by decide, by decide,
      List.forall_mem_nil _⟩
  · simp only [List.forall_mem_cons]
    exact ⟨hcount _ (by decide) _, by decide, by decide, hcount _ (by decide) _,
      hcount _ (by decide) _, hcount _ (by decide) _, by decide, by decide,
      hpercentage _ (by decide) _, hpercentage _ (by decide) _,
      isPrintable_metric (by decide) (isPrintable_average s), List.forall_mem_nil _⟩

theorem no_feed_of_mem_lines (hline : line ∈ lines s) : '\n' ∉ line :=
  (isPrintable_of_mem_lines line hline).not_mem (by decide)

theorem isBare_render (s : Statistics) : IsBare (render s) :=
  Text.isBare_joinLines fun line hline => (isPrintable_of_mem_lines line hline).isBare

/-- The lines of the report are those that it was made of. -/
theorem lines_render (s : Statistics) : Text.lines (render s) = lines s := by
  have hne : lines s ≠ [] := by simp [lines]
  exact Text.lines_joinLines hne fun _ => no_feed_of_mem_lines

/-! ## Counts -/

theorem count_inj {label : String} {n n' : Nat} : count label n = count label n' ↔ n = n' := by
  constructor
  · intro heq
    have hnumeral : Text.ofNat n = Text.ofNat n' := List.append_cancel_left heq
    exact Text.ofNat_injective hnumeral
  · rintro rfl
    rfl

/-- A label without a colon and its value can be told apart. -/
theorem metric_inj (hlabel : ':' ∉ label) (hlabel' : ':' ∉ label') :
    metric label value = metric label' value' ↔ label = label' ∧ value = value' := by
  have hsplit : ∀ label value : Text,
      metric label value = ("   ".toList ++ label) ++ ':' :: ' ' :: value := by
    intro label value
    simp [metric]
  have hindent : ':' ∉ "   ".toList := by decide
  rw [hsplit, hsplit, Text.append_cons_inj (List.not_mem_append hindent hlabel)
    (List.not_mem_append hindent hlabel'), List.append_right_inj, List.cons_inj_right]

/-- The line of a level says which level it is and how many headings there are. -/
theorem injective_levelLine : Function.Injective fun x : Nat × Nat =>
    metric ('H' :: Text.ofNat x.1 ++ " Headings".toList) (Text.ofNat x.2) := by
  rintro ⟨level, n⟩ ⟨level', n'⟩ hmetric
  have hcolon : ∀ k : Nat, ':' ∉ 'H' :: Text.ofNat k ++ " Headings".toList := by
    intro k
    have hdigits : ':' ∉ Text.ofNat k := fun hmem =>
      absurd (Text.isDigit_of_mem_ofNat hmem) (by decide)
    simp [hdigits]
  obtain ⟨hlabel, hvalue⟩ := (metric_inj (hcolon level) (hcolon level')).mp hmetric
  have hlevel : Text.ofNat level = Text.ofNat level' :=
    List.append_cancel_right (List.cons.inj hlabel).2
  exact Prod.ext (Text.ofNat_injective hlevel) (Text.ofNat_injective hvalue)

/-- The lines of the levels show how many headings each level has. -/
theorem headingLines_inj (heq : headingLines h = headingLines h') : h = h' := by
  have hshown : h.levels.filter (fun x => x.2 ≠ 0) = h'.levels.filter (fun x => x.2 ≠ 0) :=
    List.map_injective_iff.mpr injective_levelLine heq
  exact HeadingCounts.eq_of_filter_levels hshown

/-! ## Section heads -/

/-- The lines that head a section. -/
def sectionHeads : List Text :=
  ["Content Overview:".toList, "Structure Analysis:".toList, "Links & Media:".toList,
   "Content Analysis:".toList]

/-- What is indented heads no section. -/
theorem isSectionHead_metric (label value : Text) :
    Display.isSectionHead (metric label value) = false := by
  have hhead : (metric label value).head? = some ' ' := rfl
  simp [Display.isSectionHead, hhead]

theorem filter_isSectionHead_lines (s : Statistics) :
    (lines s).filter Display.isSectionHead = sectionHeads := by
  have hheadings : (headingLines s.headings).filter Display.isSectionHead = [] := by
    rw [List.filter_eq_nil_iff]
    intro line hline
    obtain ⟨⟨level, n⟩, -, rfl⟩ := List.mem_map.mp hline
    rw [isSectionHead_metric]
    exact Bool.false_ne_true
  rw [lines, List.filter_append, List.filter_append, hheadings, List.append_nil]
  -- The metrics are dropped, and what is left are fixed texts.
  simp only [List.filter_cons, count, percentage, isSectionHead_metric, Bool.false_eq_true, if_false]
  rfl

/-- A line of a report in colours: the heads of the sections in bold. -/
def highlighted (line : Text) : Text :=
  if sectionHeads.contains line then Style.bold.opening ++ line ++ Style.reset else line

/-- In colours the heads of the sections are set in bold and nothing else is changed. -/
theorem lines_report_render (s : Statistics) :
    Text.lines (Display.report true (render s)) = (lines s).map highlighted := by
  have hhighlighted : ∀ line ∈ lines s,
      (if Display.isSectionHead line then Style.paint true .bold line else line) =
        highlighted line := by
    intro line hline
    have hhead : Display.isSectionHead line = true ↔ sectionHeads.contains line = true := by
      rw [List.contains_iff_mem, ← filter_isSectionHead_lines s, List.mem_filter,
        and_iff_right hline]
    have hbare := (isPrintable_of_mem_lines line hline).isBare
    -- No style is reset inside the line, so nothing is switched on again in it.
    rw [highlighted, Style.paint, if_pos rfl, Style.reopen_of_isBare _ hbare]
    simp only [hhead]
  have hfeed : ∀ line ∈ (lines s).map highlighted, '\n' ∉ line := by
    intro line hline
    obtain ⟨plain, hplain, rfl⟩ := List.mem_map.mp hline
    rw [← hhighlighted plain hplain]
    split
    · exact Style.no_feed_paint true .bold (no_feed_of_mem_lines hplain)
    · exact no_feed_of_mem_lines hplain
  have hne : (lines s).map highlighted ≠ [] := by simp [lines]
  rw [Display.report, lines_render, List.map_congr_left hhighlighted, Text.lines_joinLines hne hfeed]

/-- **The report loses no count.** Two statistics with the same report have the same counts, of
    the levels of headings as well, and differ in their ratios at most. The four lines that
    head a section are the only ones that read like one, so in colours they are set in bold
    and no other line is. -/
theorem render_shows_counts :
    (∀ s s', render s = render s' →
      s.toCounters = s'.toCounters ∧ s.paragraphs = s'.paragraphs) ∧
    ∀ s, (Text.lines (render s)).filter Display.isSectionHead = sectionHeads ∧
      Text.lines (Display.report true (render s)) = (Text.lines (render s)).map highlighted := by
  constructor
  · intro s s' hrender
    have hlines : lines s = lines s' := by rw [← lines_render, ← lines_render, hrender]
    rw [lines, lines] at hlines
    -- There are ten lines above those of the levels, and eleven below them.
    obtain ⟨hfront, hback⟩ := List.append_inj' hlines rfl
    obtain ⟨hoverview, hlevels⟩ := List.append_inj hfront rfl
    simp only [List.cons.injEq, count_inj, true_and, and_true] at hoverview hback
    obtain ⟨hwords, hparagraphs, hlistItems, hquotes⟩ := hoverview
    obtain ⟨-, hlinks, himages, hcodeFences, -⟩ := hback
    have hheadings : s.headings = s'.headings := headingLines_inj hlevels
    refine ⟨?_, hparagraphs⟩
    obtain ⟨⟨_, _, _, _, _, _, _⟩, _, _, _⟩ := s
    obtain ⟨⟨_, _, _, _, _, _, _⟩, _, _, _⟩ := s'
    rw [Counters.mk.injEq]
    exact ⟨hwords, hheadings, hlinks, himages, hlistItems, hquotes, hcodeFences⟩
  · intro s
    rw [lines_render]
    exact ⟨filter_isSectionHead_lines s, lines_report_render s⟩

/-- A third to one decimal and to two: the reports are the same, and so are the counts. -/
theorem render_shows_counts_of_close_ratios :
    let third (ratio : Binary64) : Statistics :=
      { Counters.zero with
        words := 7, headings := ⟨0, 2, 0, 0, 0, 1⟩, paragraphs := 3
        plainRatio := .ofRatio false 667 10, formattingRatio := ratio }
    let s := third (.ofRatio false 333 10)
    let s' := third (.ofRatio false 3333 100)
    s ≠ s' ∧ render s = render s' ∧ s.toCounters = s'.toCounters ∧ s.paragraphs = s'.paragraphs := by
  intro third s s'
  have hne : s ≠ s' := by decide +kernel
  have hrender : render s = render s' := by decide +kernel
  exact ⟨hne, hrender, render_shows_counts.1 s s' hrender⟩

end ConsoleReport
end Tagdown
