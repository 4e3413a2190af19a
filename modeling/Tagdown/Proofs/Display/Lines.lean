/-
  Tagdown.Proofs.Display.Lines

  Markdown and diagnostics, line by line, as they are shown. Without colours markdown is
  shown as it is (`Display.markdown_off`), and so is a report. A diagnostic is shown in two lines, whatever the
  text at fault: neither that text nor the names of a table have a line feed, and a style
  adds none (`Display.lines_diagnostic`).
-/

import Tagdown.Display.Markdown
import Tagdown.Proofs.Document.RecognizedBlock
import Tagdown.Proofs.Document.TagLine
import Tagdown.Proofs.Text.Numeral

namespace Tagdown

namespace Style

variable {c : Char} {t : Text}

/-- What is reopened is made of the text, the sequences for a reset and for the style. -/
theorem mem_reopen {again : Text} (h : c ∈ reopen again t) : c ∈ t ∨ c ∈ reset ∨ c ∈ again := by
  fun_induction reopen again t with
  | case1 => exact .inl h
  | case2 rest ih =>
    rw [List.mem_append, List.mem_append] at h
    rcases h with (h | h) | h
    · exact .inr (.inl h)
    · exact .inr (.inr h)
    · exact (ih h).imp_left fun hrest => by simp [hrest]
  | case3 first rest _ ih =>
    rcases List.mem_cons.mp h with rfl | h
    · exact .inl List.mem_cons_self
    · exact (ih h).imp_left (List.mem_cons_of_mem first)

theorem no_feed_opening (s : Style) : '\n' ∉ s.opening := by
  have hcolour : ∀ c : Colour, '\n' ∉ c.code := by
    intro c
    cases c <;> decide
  cases s with
  | bold => decide
  | dim => decide
  | coloured c => simp [opening, codes, escape, hcolour c]
  | boldColoured c => simp [opening, codes, escape, hcolour c]

/-- A style does not break the text. -/
theorem no_feed_paint (on : Bool) (s : Style) (h : '\n' ∉ t) : '\n' ∉ paint on s t := by
  have hreset : '\n' ∉ reset := by decide
  have hopening := no_feed_opening s
  cases on with
  | false => exact h
  | true =>
    intro hmem
    rw [paint, if_pos rfl, List.mem_append, List.mem_append] at hmem
    rcases hmem with (hmem | hmem) | hmem
    · exact hopening hmem
    · rcases mem_reopen hmem with hmem | hmem | hmem
      · exact h hmem
      · exact hreset hmem
      · exact hopening hmem
    · exact hreset hmem

end Style

namespace LineFault

/-- The texts of a fault are parts of one line. -/
structure IsUnbroken (fault : LineFault) : Prop where
  offending : '\n' ∉ fault.offending
  known : ∀ name ∈ fault.known, '\n' ∉ name

variable {fault : LineFault}

theorem IsUnbroken.headline (h : fault.IsUnbroken) : '\n' ∉ fault.headline := by
  have hoffending := h.offending
  cases fault with
  | malformed line =>
    exact List.not_mem_append (List.not_mem_append (by decide) hoffending) (by decide)
  | unknownName name known =>
    exact List.not_mem_append (List.not_mem_append (by decide) hoffending) (by decide)

theorem IsUnbroken.hint (h : fault.IsUnbroken) : '\n' ∉ Display.hint fault := by
  have hknown := h.known
  cases fault with
  | malformed line =>
    show '\n' ∉ "   Expected format: Title1(Your Content) or AAA(Your Content)".toList
    decide
  | unknownName name known =>
    exact List.not_mem_append (by decide) (Text.not_mem_intercalate (by decide) hknown)

end LineFault

variable {table : TagTable} {text : Text} {d : Diagnostic}

/-- The text at fault is part of a segment, and the names of a table are words. -/
theorem Conversion.isUnbroken_of_mem_diagnostics (h : d ∈ (ofText table text).diagnostics) :
    d.fault.IsUnbroken := by
  obtain ⟨segment, hsegment, hpart⟩ := exists_segment_of_mem_diagnostics h
  obtain ⟨hfeed, -⟩ := Text.isUnbroken_of_mem_segments hsegment
  refine ⟨fun hc => hfeed (hpart hc), fun name hname => ?_⟩
  obtain ⟨tag, htag, rfl⟩ := List.mem_map.mp (mem_names_of_mem_diagnostics h hname)
  exact Tag.not_mem_of_isName (table.valid tag htag).1 (by decide)

namespace Display

/-- Without colours no line has a style. -/
@[simp] theorem paintSome_off (style : Option Style) (t : Text) : paintSome false style t = t := by
  cases style <;> rfl

/-- Without colours markdown is shown as it is. -/
@[simp] theorem markdown_off (t : Text) : markdown false t = t := by
  have hline : ∀ line : Text, markdownLine false line = line := fun line => paintSome_off _ line
  rw [markdown, List.map_congr_left fun line _ => hline line, List.map_id', Text.joinLines_lines]

/-- Without colours a report is shown as it is. -/
@[simp] theorem report_off (t : Text) : report false t = t := by
  have hline : ∀ line : Text, (if isSectionHead line then Style.paint false .bold line else line) = line := by
    intro line
    split <;> rfl
  rw [report, List.map_congr_left fun line _ => hline line, List.map_id', Text.joinLines_lines]

/-- Each diagnostic of a text takes two lines. -/
theorem lines_diagnostic (on : Bool) (h : d ∈ (Conversion.ofText table text).diagnostics) :
    (Text.lines (diagnostic on d)).length = 2 := by
  have hunbroken := Conversion.isUnbroken_of_mem_diagnostics h
  have hnumber : '\n' ∉ Text.ofNat d.lineNumber := fun hfeed =>
    absurd (Text.isDigit_of_mem_ofNat hfeed) (by decide)
  have hhead : '\n' ∉ "Line ".toList ++ Text.ofNat d.lineNumber ++ ": ".toList ++ d.fault.headline := by
    simp [hnumber, hunbroken.headline]
  have hheadLine := Text.splitOn_eq_singleton (Style.no_feed_paint on (.coloured .red) hhead)
  have hhintLine := Text.splitOn_eq_singleton (Style.no_feed_paint on .dim hunbroken.hint)
  rw [diagnostic, Text.lines_append_feed, Text.lines, Text.lines, hheadLine, hhintLine]
  rfl

end Display
end Tagdown
