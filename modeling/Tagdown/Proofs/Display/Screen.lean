/-
  Tagdown.Proofs.Display.Screen

  Colours move nothing. A terminal puts the characters of a text into cells, row by row, and
  takes no cell for a sequence that switches styles (`Style.screen`). So a text that shows
  another one fills the same cells, line by line (`Style.Colouring`). All that is displayed in
  colours is such a text over what is displayed without
  (`Display.colours_only_add_styles`).
-/

import Tagdown.Proofs.Display.Stripped

namespace Tagdown
namespace Style

variable {t coloured plain : Text}

/-! ## Lines without their sequences -/

theorem afterSequence?_suffix {t rest : Text} (h : afterSequence? t = some rest) : rest <:+ t := by
  unfold afterSequence? at h
  split at h
  · rename_i parameters
    split at h
    · rename_i hdrop
      cases h
      have hsuffix := List.dropWhile_suffix isParameter (l := parameters)
      rw [hdrop] at hsuffix
      exact (List.suffix_cons 'm' rest).trans
        (hsuffix.trans ((List.suffix_cons '[' _).trans (List.suffix_cons '\x1b' _)))
    · cases h
  · cases h

theorem strip_subset (t : Text) : strip t ⊆ t := by
  unfold strip
  fun_induction sequence.erase t with
  | case1 => exact List.Subset.refl _
  | case2 c rest after hafter ih => exact List.Subset.trans ih (afterSequence?_suffix hafter).subset
  | case3 c rest hnone ih => exact List.cons_subset_cons c ih

theorem strip_append_feed (a b : Text) : strip (a ++ '\n' :: b) = strip a ++ '\n' :: strip b := by
  have hline := shows_line a b
  rw [List.append_assoc, List.append_assoc, List.singleton_append, List.singleton_append] at hline
  exact hline

theorem strip_joinLines (ts : List Text) :
    strip (Text.joinLines ts) = Text.joinLines (ts.map strip) := by
  induction ts with
  | nil => simp
  | cons t ts ih =>
    cases ts with
    | nil => simp
    | cons u us =>
      rw [Text.joinLines_cons_cons, strip_append_feed, ih, List.map_cons, List.map_cons,
        List.map_cons, Text.joinLines_cons_cons]

/-- No sequence goes on behind a line, so lines are stripped one by one. -/
theorem lines_strip (t : Text) : Text.lines (strip t) = (Text.lines t).map strip := by
  have hfeed : ∀ line ∈ (Text.lines t).map strip, '\n' ∉ line := by
    intro line hline
    obtain ⟨whole, hwhole, rfl⟩ := List.mem_map.mp hline
    exact fun hmem => Text.no_feed_of_mem_lines hwhole (strip_subset whole hmem)
  have hne : (Text.lines t).map strip ≠ [] := by
    rw [ne_eq, List.map_eq_nil_iff]
    exact Text.splitOn_ne_nil '\n' t
  -- A text is its lines, joined, and joining leaves the stripped lines apart.
  rw [← Text.lines_joinLines hne hfeed, ← strip_joinLines, Text.joinLines_lines]

/-! ## Cells -/

/-- A character and where a terminal shows it. -/
structure Cell where
  row : Nat
  column : Nat
  char : Char
  deriving DecidableEq, Repr

/-- The cells that a text without sequences fills from a cell on. -/
def cellsFrom (row column : Nat) : Text → List Cell
  | [] => []
  | c :: rest =>
    if c = '\n' then cellsFrom (row + 1) 0 rest
    else ⟨row, column, c⟩ :: cellsFrom row (column + 1) rest

/-- The cells that a text fills from a cell on. A sequence that switches styles fills none. -/
def screenFrom (row column : Nat) : Text → List Cell
  | [] => []
  | c :: rest =>
    match _h : sequence.rest? (c :: rest) with
    | some after => screenFrom row column after
    | none =>
      if c = '\n' then screenFrom (row + 1) 0 rest
      else ⟨row, column, c⟩ :: screenFrom row (column + 1) rest
termination_by t => t.length
decreasing_by
  · exact sequence.length_lt _h
  · simp
  · simp

/-- The cells that a text fills on an empty screen. -/
def screen (t : Text) : List Cell :=
  screenFrom 0 0 t

/-- On the screen a text is what is left of it without its sequences. -/
theorem screenFrom_eq (row column : Nat) (t : Text) :
    screenFrom row column t = cellsFrom row column (strip t) := by
  fun_induction screenFrom row column t with
  | case1 => rw [strip_nil, cellsFrom]
  | case2 row column c rest after hafter ih => rw [ih, strip, strip, Pattern.erase_of_some hafter]
  | case3 row column rest hnone ih =>
    rw [ih, strip, strip, Pattern.erase_of_none hnone, cellsFrom, if_pos rfl]
  | case4 row column c rest hnone hc ih =>
    rw [ih, strip, strip, Pattern.erase_of_none hnone, cellsFrom, if_neg hc]

/-- The text in colours is the plain text and sequences that switch styles: without them it is
    the plain text, it has the same lines, and it fills the same cells of the screen. -/
structure Colouring (coloured plain : Text) : Prop where
  strip_eq : strip coloured = plain
  lines_eq : (Text.lines coloured).map strip = Text.lines plain
  screen_eq : screen coloured = screen plain

theorem Shows.colouring (h : Shows coloured plain) (hplain : Shows plain plain) :
    Colouring coloured plain where
  strip_eq := h.strip_eq
  lines_eq := by rw [← lines_strip, h.strip_eq]
  screen_eq := by rw [screen, screen, screenFrom_eq, screenFrom_eq, h.strip_eq, hplain.strip_eq]

end Style

namespace Display

open Style (Colouring)
open Text (IsBare)

/-- **Colours only add styles.** Without colours markdown and reports are displayed as they are.
    Of texts, paths, tables and faults without escape characters, what is displayed in colours is
    what is displayed without them and sequences that switch styles. -/
theorem colours_only_add_styles :
    (∀ t, markdown false t = t ∧ report false t = t) ∧
    (∀ t, IsBare t →
      Colouring (markdown true t) (markdown false t) ∧ Colouring (report true t) (report false t)) ∧
    (∀ path bytes (p : Preview), IsBare path → (∀ line ∈ p.lines, IsBare line.text) →
      Colouring (preview true path bytes p) (preview false path bytes p)) ∧
    (∀ table : TagTable, table.IsBare → Colouring (guide true table) (guide false table)) ∧
    ∀ d : Diagnostic, d.fault.IsBare → Colouring (diagnostic true d) (diagnostic false d) := by
  refine ⟨fun t => ⟨markdown_off t, report_off t⟩, fun t ht => ⟨?_, ?_⟩,
    fun path bytes p hpath hlines => ?_, fun table htable => ?_, fun d hd => ?_⟩
  -- What is displayed without colours shows itself: no part of it is a sequence.
  · rw [markdown_off]
    exact (shows_markdown true ht).colouring (Style.shows_of_isBare ht)
  · rw [report_off]
    exact (shows_report true ht).colouring (Style.shows_of_isBare ht)
  · exact (shows_preview true hpath bytes hlines).colouring (shows_preview false hpath bytes hlines)
  · exact (shows_guide true htable).colouring (shows_guide false htable)
  · exact (shows_diagnostic true hd).colouring (shows_diagnostic false hd)

/-- A heading that reads like the head of a section, an empty line and a quote, of which the
    preview shows the first two. -/
theorem colours_only_add_styles_of_heads :
    let t := "# A:\n\n> b\n".toList
    let path := "a.md".toList
    let p := Preview.ofText t 2
    let d : Diagnostic := ⟨3, .unknownName "Z".toList TagTable.standard.names⟩
    IsBare t ∧ IsBare path ∧ (∀ line ∈ p.lines, IsBare line.text) ∧ TagTable.standard.IsBare ∧
      d.fault.IsBare ∧ Colouring (markdown true t) t ∧ Colouring (report true t) t ∧
      Colouring (preview true path 2048 p) (preview false path 2048 p) ∧
      Colouring (guide true .standard) (guide false .standard) ∧
      Colouring (diagnostic true d) (diagnostic false d) := by
  intro t path p d
  have ht : IsBare t := by decide
  have hpath : IsBare path := by decide
  have hlines : ∀ line ∈ p.lines, IsBare line.text := by decide
  have htable : TagTable.standard.IsBare :=
    show ∀ tag ∈ TagTable.standardTags, IsBare tag.marker by decide
  have hd : d.fault.IsBare :=
    ⟨by decide, fun name hname => TagTable.isBare_of_mem_names hname⟩
  obtain ⟨hoff, htexts, hpreviews, hguides, hdiagnostics⟩ := colours_only_add_styles
  obtain ⟨hmarkdown, hreport⟩ := htexts t ht
  rw [(hoff t).1] at hmarkdown
  rw [(hoff t).2] at hreport
  exact ⟨ht, hpath, hlines, htable, hd, hmarkdown, hreport, hpreviews path 2048 p hpath hlines,
    hguides .standard htable, hdiagnostics d hd⟩

end Display
end Tagdown
