/-
  Tagdown.Proofs.Document.Agreement

  Conversion and statistics agree: the counters of the markdown of a text are
  the numbers of its blocks of each kind.

  For a table whose markers open blocks, each block is one flush line of the
  markdown, and its line counts as what its marker opens (`counter_markdown`).
  Headings and list items count if they have content, quotes always.
-/

import Tagdown.Proofs.Document.RecognizedBlock
import Tagdown.Proofs.Statistics.BlockLine
import Tagdown.Proofs.Statistics.FlushLine

namespace Tagdown

/-! ## Tables of block markers -/

namespace TagTable

/-- Every marker of the table opens a block: a heading, a list item or a quote. -/
def OpensBlocks (table : TagTable) : Prop :=
  ∀ tag ∈ table.tags, ∃ kind, Tag.Opens kind tag.marker

theorem opensBlocks_iff {table : TagTable} :
    table.OpensBlocks ↔ ∀ tag ∈ table.tags, tag.marker ∈ Tag.blockMarkers :=
  forall₂_congr fun _ _ => Tag.exists_opens_iff

theorem standard_opensBlocks : standard.OpensBlocks :=
  opensBlocks_iff.mpr (by decide)

end TagTable

namespace Conversion

variable {table : TagTable} {text : Text} {block : Block}

/-! ## The lines of the markdown -/

/-- What the table says of a block: the only marker of its name, and what that
    marker opens. -/
structure OpensAs (table : TagTable) (block : Block) (kind : LineKind) (marker : Text) : Prop where
  opens : Tag.Opens kind marker
  mem_iff : ∀ m, ⟨block.name, m⟩ ∈ table.tags ↔ m = marker
  markdown_eq : block.markdown = marker ++ ' ' :: block.content

theorem exists_opensAs (hopens : table.OpensBlocks) (h : block ∈ (ofText table text).blocks) :
    ∃ kind marker, OpensAs table block kind marker := by
  obtain ⟨marker, hmem, hmarkdown⟩ := (wellFormed_of_mem_blocks h).exists_marker
  obtain ⟨kind, hkind⟩ := hopens _ hmem
  refine ⟨kind, marker, hkind, fun m => ?_, hmarkdown⟩
  constructor
  · intro hm
    exact congrArg Tag.marker (TagTable.eq_of_name_eq hm hmem rfl)
  · rintro rfl
    exact hmem

/-- The markdown of a block is a flush line. -/
theorem isFlush_markdown (hopens : table.OpensBlocks) (h : block ∈ (ofText table text).blocks) :
    Text.IsFlush block.markdown := by
  obtain ⟨kind, marker, hblock⟩ := exists_opensAs hopens h
  have hfeed := (wellFormed_of_mem_blocks h).no_feed
  rw [hblock.markdown_eq]
  refine ⟨?_, ?_⟩
  · simp [hblock.opens.no_feed, hfeed]
  · obtain ⟨c, rest, rfl⟩ := List.exists_cons_of_ne_nil hblock.opens.ne_nil
    exact ⟨c, _, rfl, hblock.opens.not_isPadding c List.mem_cons_self⟩

theorem isFlush_of_mem_map_markdown (hopens : table.OpensBlocks) :
    ∀ line ∈ (ofText table text).blocks.map (·.markdown), Text.IsFlush line := by
  intro line hline
  obtain ⟨block, hblock, rfl⟩ := List.mem_map.mp hline
  exact isFlush_markdown hopens hblock

/-- A counter that is one on the lines of some blocks and zero on those of all
    others counts these blocks. -/
theorem counter_markdown (hopens : table.OpensBlocks) (text : Text) {f : Counters → Nat}
    (hf : Counters.IsAdditive f) {p : Block → Prop} [DecidablePred p]
    (h : ∀ block kind marker, OpensAs table block kind marker →
      f (Line.counters (Line.ofBlock marker block.content)) = if p block then 1 else 0) :
    f (Statistics.countersOf (ofText table text).markdown) =
      (ofText table text).blocks.countP p := by
  rw [markdown, Statistics.countersOf_joinLines (isFlush_of_mem_map_markdown hopens), List.map_map]
  apply hf.sum_eq_countP
  -- What is left is one line: the trimmed markdown of one block.
  intro block hblock
  obtain ⟨kind, marker, hopensAs⟩ := exists_opensAs hopens hblock
  have hlast := (wellFormed_of_mem_blocks hblock).last
  show f (Line.counters (Text.trimLine block.markdown)) = _
  rw [hopensAs.markdown_eq, Line.trimLine_block hopensAs.opens hlast]
  exact h block kind marker hopensAs

/-! ## Counters by kind -/

theorem headings_markdown (hopens : table.OpensBlocks) (text : Text) {level : Nat}
    (hlow : 1 ≤ level) (hhigh : level ≤ 6) :
    (Statistics.ofText (ofText table text).markdown).headings.count level =
      (ofText table text).blocks.countP fun block =>
        ⟨block.name, List.replicate level '#'⟩ ∈ table.tags ∧ block.content ≠ [] := by
  apply counter_markdown hopens text (Counters.isAdditive_headings level)
  intro block kind marker hblock
  rw [Line.headings_block hblock.opens block.content hlow hhigh]
  simp only [hblock.mem_iff, hblock.opens.eq_heading_iff hlow hhigh, eq_comm]

theorem listItems_markdown (hopens : table.OpensBlocks) (text : Text) :
    (Statistics.ofText (ofText table text).markdown).listItems =
      (ofText table text).blocks.countP fun block =>
        (⟨block.name, ['-']⟩ ∈ table.tags ∨ ⟨block.name, ['*']⟩ ∈ table.tags ∨
          ⟨block.name, ['+']⟩ ∈ table.tags) ∧ block.content ≠ [] := by
  apply counter_markdown hopens text Counters.isAdditive_listItems
  intro block kind marker hblock
  rw [Line.listItems_block hblock.opens block.content]
  simp only [hblock.mem_iff, hblock.opens.eq_listItem_iff, eq_comm]

theorem quotes_markdown (hopens : table.OpensBlocks) (text : Text) :
    (Statistics.ofText (ofText table text).markdown).quotes =
      (ofText table text).blocks.countP fun block => ⟨block.name, ['>']⟩ ∈ table.tags := by
  apply counter_markdown hopens text Counters.isAdditive_quotes
  intro block kind marker hblock
  rw [Line.quotes_block hblock.opens block.content]
  simp only [hblock.mem_iff, hblock.opens.eq_quote_iff, eq_comm]

theorem codeFences_markdown (hopens : table.OpensBlocks) (text : Text) :
    (Statistics.ofText (ofText table text).markdown).codeFences = 0 := by
  have hnone := counter_markdown hopens text Counters.isAdditive_codeFences (p := fun _ => False)
    fun block kind marker hblock => by
      rw [Line.codeFences_block hblock.opens block.content, if_neg not_false]
  rw [List.countP_eq_zero.mpr (by simp)] at hnone
  exact hnone

theorem paragraphs_markdown (hopens : table.OpensBlocks) (text : Text) :
    (Statistics.ofText (ofText table text).markdown).paragraphs =
      if (ofText table text).blocks = [] then 0 else 1 := by
  show Paragraph.count (ofText table text).markdown = _
  rw [markdown, Paragraph.count_joinLines (isFlush_of_mem_map_markdown hopens)]
  simp only [List.map_eq_nil_iff]

/-- **The statistics of the markdown count the blocks.** If every marker of the
    table opens a block, then the headings of each level and the list items are
    the blocks with such a marker and with content, the quotes are the blocks with
    such a marker, no code fence is counted, and all blocks are one paragraph. -/
theorem statistics_markdown_eq (hopens : table.OpensBlocks) (text : Text) :
    let blocks := (ofText table text).blocks
    let s := Statistics.ofText (ofText table text).markdown
    (∀ level, 1 ≤ level → level ≤ 6 →
      s.headings.count level = blocks.countP fun block =>
        ⟨block.name, List.replicate level '#'⟩ ∈ table.tags ∧ block.content ≠ []) ∧
    (s.listItems = blocks.countP fun block =>
      (⟨block.name, ['-']⟩ ∈ table.tags ∨ ⟨block.name, ['*']⟩ ∈ table.tags ∨
        ⟨block.name, ['+']⟩ ∈ table.tags) ∧ block.content ≠ []) ∧
    (s.quotes = blocks.countP fun block => ⟨block.name, ['>']⟩ ∈ table.tags) ∧
    s.codeFences = 0 ∧
    s.paragraphs = if blocks = [] then 0 else 1 := by
  refine ⟨fun level hlow hhigh => ?_, ?_, ?_, ?_, ?_⟩
  · exact headings_markdown hopens text hlow hhigh
  · exact listItems_markdown hopens text
  · exact quotes_markdown hopens text
  · exact codeFences_markdown hopens text
  · exact paragraphs_markdown hopens text

/-- Under the standard table, for a heading with content, a list item and a quote
    without: the list item is not counted. -/
theorem statistics_markdown_standard :
    TagTable.standard.OpensBlocks ∧
      let s := Statistics.ofText (ofText .standard "AAA(- x)\nDDD( )\nEEE( )".toList).markdown
      s.headings.count 1 = 1 ∧ s.listItems = 0 ∧ s.quotes = 1 ∧ s.paragraphs = 1 := by
  have hopens := TagTable.standard_opensBlocks
  obtain ⟨hheadings, hlist, hquotes, -, hparagraphs⟩ :=
    statistics_markdown_eq hopens "AAA(- x)\nDDD( )\nEEE( )".toList
  refine ⟨hopens, ?_, ?_, ?_, ?_⟩
  · exact (hheadings 1 (by decide) (by decide)).trans (by decide)
  · exact hlist.trans (by decide)
  · exact hquotes.trans (by decide)
  · exact hparagraphs.trans (by decide)

end Conversion
end Tagdown
