/-
  Tagdown.Proofs.Document.RecognizedBlock

  What a block in a conversion is like: it has the marker that the table lists
  for its name, and its content is trimmed and one line (`WellFormed`). The
  content has no line break of any kind (`isUnbroken_content_of_mem_blocks`).
  What a diagnostic finds at fault is a part of a segment too
  (`exists_segment_of_mem_diagnostics`).
-/

import Tagdown.Proofs.Document.Accounting

namespace Tagdown

namespace Block

/-- The block is one that a line can give under the tags of a table. -/
structure WellFormed (table : TagTable) (block : Block) : Prop where
  /-- The markdown is the marker of the name, a space and the content. -/
  exists_marker : ∃ marker, ⟨block.name, marker⟩ ∈ table.tags ∧
    block.markdown = marker ++ ' ' :: block.content
  no_feed : '\n' ∉ block.content
  head : ∀ c ∈ block.content.head?, Text.isPadding c = false
  last : ∀ c ∈ block.content.getLast?, Text.isPadding c = false

theorem ofLine?_eq_some_iff {table : TagTable} {line : Text} {block : Block} :
    ofLine? table line = some block ↔ recognize table line = .ok (some block) := by
  rw [ofLine?]
  cases recognize table line with
  | error fault => simp [Except.toOption]
  | ok block? => simp [Except.toOption]

theorem wellFormed_of_recognize {table : TagTable} {line : Text} {block : Block}
    (h : recognize table line = .ok (some block)) : WellFormed table block := by
  obtain ⟨name, content, markdown⟩ := block
  obtain ⟨body, marker, htag, hmem, hcore, hmarkdown⟩ := recognize_eq_some_iff.mp h
  refine ⟨⟨marker, hmem, hmarkdown⟩, ?_, hcore.head, hcore.last⟩
  -- A line feed in the content would be one in the body.
  intro hfeed
  exact htag.no_feed (hcore.mem hfeed)

end Block

namespace Conversion

variable {table : TagTable} {text : Text} {block : Block} {d : Diagnostic}

/-- The blocks of a conversion are those of the recognized segments. -/
theorem mem_blocks_ofText :
    block ∈ (ofText table text).blocks ↔
      ∃ segment ∈ Text.segments text, Block.recognize table segment = .ok (some block) := by
  rw [ofText, blocks_ofSegments, List.mem_filterMap]
  simp only [Block.ofLine?_eq_some_iff]

theorem wellFormed_of_mem_blocks (h : block ∈ (ofText table text).blocks) :
    Block.WellFormed table block := by
  obtain ⟨segment, -, hblock⟩ := mem_blocks_ofText.mp h
  exact Block.wellFormed_of_recognize hblock

/-- The content of a block is a part of one segment. -/
theorem exists_segment_of_mem_blocks (h : block ∈ (ofText table text).blocks) :
    ∃ segment ∈ Text.segments text, block.content ⊆ segment := by
  obtain ⟨segment, hsegment, hblock⟩ := mem_blocks_ofText.mp h
  obtain ⟨name, content, markdown⟩ := block
  obtain ⟨body, marker, htag, -, hcore, -⟩ := Block.recognize_eq_some_iff.mp hblock
  refine ⟨segment, hsegment, fun c hc => ?_⟩
  have hline : c ∈ Text.trimLine segment := by
    rw [htag.eq_tagLine, Block.tagLine]
    simp [hcore.mem hc]
  exact (Text.isCore_trimBy _ segment).mem hline

/-- So it breaks no line. -/
theorem isUnbroken_content_of_mem_blocks (h : block ∈ (ofText table text).blocks) :
    Text.IsUnbroken block.content := by
  obtain ⟨segment, hsegment, hpart⟩ := exists_segment_of_mem_blocks h
  obtain ⟨hfeed, hreturn⟩ := Text.isUnbroken_of_mem_segments hsegment
  exact ⟨fun hc => hfeed (hpart hc), fun hc => hreturn (hpart hc)⟩

/-- What is at fault is a part of one segment. -/
theorem exists_segment_of_mem_diagnostics (h : d ∈ (ofText table text).diagnostics) :
    ∃ segment ∈ Text.segments text, d.fault.offending ⊆ segment := by
  obtain ⟨i, segment, hsegment, hfault, -⟩ := mem_diagnostics_ofSegments.mp h
  have hcore := Text.isCore_trimBy Text.isPadding segment
  refine ⟨segment, List.mem_of_getElem? hsegment, fun c hc => hcore.mem ?_⟩
  cases hd : d.fault with
  | malformed line =>
    rw [hd] at hfault hc
    obtain ⟨rfl, -, -⟩ := Block.recognize_eq_malformed_iff.mp hfault
    exact hc
  | unknownName name known =>
    rw [hd] at hfault hc
    obtain ⟨-, -, body, hline⟩ := Block.recognize_eq_unknownName_iff.mp hfault
    show c ∈ Text.trimLine segment
    rw [hline.eq_tagLine, Block.tagLine]
    exact List.mem_append_left _ (List.mem_append_left _ hc)

/-- The names that a fault lists are those of the table. -/
theorem mem_names_of_mem_diagnostics {name : Text} (h : d ∈ (ofText table text).diagnostics)
    (hname : name ∈ d.fault.known) : name ∈ table.names := by
  obtain ⟨i, segment, -, hfault, -⟩ := mem_diagnostics_ofSegments.mp h
  cases hd : d.fault with
  | malformed line =>
    rw [hd] at hname
    cases hname
  | unknownName wrong known =>
    rw [hd] at hfault hname
    obtain ⟨rfl, -, -⟩ := Block.recognize_eq_unknownName_iff.mp hfault
    exact hname

end Conversion
end Tagdown
