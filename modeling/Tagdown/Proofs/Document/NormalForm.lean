/-
  Tagdown.Proofs.Document.NormalForm

  The blocks of a text written as tag lines again, one block a line.

  Such a line is read back as the block it was written for, unless the block has
  no content: the line is then malformed (`recognize_written`). So the text of a
  conversion is converted to the same blocks exactly when all of them have
  content (`ofText_written`).
-/

import Tagdown.Proofs.Document.RecognizedBlock
import Tagdown.Proofs.Document.TagLine

namespace Tagdown

namespace Block

variable {table : TagTable} {block : Block}

/-- The block as a line: its name, then its content in parentheses. -/
def written (block : Block) : Text :=
  tagLine block.name block.content

/-- What is wrong with the lines of `blocks`, numbered from `first` on: those
    without content are malformed. -/
def faultsOfEmpty (first : Nat) (blocks : List Block) : List Diagnostic :=
  (blocks.zipIdx first).filterMap fun (block, number) =>
    if block.content = [] then some ⟨number, .malformed (block.name ++ "()".toList)⟩ else none

/-! ## One block -/

theorem WellFormed.isName (h : WellFormed table block) : Tag.isName block.name = true := by
  obtain ⟨marker, hmem, -⟩ := h.exists_marker
  exact TagTable.isName_of_mem hmem

/-- The content of a block is trimmed already. -/
theorem WellFormed.trimLine_content (h : WellFormed table block) :
    Text.trimLine block.content = block.content :=
  Text.trimBy_eq_self h.head h.last

/-- The line of a block is read back, or malformed if the block has no content. -/
theorem recognize_written (h : WellFormed table block) :
    recognize table block.written =
      if block.content = [] then .error (.malformed (block.name ++ "()".toList))
      else .ok (some block) := by
  obtain ⟨marker, hmem, hmarkdown⟩ := h.exists_marker
  rw [written]
  split
  · rename_i hempty
    have hline : tagLine block.name [] = block.name ++ "()".toList := by simp [tagLine]
    rw [hempty, recognize_tagLine_nil table h.isName, hline]
  · rename_i hcontent
    rw [recognize_tagLine hmem hcontent h.no_feed, h.trimLine_content, ← hmarkdown]

/-- The line of a block breaks no line if its content breaks none. -/
theorem isUnbroken_written (hname : Tag.isName block.name = true)
    (hcontent : Text.IsUnbroken block.content) : Text.IsUnbroken block.written := by
  have hfeed : '\n' ∉ block.name := Tag.not_mem_of_isName hname (by decide)
  have hreturn : '\r' ∉ block.name := Tag.not_mem_of_isName hname (by decide)
  rw [written, tagLine]
  constructor
  · simp [hfeed, hcontent.1]
  · simp [hreturn, hcontent.2]

end Block

namespace Conversion

variable {table : TagTable} {blocks : List Block}

/-- The blocks of the conversion as a text, one tag line each. -/
def written (c : Conversion) : Text :=
  Text.joinLines (c.blocks.map (·.written))

/-! ## All blocks -/

/-- The lines of blocks give the blocks with content and a diagnostic for each of
    the others. -/
theorem ofSegments_map_written (h : ∀ block ∈ blocks, Block.WellFormed table block) (first : Nat) :
    ofSegments table first (blocks.map (·.written)) =
      ⟨blocks.filter (·.content ≠ []), Block.faultsOfEmpty first blocks⟩ := by
  induction blocks generalizing first with
  | nil => rfl
  | cons block blocks ih =>
    have hblock := Block.recognize_written (h block List.mem_cons_self)
    have hrest := ih (fun later hlater => h later (List.mem_cons_of_mem block hlater)) (first + 1)
    rw [List.map_cons, ofSegments_cons, hrest, ofSegment, hblock]
    by_cases hempty : block.content = []
    · simp [hempty, append, Block.faultsOfEmpty, List.zipIdx_cons]
    · simp [hempty, append, Block.faultsOfEmpty, List.zipIdx_cons]

/-- The lines of the blocks are the segments of the text they make. -/
theorem ofText_written_eq_ofSegments (table : TagTable) (text : Text) :
    ofText table (ofText table text).written =
      ofSegments table 1 ((ofText table text).blocks.map (·.written)) := by
  by_cases hne : (ofText table text).blocks = []
  · rw [written, hne]
    rfl
  · have hlines : ∀ line ∈ (ofText table text).blocks.map (·.written), Text.IsUnbroken line := by
      intro line hline
      obtain ⟨block, hblock, rfl⟩ := List.mem_map.mp hline
      exact Block.isUnbroken_written (wellFormed_of_mem_blocks hblock).isName
        (isUnbroken_content_of_mem_blocks hblock)
    rw [written, ofText, Text.segments_joinLines (by simpa using hne) hlines]

/-- **The written blocks are a normal form.** Written as tag lines again, the blocks
    of a text that have content are read back in order, and each of the others gives
    one diagnostic: its line is malformed, and numbered by the place of the block. So
    the text is converted to the same blocks, with no diagnostic, exactly when all of
    them have content. -/
theorem ofText_written (table : TagTable) (text : Text) :
    let blocks := (ofText table text).blocks
    let again := ofText table (ofText table text).written
    (again = ⟨blocks, []⟩ ↔ ∀ block ∈ blocks, block.content ≠ []) ∧
    again.blocks = blocks.filter (·.content ≠ []) ∧
    again.diagnostics = Block.faultsOfEmpty 1 blocks := by
  intro blocks again
  have hagain : again = ⟨blocks.filter (·.content ≠ []), Block.faultsOfEmpty 1 blocks⟩ := by
    show ofText table (ofText table text).written = _
    rw [ofText_written_eq_ofSegments,
      ofSegments_map_written fun block hblock => wellFormed_of_mem_blocks hblock]
  rw [hagain]
  refine ⟨?_, rfl, rfl⟩
  rw [Conversion.mk.injEq, List.filter_eq_self]
  simp only [decide_eq_true_eq]
  constructor
  · exact fun h => h.1
  · intro h
    refine ⟨h, List.filterMap_eq_nil_iff.mpr ?_⟩
    rintro ⟨block, number⟩ hmem
    exact if_neg (h block (List.fst_mem_of_mem_zipIdx hmem))

example :
    let c := ofText .standard "AAA( f(x)) \r\nBBB( \uFEFF)\nDDD(a(b)".toList
    c.written = "AAA(f(x))\nBBB()\nDDD(a(b)".toList ∧
      (ofText .standard c.written).diagnostics = [⟨2, .malformed "BBB()".toList⟩] := by
  decide

end Conversion
end Tagdown
