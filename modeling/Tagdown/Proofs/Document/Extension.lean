/-
  Tagdown.Proofs.Document.Extension

  One more tag in the table. Lines of its name are recognized that were not known
  before; every other line stands for what it stood for, and if its name is still
  unknown, the new name is one of those it is told (`extended_recognize`).

  The conversion under the larger table extends the one under the smaller table
  segment by segment, and so as a whole (`extends_ofSegments`).
-/

import Tagdown.Proofs.Document.Accounting
import Tagdown.Proofs.Tag.Building

namespace Tagdown

/-! ## One line -/

namespace LineFault

/-- The line has this unknown name. -/
def isUnknown (name : Text) : LineFault → Bool
  | malformed _ => false
  | unknownName other _ => other == name

/-- The same fault under a table that lists one more name at its end. -/
def addKnown (name : Text) : LineFault → LineFault
  | malformed line => malformed line
  | unknownName other known => unknownName other (known ++ [name])

end LineFault

namespace Block

variable {table larger : TagTable} {tag : Tag}

/-- What a line stands for under a table, and what under the table with one more tag
    of the name `name`. -/
inductive Extended (name : Text) :
    Except LineFault (Option Block) → Except LineFault (Option Block) → Prop where
  | blank : Extended name (.ok none) (.ok none)
  | block {block : Block} :
      block.name ≠ name → Extended name (.ok (some block)) (.ok (some block))
  | gained {block : Block} {known : List Text} :
      block.name = name → Extended name (.error (.unknownName name known)) (.ok (some block))
  | fault {fault : LineFault} :
      fault.isUnknown name = false → Extended name (.error fault) (.error (fault.addKnown name))

/-- A line of the new name is gained, every other line keeps its reading. -/
theorem Reads.extended {w : Text} {r : Except LineFault (Option Block)} (h : Reads table w r)
    (hlarger : larger.tags = table.tags ++ [tag]) :
    ∃ r', Reads larger w r' ∧ Extended tag.name r r' := by
  have hnew : tag.name ∉ table.names := TagTable.not_mem_names_of_append hlarger
  have hnames : larger.names = table.names ++ [tag.name] := TagTable.names_of_append hlarger
  cases h with
  | blank hblank => exact ⟨_, .blank hblank, .blank⟩
  | @block name body content marker htag hmem hcore =>
    have hne : name ≠ tag.name := by
      rintro rfl
      exact hnew (TagTable.mem_names hmem)
    exact ⟨_, .block htag ((TagTable.mem_tags_iff_of_ne hlarger hne).mpr hmem) hcore, .block hne⟩
  | @unknownName name body htag hname =>
    by_cases heq : name = tag.name
    · -- The only line whose reading changes: its name was unknown and is the new one.
      have hmem : ⟨name, tag.marker⟩ ∈ larger.tags := by
        rw [hlarger, heq]
        exact List.mem_append_right _ List.mem_cons_self
      rw [← heq]
      exact ⟨_, .block htag hmem (Text.isCore_trimBy _ body), .gained rfl⟩
    · -- The name is still unknown, but the fault lists one name more.
      have hstill : name ∉ larger.names := by
        rw [hnames, List.mem_append, List.mem_singleton]
        exact not_or.mpr ⟨hname, heq⟩
      have hfault : LineFault.unknownName name larger.names =
          (LineFault.unknownName name table.names).addKnown tag.name := by
        rw [hnames]
        rfl
      refine ⟨_, .unknownName htag hstill, ?_⟩
      rw [hfault]
      exact .fault (beq_eq_false_iff_ne.mpr heq)
  | malformed hne hnone => exact ⟨_, .malformed hne hnone, .fault rfl⟩

theorem extended_recognize (hlarger : larger.tags = table.tags ++ [tag]) (line : Text) :
    Extended tag.name (recognize table line) (recognize larger line) := by
  obtain ⟨r, hreads, hextended⟩ := (reads_recognize table line).extended hlarger
  rw [hreads.recognize_eq]
  exact hextended

end Block

/-! ## All lines -/

namespace Conversion

variable {table larger : TagTable} {tag : Tag} {name : Text} {c c' e e' : Conversion}

/-- What is converted with one more tag of the name `name`: the blocks of other names
    are the same. Of the diagnostics those of that unknown name are gone, and those
    of other unknown names list it as known behind the rest. -/
structure Extends (name : Text) (c c' : Conversion) : Prop where
  blocks_eq : c'.blocks.filter (·.name ≠ name) = c.blocks
  diagnostics_eq : c'.diagnostics =
    (c.diagnostics.filter fun d => !d.fault.isUnknown name).map fun d =>
      ⟨d.lineNumber, d.fault.addKnown name⟩

theorem Extends.append (h : Extends name c c') (h' : Extends name e e') :
    Extends name (c.append e) (c'.append e') := by
  constructor
  · simp only [Conversion.append, List.filter_append, h.blocks_eq, h'.blocks_eq]
  · simp only [Conversion.append, h.diagnostics_eq, h'.diagnostics_eq, List.filter_append,
      List.map_append]

theorem extends_ofSegment (hlarger : larger.tags = table.tags ++ [tag]) (number : Nat)
    (segment : Text) :
    Extends tag.name (ofSegment table number segment) (ofSegment larger number segment) := by
  have h := Block.extended_recognize hlarger segment
  rw [ofSegment, ofSegment]
  -- One case for each fate of the line under the two tables.
  generalize Block.recognize table segment = r at h ⊢
  generalize Block.recognize larger segment = r' at h ⊢
  cases h with
  | blank => exact ⟨rfl, rfl⟩
  | block hne => exact ⟨by simp [hne], rfl⟩
  | gained heq => exact ⟨by simp [heq], by simp [LineFault.isUnknown]⟩
  | fault hother => exact ⟨rfl, by simp [hother]⟩

theorem extends_ofSegments (hlarger : larger.tags = table.tags ++ [tag]) (first : Nat)
    (segs : List Text) :
    Extends tag.name (ofSegments table first segs) (ofSegments larger first segs) := by
  induction segs generalizing first with
  | nil => exact ⟨rfl, rfl⟩
  | cons segment segs ih =>
    rw [ofSegments_cons, ofSegments_cons]
    exact (extends_ofSegment hlarger first segment).append (ih (first + 1))

/-- **One more tag is conservative.** Let a table be built of declarations, and let a
    valid tag of a new name be declared after them. There is a table of these too, and
    of every text it gives the same blocks of the other names, in the same order. The
    diagnostics are the same, with the same line numbers, but for two things: those of
    the new name are gone, and those of other unknown names list the new name as known
    behind the rest. -/
theorem ofText_with_one_more_tag {declared : Declarations}
    (hbuild : TagTable.build declared = .ok table) (hvalid : tag.IsValid)
    (hnew : tag.name ∉ table.names) :
    ∃ larger, TagTable.build (declared.declare tag) = .ok larger ∧ ∀ text,
      (ofText larger text).blocks.filter (·.name ≠ tag.name) = (ofText table text).blocks ∧
      (ofText larger text).diagnostics =
        ((ofText table text).diagnostics.filter fun d => !d.fault.isUnknown tag.name).map fun d =>
          ⟨d.lineNumber, d.fault.addKnown tag.name⟩ := by
  obtain ⟨larger, hlarger, htags⟩ := TagTable.exists_build_declare hbuild hvalid hnew
  refine ⟨larger, hlarger, fun text => ?_⟩
  have hextends := extends_ofSegments htags 1 (Text.segments text)
  exact ⟨hextends.blocks_eq, hextends.diagnostics_eq⟩

/-- A fourth title added to the standard table: its line is no fault any more, and the
    other unknown name is told of it. -/
theorem ofText_with_fourth_title :
    let tag : Tag := ⟨"Title4".toList, "####".toList⟩
    let text := "Title4(Deep)\nAAA(Top)\nZZZ(x)".toList
    TagTable.build .standard = .ok .standard ∧ tag.IsValid ∧
      tag.name ∉ TagTable.standard.names ∧
      ∃ larger, TagTable.build (Declarations.standard.declare tag) = .ok larger ∧
        (ofText larger text).blocks.filter (·.name ≠ tag.name) =
          [⟨"AAA".toList, "Top".toList, "# Top".toList⟩] ∧
        (ofText larger text).diagnostics =
          [⟨3, .unknownName "ZZZ".toList (TagTable.standard.names ++ ["Title4".toList])⟩] := by
  intro tag text
  have hbuild : TagTable.build .standard = .ok .standard := TagTable.build_eq_ok_iff.mpr rfl
  have hvalid : tag.IsValid := by decide
  have hnew : tag.name ∉ TagTable.standard.names := by decide
  obtain ⟨larger, hlarger, hall⟩ := ofText_with_one_more_tag hbuild hvalid hnew
  refine ⟨hbuild, hvalid, hnew, larger, hlarger, ?_, ?_⟩
  · exact (hall text).1.trans (by decide)
  · exact (hall text).2.trans (by decide)

end Conversion
end Tagdown
