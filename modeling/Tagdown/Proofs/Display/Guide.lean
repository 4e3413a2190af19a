/-
  Tagdown.Proofs.Display.Guide

  The examples of the syntax guide work. The example of a group is a tag line with one of its
  names, a few spaces in front, and the table reads it (`AliasGroup.recognize_exampleLine`). The
  guide of a table with tags ends in one such line for each marker (`Display.exists_lines_guide`),
  so its last lines are a document of the table (`Display.guide_examples_are_recognized`).
-/

import Mathlib.Data.List.DropRight
import Tagdown.Display.Guide
import Tagdown.Proofs.Document.NormalForm
import Tagdown.Proofs.Tag.Alias

namespace Tagdown

/-! ## One example -/

namespace AliasGroup

variable {table : TagTable} {group : AliasGroup}

/-- The block that the example of the group stands for: a block of its first name. -/
def exampleBlock (group : AliasGroup) : Block :=
  ⟨group.names.headD [], "Example".toList, group.marker ++ " Example".toList⟩

/-- The example of the group as the guide writes it. -/
def exampleLine (group : AliasGroup) : Text :=
  "   ".toList ++ group.exampleBlock.written

theorem guideExample?_eq (h : group.names ≠ []) :
    Display.guideExample? group = some group.exampleLine := by
  obtain ⟨name, names, hnames⟩ := List.exists_cons_of_ne_nil h
  rw [Display.guideExample?, exampleLine, Block.written, exampleBlock, hnames]
  rfl

/-- The first name of a group of the table stands for its marker. -/
theorem wellFormed_exampleBlock (h : group ∈ table.aliases) :
    Block.WellFormed table group.exampleBlock := by
  obtain ⟨name, names, hnames⟩ :=
    List.exists_cons_of_ne_nil (TagTable.names_ne_nil_of_mem_aliases h)
  have htag : ⟨name, group.marker⟩ ∈ table.tags :=
    (TagTable.mem_names_iff_of_mem_aliases h).mp (hnames ▸ List.mem_cons_self)
  refine ⟨⟨group.marker, ?_, rfl⟩, ?_, ?_, ?_⟩
  · rw [exampleBlock, hnames]
    exact htag
  -- The content is the same for all groups: one line with no padding at its ends.
  · show '\n' ∉ "Example".toList
    decide
  · intro c hhead
    obtain rfl : 'E' = c := Option.some.inj hhead
    decide
  · intro c hlast
    obtain rfl : 'e' = c := Option.some.inj hlast
    decide

theorem recognize_exampleLine (h : group ∈ table.aliases) :
    Block.recognize table group.exampleLine = .ok (some group.exampleBlock) := by
  have hlead : ∀ c ∈ "   ".toList, Text.isPadding c = true := List.all_eq_true.mp (by decide)
  have hcontent : group.exampleBlock.content ≠ [] := by
    show "Example".toList ≠ []
    decide
  rw [exampleLine, Block.recognize_append_of_padding hlead,
    Block.recognize_written (wellFormed_exampleBlock h), if_neg hcontent]

theorem isUnbroken_exampleLine (h : group ∈ table.aliases) :
    Text.IsUnbroken group.exampleLine := by
  have hcontent : Text.IsUnbroken "Example".toList := by
    unfold Text.IsUnbroken
    decide
  obtain ⟨hfeed, hreturn⟩ :=
    Block.isUnbroken_written (wellFormed_exampleBlock h).isName hcontent
  exact ⟨List.not_mem_append (by decide) hfeed, List.not_mem_append (by decide) hreturn⟩

end AliasGroup

/-! ## All examples -/

namespace Conversion

variable {table : TagTable} {groups : List AliasGroup}

theorem ofSegments_exampleLines (h : ∀ group ∈ groups, group ∈ table.aliases) (first : Nat) :
    ofSegments table first (groups.map (·.exampleLine)) = ⟨groups.map (·.exampleBlock), []⟩ := by
  induction groups generalizing first with
  | nil => rfl
  | cons group groups ih =>
    rw [List.forall_mem_cons] at h
    rw [List.map_cons, ofSegments_cons, ofSegment, AliasGroup.recognize_exampleLine h.1, ih h.2]
    rfl

/-- The examples of a table are read as their blocks, none of them with a fault. -/
theorem ofText_exampleLines (table : TagTable) :
    ofText table (Text.joinLines (table.aliases.map (·.exampleLine))) =
      ⟨table.aliases.map (·.exampleBlock), []⟩ := by
  by_cases hne : table.aliases.map (·.exampleLine) = []
  · -- Without examples the text is one blank segment.
    rw [hne, List.map_eq_nil_iff.mp hne]
    rfl
  · have hunbroken : ∀ line ∈ table.aliases.map (·.exampleLine), Text.IsUnbroken line := by
      intro line hline
      obtain ⟨group, hgroup, rfl⟩ := List.mem_map.mp hline
      exact AliasGroup.isUnbroken_exampleLine hgroup
    rw [ofText, Text.segments_joinLines hne hunbroken, ofSegments_exampleLines fun _ => id]

end Conversion

/-! ## The guide -/

namespace Display

variable {table : TagTable}

/-- The lines above the rows of the guide. -/
def guideHead : List Text :=
  ["Syntax Guide".toList, rule, [], "Write one tag per line: PREFIX(content)".toList, []]

/-- The line above the examples of the guide. -/
def exampleHead : Text :=
  "Example:".toList

theorem filterMap_guideExample? (table : TagTable) :
    table.aliases.filterMap guideExample? = table.aliases.map (·.exampleLine) := by
  rw [List.filterMap_congr fun group hgroup =>
    AliasGroup.guideExample?_eq (TagTable.names_ne_nil_of_mem_aliases hgroup)]
  exact congrFun List.filterMap_eq_map _

theorem guide_off (table : TagTable) :
    guide false table = Text.joinLines (guideHead ++ table.aliases.map (guideRow false) ++
      if table.aliases = [] then []
      else [] :: exampleHead :: table.aliases.map (·.exampleLine)) := by
  rw [guide]
  simp only [filterMap_guideExample?, List.isEmpty_iff, List.map_eq_nil_iff]
  rfl

/-- The guide of a table without tags is no more than its head. -/
theorem lines_guide_of_aliases_eq_nil (h : table.aliases = []) :
    Text.lines (guide false table) = guideHead := by
  rw [guide_off, h]
  decide

/-- The guide of a table with tags ends in its examples. A row may take several lines, as a
    marker may have a line feed; the examples take one each. -/
theorem exists_lines_guide (h : table.aliases ≠ []) :
    ∃ above, Text.lines (guide false table) =
      above ++ [] :: exampleHead :: table.aliases.map (·.exampleLine) := by
  have hfeed : ∀ line ∈ [] :: exampleHead :: table.aliases.map (·.exampleLine), '\n' ∉ line := by
    rw [List.forall_mem_cons, List.forall_mem_cons]
    refine ⟨by decide, by decide, fun line hline => ?_⟩
    obtain ⟨group, hgroup, rfl⟩ := List.mem_map.mp hline
    exact (AliasGroup.isUnbroken_exampleLine hgroup).1
  have habove : guideHead ++ table.aliases.map (guideRow false) ≠ [] := by simp [guideHead]
  refine ⟨Text.lines (Text.joinLines (guideHead ++ table.aliases.map (guideRow false))), ?_⟩
  rw [guide_off, if_neg h, Text.joinLines_append habove (List.cons_ne_nil _ _),
    Text.lines_append_feed, Text.lines_joinLines (List.cons_ne_nil _ _) hfeed]

/-- The examples are the last lines of the guide. -/
theorem rtake_lines_guide (table : TagTable) :
    (Text.lines (guide false table)).rtake (Tag.firstMarkers table.tags).length =
      table.aliases.map (·.exampleLine) := by
  have hlength :
      (Tag.firstMarkers table.tags).length = (table.aliases.map (·.exampleLine)).length := by
    rw [← TagTable.markers_aliases, List.length_map, List.length_map]
  rw [hlength]
  by_cases hempty : table.aliases = []
  · rw [hempty]
    exact List.rtake_zero _
  · obtain ⟨above, hlines⟩ := exists_lines_guide hempty
    have hsplit : Text.lines (guide false table) =
        (above ++ [[], exampleHead]) ++ table.aliases.map (·.exampleLine) := by
      rw [hlines, List.append_assoc]
      rfl
    rw [hsplit, List.rtake, List.length_append, Nat.add_sub_cancel, List.drop_left]

theorem exampleHead_mem_lines_guide_iff :
    exampleHead ∈ Text.lines (guide false table) ↔ table.tags ≠ [] := by
  rw [ne_eq, ← TagTable.aliases_eq_nil_iff]
  constructor
  · -- The head of the guide is fixed, and none of its lines is that above the examples.
    intro hmem hempty
    rw [lines_guide_of_aliases_eq_nil hempty] at hmem
    exact absurd hmem (by decide)
  · intro hne
    obtain ⟨above, hlines⟩ := exists_lines_guide hne
    rw [hlines]
    exact List.mem_append_right above (List.mem_cons_of_mem [] List.mem_cons_self)

/-- **The examples of the guide work.** The last lines of the guide, as many as the table has
    distinct markers, make a text that the table converts without a diagnostic, to one block for
    each marker, in the order in which the markers are first seen. Only for a table without tags
    the guide has no examples. -/
theorem guide_examples_are_recognized (table : TagTable) :
    let markers := Tag.firstMarkers table.tags
    let lines := Text.lines (guide false table)
    let t := Conversion.ofText table (Text.joinLines (lines.rtake markers.length))
    t.diagnostics = [] ∧ t.blocks.length = markers.length ∧
      t.blocks.map (·.markdown) = markers.map (· ++ " Example".toList) ∧
      (exampleHead ∈ lines ↔ table.tags ≠ []) := by
  intro markers lines t
  have ht : t = ⟨table.aliases.map (·.exampleBlock), []⟩ := by
    show Conversion.ofText table (Text.joinLines (lines.rtake markers.length)) = _
    rw [rtake_lines_guide, Conversion.ofText_exampleLines]
  have hmarkdown : t.blocks.map (·.markdown) = markers.map (· ++ " Example".toList) := by
    show _ = (Tag.firstMarkers table.tags).map _
    rw [ht, ← TagTable.markers_aliases, List.map_map, List.map_map]
    rfl
  refine ⟨?_, ?_, hmarkdown, exampleHead_mem_lines_guide_iff⟩
  · rw [ht]
  · have hlength := congrArg List.length hmarkdown
    rwa [List.length_map, List.length_map] at hlength

/-- The guide of the built-in table, read by the table itself. -/
example :
    let lines := Text.lines (guide false .standard)
    (Conversion.ofText .standard (Text.joinLines (lines.rtake 5))).markdown =
      "# Example\n## Example\n### Example\n- Example\n> Example".toList := by
  decide

end Display
end Tagdown
