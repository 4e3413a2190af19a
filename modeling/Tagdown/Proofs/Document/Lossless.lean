/-
  Tagdown.Proofs.Document.Lossless

  What the markdown of a text still tells about the text: the marker and the
  content of each block, and nothing else.

  If no marker has a space or a line feed, the first space of a line ends its
  marker and each line is one block, so two texts with one markdown have the same
  markers and contents (`markdown_eq_iff_agrees`). The name of a block is lost:
  another name for the same marker gives the same markdown
  (`markdown_eq_of_sameUpToName`).
-/

import Mathlib.Data.List.Forall2
import Tagdown.Proofs.Document.RecognizedBlock
import Tagdown.Proofs.Document.TagLine

namespace Tagdown

namespace TagTable

/-- No marker of the table has a space or a line feed. -/
def HasPlainMarkers (table : TagTable) : Prop :=
  ∀ tag ∈ table.tags, ' ' ∉ tag.marker ∧ '\n' ∉ tag.marker

theorem standard_hasPlainMarkers : standard.HasPlainMarkers := by
  unfold HasPlainMarkers
  decide

end TagTable

namespace Block

variable {table : TagTable} {a b : Block}

/-! ## Blocks with one markdown -/

/-- The blocks have the same content behind the same marker. -/
structure Agrees (table : TagTable) (a b : Block) : Prop where
  marker_eq : ∃ marker, table.marker? a.name = some marker ∧ table.marker? b.name = some marker
  content_eq : a.content = b.content

/-- Blocks with one markdown agree: the first space is the one behind the marker. -/
theorem markdown_eq_iff_agrees (hplain : table.HasPlainMarkers) (ha : WellFormed table a)
    (hb : WellFormed table b) : a.markdown = b.markdown ↔ Agrees table a b := by
  obtain ⟨marker, hmem, hmarkdown⟩ := ha.exists_marker
  obtain ⟨marker', hmem', hmarkdown'⟩ := hb.exists_marker
  have hspace : ' ' ∉ marker := (hplain _ hmem).1
  have hspace' : ' ' ∉ marker' := (hplain _ hmem').1
  rw [hmarkdown, hmarkdown', Text.append_cons_inj hspace hspace']
  constructor
  · rintro ⟨rfl, hcontent⟩
    exact ⟨⟨marker, TagTable.marker?_eq_some_iff.mpr hmem, TagTable.marker?_eq_some_iff.mpr hmem'⟩,
      hcontent⟩
  · rintro ⟨⟨shared, hshared, hshared'⟩, hcontent⟩
    -- A name stands for one marker, so both have the shared one.
    rw [TagTable.marker?_eq_some_iff.mpr hmem] at hshared
    rw [TagTable.marker?_eq_some_iff.mpr hmem'] at hshared'
    rw [Option.some.inj hshared, Option.some.inj hshared']
    exact ⟨rfl, hcontent⟩

/-- The markdown of a block is a line that is not empty. -/
theorem WellFormed.markdown_filled (hplain : table.HasPlainMarkers) (h : WellFormed table a) :
    a.markdown ≠ [] ∧ '\n' ∉ a.markdown := by
  obtain ⟨marker, hmem, hmarkdown⟩ := h.exists_marker
  have hfeed : '\n' ∉ marker := (hplain _ hmem).2
  rw [hmarkdown]
  exact ⟨by simp, by simp [hfeed, h.no_feed]⟩

/-! ## Lines with another name -/

/-- The lines are the same up to the name that they open with, and both names stand
    for one marker. -/
inductive SameUpToName (table : TagTable) : Text → Text → Prop where
  | same (line : Text) : SameUpToName table line line
  | renamed {lead name other marker rest : Text} :
      (∀ c ∈ lead, Text.isPadding c = true) → ⟨name, marker⟩ ∈ table.tags →
        ⟨other, marker⟩ ∈ table.tags →
          SameUpToName table (lead ++ name ++ '(' :: rest) (lead ++ other ++ '(' :: rest)

/-- The markdown that a line gives behind a name of the table says nothing of the
    name but its marker. -/
theorem markdown_open_eq_some_iff {lead name marker rest markdown : Text}
    (hlead : ∀ c ∈ lead, Text.isPadding c = true) (hmem : ⟨name, marker⟩ ∈ table.tags) :
    (ofLine? table (lead ++ name ++ '(' :: rest)).map (·.markdown) = some markdown ↔
      ∃ body, Text.dropEndWhile Text.isPadding rest = body ++ [')'] ∧ body ≠ [] ∧ '\n' ∉ body ∧
        markdown = marker ++ ' ' :: Text.trimLine body := by
  have hpad : recognize table (lead ++ name ++ '(' :: rest) =
      recognize table (name ++ '(' :: rest) := by
    rw [List.append_assoc, recognize_append_of_padding hlead]
  simp only [Option.map_eq_some_iff, ofLine?_eq_some_iff, hpad, recognize_open_eq_some_iff hmem]
  constructor
  · rintro ⟨block, ⟨body, hrest, hbody, hfeed, rfl⟩, rfl⟩
    exact ⟨body, hrest, hbody, hfeed, rfl⟩
  · rintro ⟨body, hrest, hbody, hfeed, rfl⟩
    exact ⟨_, ⟨body, hrest, hbody, hfeed, rfl⟩, rfl⟩

theorem SameUpToName.markdown_eq {line line' : Text} (h : SameUpToName table line line') :
    (ofLine? table line).map (·.markdown) = (ofLine? table line').map (·.markdown) := by
  cases h with
  | same => rfl
  | renamed hlead hmem hmem' =>
    apply Option.ext
    intro markdown
    rw [markdown_open_eq_some_iff hlead hmem, markdown_open_eq_some_iff hlead hmem']

end Block

namespace Conversion

variable {table : TagTable} {t u : Text}

/-! ## Texts with one markdown -/

/-- The lines of the markdown that are not empty are the markdown of the blocks. -/
theorem filter_lines_markdown (hplain : table.HasPlainMarkers) (text : Text) :
    (Text.lines (ofText table text).markdown).filter (· ≠ []) =
      (ofText table text).blocks.map (·.markdown) := by
  apply Text.filter_lines_joinLines
  intro line hline
  obtain ⟨block, hblock, rfl⟩ := List.mem_map.mp hline
  exact (wellFormed_of_mem_blocks hblock).markdown_filled hplain

/-- Two texts have one markdown exactly when their blocks have, one by one. -/
theorem markdown_eq_iff_forall₂ (hplain : table.HasPlainMarkers) :
    (ofText table t).markdown = (ofText table u).markdown ↔
      List.Forall₂ (fun a b => a.markdown = b.markdown) (ofText table t).blocks
        (ofText table u).blocks := by
  have hmap : (ofText table t).markdown = (ofText table u).markdown ↔
      (ofText table t).blocks.map (·.markdown) = (ofText table u).blocks.map (·.markdown) := by
    constructor
    · intro h
      rw [← filter_lines_markdown hplain t, h, filter_lines_markdown hplain u]
    · intro h
      rw [markdown, h, ← markdown]
  rw [hmap, ← List.forall₂_eq_eq_eq, List.forall₂_map_left_iff, List.forall₂_map_right_iff]

theorem markdown_eq_iff_agrees (hplain : table.HasPlainMarkers) :
    (ofText table t).markdown = (ofText table u).markdown ↔
      List.Forall₂ (Block.Agrees table) (ofText table t).blocks (ofText table u).blocks := by
  rw [markdown_eq_iff_forall₂ hplain, List.forall₂_iff_zip, List.forall₂_iff_zip]
  -- Block by block the two relations are one, as all blocks are well formed.
  have hpair : ∀ {a b : Block}, (a, b) ∈ (ofText table t).blocks.zip (ofText table u).blocks →
      (a.markdown = b.markdown ↔ Block.Agrees table a b) := by
    intro a b hzip
    obtain ⟨ha, hb⟩ := List.of_mem_zip hzip
    exact Block.markdown_eq_iff_agrees hplain (wellFormed_of_mem_blocks ha)
      (wellFormed_of_mem_blocks hb)
  refine and_congr_right fun _ => ⟨fun h a b hzip => ?_, fun h a b hzip => ?_⟩
  · exact (hpair hzip).mp (h hzip)
  · exact (hpair hzip).mpr (h hzip)

/-- A text keeps its markdown when names are replaced by others of the same marker. -/
theorem markdown_eq_of_sameUpToName
    (h : List.Forall₂ (Block.SameUpToName table) (Text.segments t) (Text.segments u)) :
    (ofText table t).markdown = (ofText table u).markdown := by
  have hlines : ∀ {xs ys : List Text}, List.Forall₂ (Block.SameUpToName table) xs ys →
      (xs.filterMap (Block.ofLine? table)).map (·.markdown) =
        (ys.filterMap (Block.ofLine? table)).map (·.markdown) := by
    intro xs ys hxs
    rw [List.map_filterMap, List.map_filterMap]
    induction hxs with
    | nil => rfl
    | cons hline _ ih => rw [List.filterMap_cons, List.filterMap_cons, hline.markdown_eq, ih]
  rw [markdown, markdown, ofText, ofText, blocks_ofSegments, blocks_ofSegments, hlines h]

/-- **Conversion is lossless up to names.** If no marker of the table has a space or
    a line feed, then two texts have one markdown exactly when they have equally many
    blocks and, place by place, blocks with the same marker and the same content. And
    a text keeps its markdown when names in it are replaced by other names of the
    same marker. -/
theorem markdown_lossless_up_to_name (hplain : table.HasPlainMarkers) (t u : Text) :
    ((ofText table t).markdown = (ofText table u).markdown ↔
      List.Forall₂ (Block.Agrees table) (ofText table t).blocks (ofText table u).blocks) ∧
    (List.Forall₂ (Block.SameUpToName table) (Text.segments t) (Text.segments u) →
      (ofText table t).markdown = (ofText table u).markdown) := by
  constructor
  · exact markdown_eq_iff_agrees hplain
  · exact markdown_eq_of_sameUpToName

/-- A title and a blank list item under their short and their long names: one
    markdown, from blocks that agree. -/
theorem markdown_lossless_short_and_long_names :
    let t := "AAA(# x)
 DDD( )".toList
    let u := "Title1(# x)
 List( )".toList
    TagTable.standard.HasPlainMarkers ∧
    List.Forall₂ (Block.SameUpToName .standard) (Text.segments t) (Text.segments u) ∧
    (ofText .standard t).markdown = (ofText .standard u).markdown ∧
    List.Forall₂ (Block.Agrees .standard) (ofText .standard t).blocks
      (ofText .standard u).blocks := by
  intro t u
  have hplain := TagTable.standard_hasPlainMarkers
  have hnames : List.Forall₂ (Block.SameUpToName .standard) (Text.segments t) (Text.segments u) := by
    refine .cons ?_ (.cons ?_ .nil)
    · exact @Block.SameUpToName.renamed _ [] "AAA".toList "Title1".toList "#".toList
        "# x)".toList (by simp) (by decide) (by decide)
    · exact @Block.SameUpToName.renamed _ [' '] "DDD".toList "List".toList "-".toList
        " )".toList (List.all_eq_true.mp (by decide)) (by decide) (by decide)
  obtain ⟨hiff, hsame⟩ := markdown_lossless_up_to_name hplain t u
  exact ⟨hplain, hnames, hsame hnames, hiff.mp (hsame hnames)⟩

end Conversion
end Tagdown
