/-
  Tagdown.Proofs.Document.Bare

  Converted texts without escape characters. A table is bare if its markers are
  (`TagTable.IsBare`), as the built-in ones are. Under such a table a bare text has bare
  markdown (`Conversion.isBare_markdown`) and its faults have bare texts
  (`Conversion.isBare_of_mem_diagnostics`).
-/

import Tagdown.Proofs.Document.RecognizedBlock
import Tagdown.Proofs.Document.TagLine
import Tagdown.Proofs.Text.Bare
import Tagdown.Settings.Decode

namespace Tagdown

open Text (IsBare)

/-! ## Tables -/

namespace TagTable

/-- The markers of the table have no escape character. Its names never have one. -/
def IsBare (table : TagTable) : Prop :=
  ∀ tag ∈ table.tags, Text.IsBare tag.marker

theorem isBare_name {table : TagTable} {tag : Tag} (h : tag ∈ table.tags) : Text.IsBare tag.name :=
  Tag.not_mem_of_isName (table.valid tag h).1 (by decide)

theorem isBare_of_mem_names {table : TagTable} {name : Text} (h : name ∈ table.names) :
    Text.IsBare name := by
  obtain ⟨tag, htag, rfl⟩ := List.mem_map.mp h
  exact isBare_name htag

end TagTable

theorem Tag.mem_put {tag other : Tag} {tags : List Tag} (h : other ∈ put tag tags) :
    other = tag ∨ other ∈ tags := by
  induction tags with
  | nil => exact .inl (List.mem_singleton.mp h)
  | cons first tags ih =>
    rw [put] at h
    split at h
    · exact (List.mem_cons.mp h).imp_right (List.mem_cons_of_mem first)
    · rcases List.mem_cons.mp h with rfl | h
      · exact .inr List.mem_cons_self
      · exact (ih h).imp_right (List.mem_cons_of_mem first)

theorem Declarations.mem_declareAll {d : Declarations} {tag : Tag} {tags : List Tag}
    (h : tag ∈ (d.declareAll tags).tags) : tag ∈ d.tags ∨ tag ∈ tags := by
  induction tags generalizing d with
  | nil => exact .inl h
  | cons first tags ih =>
    rcases ih (d := d.declare first) h with h | h
    · rcases Tag.mem_put h with rfl | h
      · exact .inr List.mem_cons_self
      · exact .inl h
    · exact .inr (List.mem_cons_of_mem first h)

/-- The built-in markers are bare, so only those of the settings count. -/
theorem Settings.isBare_tagTable {settings : Settings} {table : TagTable}
    (htable : settings.tagTable = .ok table) (h : ∀ tag ∈ settings.extra, IsBare tag.marker) :
    table.IsBare := by
  have hstandard : ∀ tag ∈ Declarations.standard.tags, IsBare tag.marker := by decide
  intro tag htag
  rw [TagTable.build_eq_ok_iff.mp htable] at htag
  exact (Declarations.mem_declareAll htag).elim (hstandard tag) (h tag)

/-! ## Faults -/

namespace LineFault

/-- The texts of a fault have no escape character. -/
structure IsBare (fault : LineFault) : Prop where
  offending : Text.IsBare fault.offending
  known : ∀ name ∈ fault.known, Text.IsBare name

variable {fault : LineFault}

theorem IsBare.headline (h : fault.IsBare) : Text.IsBare fault.headline := by
  have hoffending := h.offending
  cases fault with
  | malformed line =>
    exact ((show Text.IsBare "Invalid format: \"".toList by decide).append hoffending).append (by decide)
  | unknownName name known =>
    exact ((show Text.IsBare "Unknown prefix: \"".toList by decide).append hoffending).append (by decide)

end LineFault

/-! ## Conversions -/

namespace Conversion

variable {table : TagTable} {text : Text} {block : Block} {d : Diagnostic}

theorem isBare_content_of_mem_blocks (h : IsBare text) (hblock : block ∈ (ofText table text).blocks) :
    IsBare block.content := by
  obtain ⟨segment, hsegment, hsub⟩ := exists_segment_of_mem_blocks hblock
  have htext := (Text.cutsInto_segments text).subset segment hsegment
  exact h.of_subset fun c hc => htext (hsub hc)

/-- Nothing in the markdown is new but markers, spaces and line feeds. -/
theorem isBare_markdown (htable : table.IsBare) (h : IsBare text) :
    IsBare (ofText table text).markdown := by
  apply Text.isBare_joinLines
  intro line hline
  obtain ⟨block, hblock, rfl⟩ := List.mem_map.mp hline
  obtain ⟨marker, hmarker, hmarkdown⟩ := (wellFormed_of_mem_blocks hblock).exists_marker
  rw [hmarkdown]
  exact (htable _ hmarker).append ((isBare_content_of_mem_blocks h hblock).cons (by decide))

theorem isBare_of_mem_diagnostics (h : IsBare text) (hd : d ∈ (ofText table text).diagnostics) :
    d.fault.IsBare := by
  obtain ⟨segment, hsegment, hsub⟩ := exists_segment_of_mem_diagnostics hd
  have htext := (Text.cutsInto_segments text).subset segment hsegment
  exact ⟨h.of_subset fun c hc => htext (hsub hc),
    fun name hname => TagTable.isBare_of_mem_names (mem_names_of_mem_diagnostics hd hname)⟩

end Conversion
end Tagdown
