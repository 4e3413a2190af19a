/-
  Tagdown.Proofs.Tag.Lookup

  A look-up in a tag table is membership: the names of a table are distinct, so
  at most one of its tags has a given name.
-/

import Tagdown.Proofs.Latest
import Tagdown.Tag.Table

namespace Tagdown

/-- Tags with a name and a marker are one tag. -/
theorem Tag.exists_marker_iff {tags : List Tag} {name marker : Text} :
    (∃ tag, (tag ∈ tags ∧ tag.name = name) ∧ tag.marker = marker) ↔ ⟨name, marker⟩ ∈ tags := by
  constructor
  · rintro ⟨tag, ⟨hmem, rfl⟩, rfl⟩
    exact hmem
  · intro hmem
    exact ⟨⟨name, marker⟩, ⟨hmem, rfl⟩, rfl⟩

namespace TagTable

variable {table : TagTable} {name marker : Text}

theorem mem_names (h : ⟨name, marker⟩ ∈ table.tags) : name ∈ table.names :=
  List.mem_map.mpr ⟨_, h, rfl⟩

/-- The marker of a name is the marker of the first tag of that name. -/
theorem marker?_eq_find? (table : TagTable) (name : Text) :
    table.marker? name = (table.tags.find? (·.name == name)).map (·.marker) := by
  rw [List.find?_eq_map_findFinIdx?_getElem, Option.map_map]
  rfl

/-- Two tags of a table with one name are the same tag. -/
theorem eq_of_name_eq {a b : Tag} (ha : a ∈ table.tags) (hb : b ∈ table.tags)
    (h : a.name = b.name) : a = b :=
  List.inj_on_of_nodup_map table.nodup_names ha hb h

/-- A name stands for a marker exactly when the table lists it with that marker. -/
theorem marker?_eq_some_iff : table.marker? name = some marker ↔ ⟨name, marker⟩ ∈ table.tags := by
  rw [marker?_eq_find?, Option.map_eq_some_iff]
  simp only [find?_key_eq_some_iff table.nodup_names]
  exact Tag.exists_marker_iff

/-- A name stands for no marker exactly when it is none of the names listed. -/
theorem marker?_eq_none_iff : table.marker? name = none ↔ name ∉ table.names := by
  rw [marker?_eq_find?, Option.map_eq_none_iff, List.find?_eq_none, names, Tag.names]
  simp

end TagTable
end Tagdown
