/-
  Tagdown.Proofs.Tag.Alias

  The names of a table, grouped by marker. A tag whose marker has no group yet opens one
  behind the others (`AliasGroup.insert_of_new`), any other tag joins the only group of its
  marker (`AliasGroup.insert_of_mem`). So the groups of a table are those of its markers, in
  the order in which these are first seen, each with all names of its marker in table order
  (`TagTable.aliases_eq`): the names in parts (`TagTable.partitions_aliases`).
-/

import Tagdown.Proofs.Tag.Lookup
import Tagdown.Tag.Alias

namespace Tagdown

/-! ## Tags by marker -/

namespace Tag

/-- The markers of a list of tags, in order. -/
def markers (tags : List Tag) : List Text :=
  tags.map (·.marker)

/-- The markers of a list of tags without repetitions, each where it is first seen. -/
def firstMarkers (tags : List Tag) : List Text :=
  (markers tags).eraseDups

/-- The names that stand for a marker, in order. -/
def namesOf (marker : Text) (tags : List Tag) : List Text :=
  names (tags.filter (·.marker = marker))

variable {tags : List Tag} {tag : Tag} {name marker : Text}

theorem mem_firstMarkers : marker ∈ firstMarkers tags ↔ marker ∈ markers tags :=
  List.mem_eraseDups

theorem firstMarkers_append_singleton :
    firstMarkers (tags ++ [tag]) =
      if tag.marker ∈ firstMarkers tags then firstMarkers tags
      else firstMarkers tags ++ [tag.marker] := by
  have hmarkers : markers (tags ++ [tag]) = markers tags ++ [tag.marker] := List.map_append
  simp only [mem_firstMarkers]
  rw [firstMarkers, hmarkers, eraseDups_append_singleton]
  rfl

theorem mem_namesOf : name ∈ namesOf marker tags ↔ ⟨name, marker⟩ ∈ tags := by
  rw [namesOf, names, List.mem_map, ← exists_marker_iff]
  simp only [List.mem_filter, decide_eq_true_eq]
  exact exists_congr fun tag => and_right_comm

/-- A marker that no tag has stands for no name, and every other one for some. -/
theorem namesOf_eq_nil_iff : namesOf marker tags = [] ↔ marker ∉ firstMarkers tags := by
  rw [List.eq_nil_iff_forall_not_mem, mem_firstMarkers, markers, List.mem_map]
  simp only [mem_namesOf]
  constructor
  · rintro h ⟨tag, htag, rfl⟩
    exact h tag.name htag
  · exact fun h name hmem => h ⟨_, hmem, rfl⟩

theorem namesOf_append_singleton :
    namesOf marker (tags ++ [tag]) =
      if marker = tag.marker then namesOf marker tags ++ [tag.name] else namesOf marker tags := by
  by_cases h : marker = tag.marker
  · simp [namesOf, names, h]
  · simp [namesOf, names, h, Ne.symm h]

theorem namesOf_sublist (marker : Text) (tags : List Tag) :
    (namesOf marker tags).Sublist (names tags) :=
  List.filter_sublist.map _

end Tag

/-! ## One more tag -/

namespace AliasGroup

variable {groups : List AliasGroup} {tag : Tag}

/-- The group with the name of one more tag, if that has its marker. -/
def joined (tag : Tag) (group : AliasGroup) : AliasGroup :=
  if group.marker = tag.marker then { group with names := group.names ++ [tag.name] } else group

/-- Groups of other markers stay as they are. -/
theorem map_joined_of_new (h : tag.marker ∉ groups.map (·.marker)) :
    groups.map (joined tag) = groups := by
  have hsame : ∀ group ∈ groups, joined tag group = group := by
    intro group hgroup
    refine if_neg fun hmarker => h ?_
    rw [← hmarker]
    exact List.mem_map_of_mem hgroup
  rw [List.map_congr_left hsame, List.map_id']

/-- A new marker opens a group behind the others. -/
theorem insert_of_new (h : tag.marker ∉ groups.map (·.marker)) :
    insert groups tag = groups ++ [⟨tag.marker, [tag.name]⟩] := by
  induction groups with
  | nil => rfl
  | cons group groups ih =>
    rw [List.map_cons, List.mem_cons, not_or] at h
    rw [insert, if_neg (Ne.symm h.1), ih h.2, List.cons_append]

/-- Of groups with distinct markers only that of the tag is joined. -/
theorem insert_of_mem (hnodup : (groups.map (·.marker)).Nodup)
    (h : tag.marker ∈ groups.map (·.marker)) : insert groups tag = groups.map (joined tag) := by
  induction groups with
  | nil => cases h
  | cons group groups ih =>
    rw [List.map_cons, List.nodup_cons] at hnodup
    rw [List.map_cons, List.mem_cons] at h
    rw [insert, List.map_cons, joined]
    split
    · -- The search ends here, and the groups behind have other markers.
      rename_i hmarker
      rw [map_joined_of_new (hmarker ▸ hnodup.1)]
    · rename_i hmarker
      rw [ih hnodup.2 (h.resolve_left (Ne.symm hmarker))]

/-! ## All tags -/

/-- The group of a marker among tags. -/
def ofMarker (tags : List Tag) (marker : Text) : AliasGroup :=
  ⟨marker, Tag.namesOf marker tags⟩

theorem map_marker_ofMarker (tags : List Tag) (markers : List Text) :
    (markers.map (ofMarker tags)).map (·.marker) = markers := by
  rw [List.map_map]
  exact List.map_id markers

theorem ofMarker_append_singleton (tags : List Tag) (tag : Tag) (marker : Text) :
    ofMarker (tags ++ [tag]) marker = joined tag (ofMarker tags marker) := by
  rw [ofMarker, Tag.namesOf_append_singleton, joined]
  show _ = if marker = tag.marker then _ else _
  split <;> rfl

/-- The groups that tags are put into, one tag after the other. -/
theorem foldl_insert_eq (tags : List Tag) :
    tags.foldl insert [] = (Tag.firstMarkers tags).map (ofMarker tags) := by
  -- From the last tag on: it meets the groups of the tags in front of it.
  induction tags using List.reverseRecOn with
  | nil => rfl
  | append_singleton tags tag ih =>
    have hmarkers := map_marker_ofMarker tags (Tag.firstMarkers tags)
    have hgroups : (Tag.firstMarkers tags).map (ofMarker (tags ++ [tag])) =
        ((Tag.firstMarkers tags).map (ofMarker tags)).map (joined tag) := by
      rw [List.map_map]
      exact List.map_congr_left fun marker _ => ofMarker_append_singleton tags tag marker
    rw [List.foldl_append, List.foldl_cons, List.foldl_nil, ih, Tag.firstMarkers_append_singleton]
    split
    · rename_i hseen
      have hnodup : (((Tag.firstMarkers tags).map (ofMarker tags)).map (·.marker)).Nodup := by
        rw [hmarkers]
        exact nodup_eraseDups _
      rw [insert_of_mem hnodup (by rwa [hmarkers]), hgroups]
    · -- The old groups stay as they are, and the new one had no name before.
      rename_i hnew
      have hgroupsNew :
          tag.marker ∉ ((Tag.firstMarkers tags).map (ofMarker tags)).map (·.marker) := by
        rwa [hmarkers]
      have hjoined : ofMarker (tags ++ [tag]) tag.marker = ⟨tag.marker, [tag.name]⟩ := by
        rw [ofMarker, Tag.namesOf_append_singleton, if_pos rfl, Tag.namesOf_eq_nil_iff.mpr hnew]
        rfl
      rw [insert_of_new hgroupsNew, List.map_append, hgroups, map_joined_of_new hgroupsNew,
        List.map_singleton, hjoined]

/-- The groups hold the names of the table in parts: each name once, in the group of its
    marker, the groups in the order in which their markers are first seen and the names of
    a group in table order. -/
structure Partitions (groups : List AliasGroup) (table : TagTable) : Prop where
  nodup_markers : (groups.map (·.marker)).Nodup
  first_seen : (groups.map (·.marker)).Pairwise fun a b =>
    (Tag.markers table.tags).idxOf a < (Tag.markers table.tags).idxOf b
  existsUnique : ∀ name ∈ table.names, ∃! group, group ∈ groups ∧ name ∈ group.names
  nodup_names : ∀ group ∈ groups, group.names.Nodup
  mem_names : ∀ group ∈ groups, ∀ name ∈ group.names, name ∈ table.names
  names_ne_nil : ∀ group ∈ groups, group.names ≠ []
  mem_iff : ∀ name marker, (∃ group ∈ groups, group.marker = marker ∧ name ∈ group.names) ↔
    table.marker? name = some marker
  in_order : ∀ group ∈ groups, group.names.Sublist table.names

end AliasGroup

/-! ## The groups of a table -/

namespace TagTable

variable {table : TagTable} {group : AliasGroup} {name marker : Text}

theorem aliases_eq (table : TagTable) :
    table.aliases = (Tag.firstMarkers table.tags).map (.ofMarker table.tags) :=
  AliasGroup.foldl_insert_eq table.tags

theorem markers_aliases (table : TagTable) :
    table.aliases.map (·.marker) = Tag.firstMarkers table.tags := by
  rw [aliases_eq, AliasGroup.map_marker_ofMarker]

theorem nodup_markers_aliases (table : TagTable) : (table.aliases.map (·.marker)).Nodup := by
  rw [markers_aliases]
  exact nodup_eraseDups _

/-- A group of a table is that of one of its markers. -/
theorem mem_aliases_iff :
    group ∈ table.aliases ↔
      ∃ marker ∈ Tag.firstMarkers table.tags, .ofMarker table.tags marker = group := by
  rw [aliases_eq, List.mem_map]

theorem mem_names_iff_of_mem_aliases (h : group ∈ table.aliases) :
    name ∈ group.names ↔ ⟨name, group.marker⟩ ∈ table.tags := by
  obtain ⟨marker, -, rfl⟩ := mem_aliases_iff.mp h
  exact Tag.mem_namesOf

theorem names_ne_nil_of_mem_aliases (h : group ∈ table.aliases) : group.names ≠ [] := by
  obtain ⟨marker, hmarker, rfl⟩ := mem_aliases_iff.mp h
  exact fun hnil => Tag.namesOf_eq_nil_iff.mp hnil hmarker

theorem names_sublist_of_mem_aliases (h : group ∈ table.aliases) :
    group.names.Sublist table.names := by
  obtain ⟨marker, -, rfl⟩ := mem_aliases_iff.mp h
  exact Tag.namesOf_sublist marker table.tags

/-- The group of a marker has the names that stand for the marker. -/
theorem exists_mem_aliases_iff :
    (∃ group ∈ table.aliases, group.marker = marker ∧ name ∈ group.names) ↔
      table.marker? name = some marker := by
  rw [marker?_eq_some_iff]
  constructor
  · rintro ⟨group, hgroup, rfl, hname⟩
    exact (mem_names_iff_of_mem_aliases hgroup).mp hname
  · intro htag
    have hmarker : marker ∈ Tag.firstMarkers table.tags :=
      Tag.mem_firstMarkers.mpr (List.mem_map_of_mem htag)
    exact ⟨_, mem_aliases_iff.mpr ⟨marker, hmarker, rfl⟩, rfl, Tag.mem_namesOf.mpr htag⟩

/-- Every tag is in some group. -/
theorem aliases_eq_nil_iff : table.aliases = [] ↔ table.tags = [] := by
  constructor
  · intro h
    rw [List.eq_nil_iff_forall_not_mem]
    intro tag htag
    have hmarker : table.marker? tag.name = some tag.marker := marker?_eq_some_iff.mpr htag
    obtain ⟨group, hgroup, -⟩ := exists_mem_aliases_iff.mpr hmarker
    rw [h] at hgroup
    cases hgroup
  · intro h
    rw [aliases, h]
    rfl

/-- A name is in the group of its marker only, and no other group has that marker. -/
theorem existsUnique_mem_aliases (h : name ∈ table.names) :
    ∃! group, group ∈ table.aliases ∧ name ∈ group.names := by
  obtain ⟨tag, htag, rfl⟩ := List.mem_map.mp h
  have hmarker : table.marker? tag.name = some tag.marker := marker?_eq_some_iff.mpr htag
  obtain ⟨group, hgroup, hgroupMarker, hname⟩ := exists_mem_aliases_iff.mpr hmarker
  refine ⟨group, ⟨hgroup, hname⟩, ?_⟩
  -- A table has each name once, so another group with the name has the same marker.
  rintro other ⟨hother, hotherName⟩
  have hotherMarker : other.marker = tag.marker :=
    congrArg Tag.marker
      (eq_of_name_eq ((mem_names_iff_of_mem_aliases hother).mp hotherName) htag rfl)
  exact List.inj_on_of_nodup_map (nodup_markers_aliases table) hother hgroup
    (hotherMarker.trans hgroupMarker.symm)

/-- **The groups are the names in parts.** They have distinct markers, in the order in which the
    table first lists them. Every name of the table is in one group and once there, that of its
    marker, and no other name is in any; the names of a group stand in table order. -/
theorem partitions_aliases (table : TagTable) : AliasGroup.Partitions table.aliases table where
  nodup_markers := nodup_markers_aliases table
  first_seen := by
    rw [markers_aliases]
    exact pairwise_idxOf_eraseDups _
  existsUnique _ hname := existsUnique_mem_aliases hname
  nodup_names _ hgroup := (names_sublist_of_mem_aliases hgroup).nodup table.nodup_names
  mem_names _ hgroup _ hname := (names_sublist_of_mem_aliases hgroup).subset hname
  names_ne_nil _ hgroup := names_ne_nil_of_mem_aliases hgroup
  mem_iff _ _ := exists_mem_aliases_iff
  in_order _ hgroup := names_sublist_of_mem_aliases hgroup

/-- Two markers by turns: the group of the one that is seen first stands in front. -/
example :
    (TagTable.aliases
      { tags := [⟨['B'], ['-']⟩, ⟨['A'], ['#']⟩, ⟨['D'], ['-']⟩, ⟨['C'], ['#']⟩]
        nodup_names := by decide
        valid := by decide }) =
      [⟨['-'], [['B'], ['D']]⟩, ⟨['#'], [['A'], ['C']]⟩] := by
  decide

end TagTable
end Tagdown
