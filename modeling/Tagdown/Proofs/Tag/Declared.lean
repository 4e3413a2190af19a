/-
  Tagdown.Proofs.Tag.Declared

  What a run of declarations amounts to. One declaration changes the tag of its own
  name and no other (`Tag.find?_put`) and keeps the order of the names
  (`Tag.names_put`), so after a run every name stands where it was first declared
  and for what it was last declared (`Declarations.mem_tags_iff`). A table is built
  of that, or refused for the first name whose last declaration is not valid
  (`TagTable.build_follows_declarations`).
-/

import Tagdown.Proofs.Latest
import Tagdown.Proofs.Tag.Building
import Tagdown.Proofs.Text.Trim
import Tagdown.Settings.Decode

namespace Tagdown

/-! ## One declaration -/

namespace Tag

variable {tag : Tag} {tags calls : List Tag} {name marker : Text}

/-- A declaration is found under its name, and every other name is found as before. -/
theorem find?_put (tag : Tag) (tags : List Tag) (name : Text) :
    (put tag tags).find? (·.name == name) =
      if tag.name = name then some tag else tags.find? (·.name == name) := by
  induction tags with
  | nil => rw [put, find?_key_cons]
  | cons other rest ih =>
    by_cases hother : other.name = tag.name
    · rw [put, if_pos hother, find?_key_cons, find?_key_cons, hother]
      split <;> rfl
    · -- The declaration goes further back, behind an entry of another name.
      rw [put, if_neg hother, find?_key_cons, find?_key_cons, ih]
      by_cases hname : other.name = name
      · have h : tag.name ≠ name := fun h => hother (hname.trans h.symm)
        rw [if_pos hname, if_neg h, if_pos hname]
      · rw [if_neg hname, if_neg hname]

/-- The names of declarations, each where it is first declared. -/
def firstNames (calls : List Tag) : List Text :=
  (names calls).eraseDups

/-- The marker that is declared last for a name. -/
def lastMarker? (name : Text) (calls : List Tag) : Option Text :=
  (latest? Tag.name name calls).map (·.marker)

theorem mem_firstNames : name ∈ firstNames calls ↔ name ∈ names calls :=
  List.mem_eraseDups

theorem firstNames_append_singleton :
    firstNames (calls ++ [tag]) =
      if tag.name ∈ firstNames calls then firstNames calls else firstNames calls ++ [tag.name] := by
  have hnames : names (calls ++ [tag]) = names calls ++ [tag.name] := List.map_append
  simp only [mem_firstNames]
  rw [firstNames, hnames, eraseDups_append_singleton]
  rfl

/-- Exactly the declared names have a last marker. -/
theorem lastMarker?_eq_none_iff : lastMarker? name calls = none ↔ name ∉ names calls := by
  rw [lastMarker?, Option.map_eq_none_iff, latest?_eq_none_iff, names, List.mem_map]
  push Not
  rfl

/-- A marker is blank or has a character that is not. -/
theorem trimBlank_ne_nil_iff : Text.trimBlank marker ≠ [] ↔ ∃ c ∈ marker, Text.isBlank c = false := by
  rw [Text.trimBlank, ne_eq, Text.trimBy_eq_nil_iff]
  push Not
  simp only [ne_eq, Bool.not_eq_true]

end Tag

/-! ## Runs of declarations -/

namespace Declarations

variable {calls : List Tag} {name marker : Text}

/-- After a run each name stands where it was first declared. -/
theorem names_declareAll (calls : List Tag) :
    Tag.names (empty.declareAll calls).tags = Tag.firstNames calls := by
  induction calls using List.reverseRecOn with
  | nil => rfl
  | append_singleton calls tag ih =>
    have hrun : empty.declareAll (calls ++ [tag]) = (empty.declareAll calls).declare tag := by
      rw [declareAll, List.foldl_append]
      rfl
    rw [hrun, Tag.firstNames_append_singleton, ← ih]
    exact Tag.names_put tag _

/-- After a run each name is found as it was declared last. -/
theorem find?_declareAll (calls : List Tag) (name : Text) :
    (empty.declareAll calls).tags.find? (·.name == name) = latest? Tag.name name calls := by
  have hput : ∀ (d : Declarations) (tag : Tag), (d.declare tag).tags.find? (·.name == name) =
      if tag.name = name then some tag else d.tags.find? (·.name == name) :=
    fun d tag => Tag.find?_put tag d.tags name
  exact (lookup_foldl (·.tags.find? (·.name == name)) hput empty calls).trans Option.or_none

/-- After a run a name is declared with a marker exactly if that marker came last. -/
theorem mem_tags_iff :
    ⟨name, marker⟩ ∈ (empty.declareAll calls).tags ↔ Tag.lastMarker? name calls = some marker := by
  rw [Tag.lastMarker?, ← find?_declareAll, Option.map_eq_some_iff]
  simp only [find?_key_eq_some_iff (empty.declareAll calls).nodup_names]
  exact Tag.exists_marker_iff.symm

/-- The built-in tags are themselves a run of declarations. -/
theorem declareAll_standard (calls : List Tag) :
    standard.declareAll calls = empty.declareAll (TagTable.standardTags ++ calls) := by
  rw [declareAll, declareAll, List.foldl_append]
  congr 1

end Declarations

/-! ## Building a table -/

namespace Tag

/-- The text is one or more ASCII letters or digits. -/
def IsWord (name : Text) : Prop :=
  name ≠ [] ∧ ∀ c ∈ name, c.isAlphanum = true

/-- The last declaration of a name may stand in a table: the name is a word, and the
    marker has a character that is not white space. -/
def IsSound (calls : List Tag) (name : Text) : Prop :=
  IsWord name ∧ ∃ marker, lastMarker? name calls = some marker ∧ ∃ c ∈ marker, Text.isBlank c = false

/-- What is wrong with the last declaration of a name. A name that is no word comes before
    a marker that is blank. -/
inductive HasFault (calls : List Tag) (name : Text) : TagFault → Prop where
  | invalidName (h : ¬ IsWord name) : HasFault calls name (.invalidName name)
  | emptyMarker (h : IsWord name) (marker : Text) (hlast : lastMarker? name calls = some marker)
      (hblank : ∀ c ∈ marker, Text.isBlank c = true) : HasFault calls name (.emptyMarker name)

/-- The fault of a run: that of the first name, in the order of first declaration, whose
    last declaration may not stand in a table. -/
def IsFirstFault (calls : List Tag) (fault : TagFault) : Prop :=
  ∃ before name after, firstNames calls = before ++ name :: after ∧
    (∀ other ∈ before, IsSound calls other) ∧ HasFault calls name fault

variable {calls : List Tag} {tag : Tag} {fault : TagFault}

/-- A name is sound exactly if the tag that it ends up with is valid. -/
theorem isSound_iff_isValid (hlast : lastMarker? tag.name calls = some tag.marker) :
    IsSound calls tag.name ↔ tag.IsValid := by
  rw [IsSound, IsValid, trimBlank_ne_nil_iff, isName_iff]
  constructor
  · rintro ⟨hword, marker, hmarker, hblank⟩
    rw [hlast, Option.some.injEq] at hmarker
    exact ⟨hword, hmarker ▸ hblank⟩
  · rintro ⟨hword, hblank⟩
    exact ⟨hword, tag.marker, hlast, hblank⟩

/-- A name has the fault of the tag that it ends up with. -/
theorem hasFault_iff (hlast : lastMarker? tag.name calls = some tag.marker) :
    HasFault calls tag.name fault ↔ tag.fault? = some fault := by
  have hword : IsWord tag.name ↔ isName tag.name = true := isName_iff.symm
  have hblank : (Text.trimBlank tag.marker).isEmpty = true ↔
      ∀ c ∈ tag.marker, Text.isBlank c = true := by
    rw [List.isEmpty_iff, Text.trimBlank, Text.trimBy_eq_nil_iff]
  rw [fault?]
  constructor
  · -- A name that is no word is found first, whatever its marker.
    rintro (h | ⟨h, marker, hmarker, hall⟩)
    · rw [if_pos (by simpa using mt hword.mpr h)]
    · rw [hlast, Option.some.injEq] at hmarker
      rw [if_neg (by simpa using hword.mp h), if_pos (hblank.mpr (hmarker ▸ hall))]
  · intro hfault
    split at hfault
    · rename_i h
      cases hfault
      exact .invalidName (fun hw => by simp [hword.mp hw] at h)
    · rename_i h
      split at hfault
      · rename_i hall
        cases hfault
        exact .emptyMarker (hword.mpr (by simpa using h)) tag.marker hlast (hblank.mp hall)
      · cases hfault

end Tag

namespace TagTable

/-- The place of a name in a map that is collected from the entries of a table in their
    order, where a later entry of a name would replace an earlier one. -/
def collectedPlace? (table : TagTable) (name : Text) : Option Nat :=
  (latest? Prod.fst name table.names.zipIdx).map Prod.snd

/-- The table lists what was declared: each name once, where it was first declared, and
    with the marker that was declared last. The places of the names are places of the
    table, those that a map of the entries has. -/
structure Lists (table : TagTable) (calls : List Tag) : Prop where
  names_eq : table.names = Tag.firstNames calls
  nodup : table.names.Nodup
  marker?_eq : ∀ name, table.marker? name = Tag.lastMarker? name calls
  marker?_eq_none_iff : ∀ name, table.marker? name = none ↔ name ∉ Tag.names calls
  contains_iff : ∀ name, table.contains name = true ↔ ∃ marker, table.marker? name = some marker
  position?_eq_some_iff : ∀ name i, table.position? name = some i ↔ (table.tags.get i).name = name
  place_eq : ∀ name, table.collectedPlace? name = (table.position? name).map Fin.val

/-- What is built of a run of declarations: a table that lists them if all names are
    sound, and else the first fault. -/
structure BuiltOf (calls : List Tag) (result : Except TagFault TagTable) : Prop where
  ok_iff : (∃ table, result = .ok table) ↔ ∀ name ∈ Tag.names calls, Tag.IsSound calls name
  error_iff : ∀ fault, result = .error fault ↔ Tag.IsFirstFault calls fault
  lists : ∀ table, result = .ok table → table.Lists calls

section Built

variable {calls : List Tag} {table : TagTable} {name : Text}

/-- The place of a name is the only place where it stands. -/
theorem position?_eq_some_iff {i : Fin table.tags.length} :
    table.position? name = some i ↔ (table.tags.get i).name = name := by
  rw [position?, List.findFinIdx?_eq_some_iff]
  constructor
  · rintro ⟨hname, -⟩
    exact beq_iff_eq.mp hname
  · intro hname
    refine ⟨beq_iff_eq.mpr hname, ?_⟩
    intro j hj hother
    have hdistinct := List.pairwise_iff_getElem.mp (List.pairwise_map.mp table.nodup_names)
      j i j.isLt i.isLt hj
    exact hdistinct ((beq_iff_eq.mp hother).trans hname.symm)

/-- The map of the entries holds the places of the names. -/
theorem collectedPlace?_eq (table : TagTable) (name : Text) :
    table.collectedPlace? name = (table.position? name).map Fin.val := by
  have hnodup : (table.names.zipIdx.map Prod.fst).Nodup := by
    rw [List.zipIdx_map_fst]
    exact table.nodup_names
  apply Option.ext
  intro place
  rw [collectedPlace?, Option.map_eq_some_iff, Option.map_eq_some_iff]
  simp only [latest?_eq_some_iff hnodup, List.mem_zipIdx_iff_getElem?, position?_eq_some_iff]
  constructor
  · rintro ⟨⟨other, place⟩, ⟨hother, rfl⟩, rfl⟩
    obtain ⟨hlt, hname⟩ := List.getElem?_eq_some_iff.mp hother
    have hlt' : place < table.tags.length := by simpa [names, Tag.names] using hlt
    exact ⟨⟨place, hlt'⟩, by simpa [names, Tag.names] using hname, rfl⟩
  · rintro ⟨i, hname, rfl⟩
    refine ⟨(name, i.val), ⟨?_, rfl⟩, rfl⟩
    simp [names, Tag.names, ← hname]

/-- A table that is built of a run lists what was declared. -/
theorem lists_of_build (hbuild : build (.declareAll .empty calls) = .ok table) :
    table.Lists calls := by
  have htags := build_eq_ok_iff.mp hbuild
  have hmarker : ∀ name, table.marker? name = Tag.lastMarker? name calls := by
    intro name
    apply Option.ext
    intro marker
    rw [marker?_eq_some_iff, htags, Declarations.mem_tags_iff]
  have hnames : table.names = Tag.firstNames calls := by
    rw [names, htags, Declarations.names_declareAll]
  refine ⟨hnames, table.nodup_names, hmarker, fun name => ?_, fun name => ?_,
    fun _ _ => position?_eq_some_iff, collectedPlace?_eq table⟩
  · rw [hmarker, Tag.lastMarker?_eq_none_iff]
  · rw [contains, ← Option.isSome_iff_exists, marker?, Option.isSome_map]

/-- What is built of a run of declarations. -/
theorem builtOf_declareAll (calls : List Tag) :
    BuiltOf calls (build (.declareAll .empty calls)) := by
  have hlast : ∀ tag ∈ (Declarations.empty.declareAll calls).tags,
      Tag.lastMarker? tag.name calls = some tag.marker := fun _ => Declarations.mem_tags_iff.mp
  have hnames := Declarations.names_declareAll calls
  refine ⟨?_, fun fault => ?_, fun _ => lists_of_build⟩
  · rw [exists_build_iff]
    constructor
    · intro hvalid name hname
      rw [← Tag.mem_firstNames, ← hnames] at hname
      obtain ⟨tag, htag, rfl⟩ := List.mem_map.mp hname
      exact (Tag.isSound_iff_isValid (hlast tag htag)).mpr (hvalid tag htag)
    · intro hsound tag htag
      have hname : tag.name ∈ Tag.names calls := by
        rw [← Tag.mem_firstNames, ← hnames]
        exact List.mem_map_of_mem htag
      exact (Tag.isSound_iff_isValid (hlast tag htag)).mp (hsound tag.name hname)
  · -- The names in front of a tag are the names of the tags in front of it.
    rw [build_eq_error_iff, List.findSome?_eq_some_iff, Tag.IsFirstFault, ← hnames]
    have hsound : ∀ tag ∈ (Declarations.empty.declareAll calls).tags,
        (tag.fault? = none ↔ Tag.IsSound calls tag.name) := by
      intro tag htag
      rw [Tag.fault?_eq_none_iff, Tag.isSound_iff_isValid (hlast tag htag)]
    generalize (Declarations.empty.declareAll calls).tags = tags at hlast hsound
    constructor
    · rintro ⟨before, tag, after, rfl, hfault, hbefore⟩
      refine ⟨Tag.names before, tag.name, Tag.names after, by simp [Tag.names], ?_, ?_⟩
      · intro name hname
        obtain ⟨other, hother, rfl⟩ := List.mem_map.mp hname
        exact (hsound other (List.mem_append_left _ hother)).mp (hbefore other hother)
      · exact (Tag.hasFault_iff (hlast tag (by simp))).mpr hfault
    · rintro ⟨before, name, after, hsplit, hbefore, hfault⟩
      obtain ⟨front, back, rfl, rfl, hback⟩ := List.map_eq_append_iff.mp hsplit
      obtain ⟨tag, rest, rfl, rfl, rfl⟩ := List.map_eq_cons_iff.mp hback
      refine ⟨front, tag, rest, rfl, (Tag.hasFault_iff (hlast tag (by simp))).mp hfault, ?_⟩
      intro other hother
      exact (hsound other (List.mem_append_left _ hother)).mpr
        (hbefore other.name (List.mem_map_of_mem hother))

/-- A table that is built on the built-in tags lists their names first. -/
theorem standard_names_isPrefix (hbuild : build (.declareAll .standard calls) = .ok table) :
    standard.names <+: table.names := by
  rw [Declarations.declareAll_standard] at hbuild
  rw [(lists_of_build hbuild).names_eq, Tag.firstNames, Tag.names, List.map_append,
    List.eraseDups_append]
  have hdistinct : (standardTags.map Tag.name).eraseDups = standard.names := by decide
  rw [hdistinct]
  exact List.prefix_append _ _

/-- Every run of declarations, from nothing or behind the built-in tags, gives a table
    that lists what was declared, or the first fault. So do the extra tags of all
    settings. -/
theorem build_follows_declarations (calls : List Tag) :
    BuiltOf calls (build (.declareAll .empty calls)) ∧
      BuiltOf (standardTags ++ calls) (build (.declareAll .standard calls)) ∧
      (∀ table, build (.declareAll .standard calls) = .ok table →
        standard.names <+: table.names) ∧
      ∀ settings : Settings, BuiltOf (standardTags ++ settings.extra) settings.tagTable := by
  have hstandard : ∀ tags : List Tag,
      BuiltOf (standardTags ++ tags) (build (.declareAll .standard tags)) := by
    intro tags
    rw [Declarations.declareAll_standard]
    exact builtOf_declareAll _
  exact ⟨builtOf_declareAll calls, hstandard calls, fun _ => standard_names_isPrefix,
    fun settings => hstandard settings.extra⟩

/-- A blank marker that is declared anew does no harm. -/
example :
    (Declarations.empty.declareAll [⟨['A'], [' ']⟩, ⟨['B'], ['-']⟩, ⟨['A'], ['#']⟩]).tags =
      [⟨['A'], ['#']⟩, ⟨['B'], ['-']⟩] := by
  decide

end Built
end TagTable
end Tagdown
