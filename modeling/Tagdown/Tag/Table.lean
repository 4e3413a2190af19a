/-
  Tagdown.Tag.Table

  A tag table: valid tags with distinct names, in the order of declaration.

  `TagTable.build` makes one of declarations and refuses the first tag that has
  a fault. `TagTable.marker?` looks a name up, with its case, through its
  position in the table.
-/

import Tagdown.Tag.Declarations

namespace Tagdown

/-- A table of valid tags with distinct names. -/
structure TagTable where
  tags : List Tag
  nodup_names : (Tag.names tags).Nodup
  valid : ∀ tag ∈ tags, tag.IsValid

namespace TagTable

/-- The table of the declared tags, or the first fault among them. -/
def build (d : Declarations) : Except TagFault TagTable :=
  match h : d.tags.findSome? Tag.fault? with
  | some fault => .error fault
  | none =>
    .ok
      { tags := d.tags
        nodup_names := d.nodup_names
        valid := fun tag hm =>
          (Tag.fault?_eq_none_iff tag).1 (List.findSome?_eq_none_iff.1 h tag hm) }

/-- The built-in tags: a telling name and a short one for each marker. -/
def standardTags : List Tag :=
  [⟨"Title1".toList, "#".toList⟩, ⟨"Title2".toList, "##".toList⟩,
   ⟨"Title3".toList, "###".toList⟩, ⟨"List".toList, "-".toList⟩,
   ⟨"Quote".toList, ">".toList⟩, ⟨"AAA".toList, "#".toList⟩,
   ⟨"BBB".toList, "##".toList⟩, ⟨"CCC".toList, "###".toList⟩,
   ⟨"DDD".toList, "-".toList⟩, ⟨"EEE".toList, ">".toList⟩]

/-- The built-in table. -/
def standard : TagTable :=
  { tags := standardTags
    nodup_names := by decide
    valid := by decide }

/-- The number of tags. -/
def size (t : TagTable) : Nat :=
  t.tags.length

/-- The names in the table, in order. -/
def names (t : TagTable) : List Text :=
  Tag.names t.tags

/-- Where the tag of a name stands. -/
def position? (t : TagTable) (name : Text) : Option (Fin t.tags.length) :=
  t.tags.findFinIdx? (·.name == name)

/-- The marker that a name stands for. -/
def marker? (t : TagTable) (name : Text) : Option Text :=
  (t.position? name).map fun i => t.tags[i].marker

/-- The name is in the table. -/
def contains (t : TagTable) (name : Text) : Bool :=
  (t.position? name).isSome

/-- The two tables list the same tags in the same order. -/
def sameTags (t u : TagTable) : Bool :=
  t.tags == u.tags

end TagTable

namespace Declarations

/-- The built-in tags, declared in order. -/
def standard : Declarations :=
  ⟨TagTable.standardTags, TagTable.standard.nodup_names⟩

end Declarations
end Tagdown
