/-
  Tagdown.Tag.Alias

  Names that stand for the same marker, grouped.
-/

import Tagdown.Tag.Table

namespace Tagdown

/-- The names that stand for one marker, in table order. -/
structure AliasGroup where
  marker : Text
  names : List Text
  deriving DecidableEq, Repr

namespace AliasGroup

/-- The groups with one more tag: its name joins the group of its marker, or
    opens a new group at the end. -/
def insert (groups : List AliasGroup) (tag : Tag) : List AliasGroup :=
  match groups with
  | [] => [⟨tag.marker, [tag.name]⟩]
  | group :: rest =>
    if group.marker = tag.marker then
      { group with names := group.names ++ [tag.name] } :: rest
    else group :: insert rest tag

end AliasGroup

namespace TagTable

/-- The names of the table grouped by marker, the groups in the order in which
    their markers are first seen. -/
def aliases (t : TagTable) : List AliasGroup :=
  t.tags.foldl AliasGroup.insert []

end TagTable
end Tagdown
