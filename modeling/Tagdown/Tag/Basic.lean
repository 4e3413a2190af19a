/-
  Tagdown.Tag.Basic

  A tag maps a name, written in front of a line's content, to the marker that
  opens the markdown block for it.

  Main statement: `Tag.fault?_eq_none_iff`, a tag has no fault exactly when its
  name is one or more ASCII letters or digits and its marker is not blank.
-/

import Tagdown.Text.Blank

namespace Tagdown

/-- A tag: the name that users write and the markdown marker it stands for. -/
structure Tag where
  name : Text
  marker : Text
  deriving DecidableEq, Repr

/-- What can be wrong with the declaration of a tag. -/
inductive TagFault where
  /-- The name is empty or has a character other than an ASCII letter or digit. -/
  | invalidName (name : Text)
  /-- The marker of this tag is blank. -/
  | emptyMarker (name : Text)
  deriving DecidableEq, Repr

namespace TagFault

/-- The fault in words. -/
def message : TagFault → Text
  | invalidName name =>
    "Invalid tag prefix '".toList ++ name ++
      "': only ASCII letters and digits are allowed".toList
  | emptyMarker name =>
    "Tag prefix '".toList ++ name ++ "' maps to an empty markdown prefix".toList

end TagFault

namespace Tag

/-- The character may stand in the name of a tag. -/
def isNameChar (c : Char) : Bool :=
  c.isAlphanum

/-- The text is one or more ASCII letters or digits. -/
def isName (t : Text) : Bool :=
  !t.isEmpty && t.all isNameChar

/-- The first thing wrong with a tag; its name is looked at before its marker. -/
def fault? (tag : Tag) : Option TagFault :=
  if !isName tag.name then some (.invalidName tag.name)
  else if (Text.trimBlank tag.marker).isEmpty then some (.emptyMarker tag.name)
  else none

/-- The tag may stand in a table. -/
def IsValid (tag : Tag) : Prop :=
  isName tag.name = true ∧ Text.trimBlank tag.marker ≠ []

instance (tag : Tag) : Decidable tag.IsValid :=
  inferInstanceAs (Decidable (_ ∧ _))

theorem fault?_eq_none_iff (tag : Tag) : tag.fault? = none ↔ tag.IsValid := by
  simp only [fault?, IsValid]
  cases h : isName tag.name <;> simp

/-- The human name of a marker: list items, quotes and headings by their kind,
    every other marker as it is written. -/
def describe (marker : Text) : Text :=
  if marker = ['-'] ∨ marker = ['*'] ∨ marker = ['+'] then "List item".toList
  else if marker = ['>'] then "Quote".toList
  else if marker ≠ [] ∧ marker.length ≤ 6 ∧ marker.all (· == '#') then
    "Heading ".toList ++ Text.ofNat marker.length
  else marker

end Tag
end Tagdown
