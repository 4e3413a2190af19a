/-
  Tagdown.Tag.Declarations

  Declarations of tags in the order of their first appearance. Declaring a name
  again replaces its marker in place, so a name is listed once.

  Main statements: `names_put` (the names after a declaration), `nodup_names`
  of every `Declarations`.
-/

import Tagdown.Tag.Basic

namespace Tagdown
namespace Tag

/-- The list with the tag declared: in the place of the tag of that name, else
    at the end. -/
def put (tag : Tag) : List Tag → List Tag
  | [] => [tag]
  | other :: rest =>
    if other.name = tag.name then tag :: rest else other :: put tag rest

/-- The names of a list of tags, in order. -/
def names (tags : List Tag) : List Text :=
  tags.map (·.name)

theorem names_put (tag : Tag) (tags : List Tag) :
    names (put tag tags) =
      if tag.name ∈ names tags then names tags else names tags ++ [tag.name] := by
  induction tags with
  | nil => simp [put, names]
  | cons other rest ih =>
    by_cases h : other.name = tag.name
    · simp [put, names, h]
    · have h' : tag.name ≠ other.name := fun e => h e.symm
      simp only [names] at ih
      by_cases hm : tag.name ∈ rest.map (·.name)
      · simp only [put, names, h, ↓reduceIte, List.map_cons, ih, hm, List.mem_cons, h',
          false_or]
      · simp only [put, names, h, ↓reduceIte, List.map_cons, ih, hm, List.mem_cons, h',
          false_or, List.cons_append]

theorem nodup_names_put {tag : Tag} {tags : List Tag} (h : (names tags).Nodup) :
    (names (put tag tags)).Nodup := by
  rw [names_put]
  split
  · exact h
  · rename_i hm
    rw [List.nodup_append]
    refine ⟨h, by simp, ?_⟩
    intro a ha b hb hab
    simp only [List.mem_singleton] at hb
    exact hm (hb ▸ hab ▸ ha)

end Tag

/-- Tags declared so far, each name once. -/
structure Declarations where
  tags : List Tag
  nodup_names : (Tag.names tags).Nodup

namespace Declarations

/-- No declaration yet. -/
def empty : Declarations :=
  ⟨[], by simp [Tag.names]⟩

/-- The declarations with one more. -/
def declare (d : Declarations) (tag : Tag) : Declarations :=
  ⟨Tag.put tag d.tags, Tag.nodup_names_put d.nodup_names⟩

/-- The declarations with all of `tags`, in order. -/
def declareAll (d : Declarations) (tags : List Tag) : Declarations :=
  tags.foldl declare d

end Declarations
end Tagdown
