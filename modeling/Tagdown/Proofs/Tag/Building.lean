/-
  Tagdown.Proofs.Tag.Building

  Tables built from declarations. A table that is built lists the declared tags
  (`build_eq_ok_iff`), so there is one as soon as all of them are valid. A tag of a
  new name stands behind the others and leaves every other look-up as it is
  (`mem_tags_iff_of_ne`).
-/

import Tagdown.Proofs.Tag.Lookup

namespace Tagdown

namespace Tag

theorem isName_iff {name : Text} :
    isName name = true ↔ name ≠ [] ∧ ∀ c ∈ name, isNameChar c = true := by
  simp [isName]

/-- A tag of a new name is declared behind the others. -/
theorem put_of_new {tag : Tag} {tags : List Tag} (h : tag.name ∉ names tags) :
    put tag tags = tags ++ [tag] := by
  induction tags with
  | nil => rfl
  | cons other rest ih =>
    rw [names, List.map_cons, List.mem_cons, not_or] at h
    rw [put, if_neg (Ne.symm h.1), ih h.2, List.cons_append]

end Tag

namespace TagTable

variable {d : Declarations} {table larger : TagTable} {tag : Tag} {name marker : Text}

theorem ext_tags (h : table.tags = larger.tags) : table = larger := by
  cases table
  cases larger
  cases h
  rfl

/-- What is built is the table of the declared tags. -/
theorem build_eq_ok_iff : build d = .ok table ↔ table.tags = d.tags := by
  constructor
  · intro h
    unfold build at h
    split at h
    · cases h
    · cases h
      rfl
  · intro h
    have hnone : d.tags.findSome? Tag.fault? = none := by
      rw [List.findSome?_eq_none_iff]
      intro tag hmem
      exact (Tag.fault?_eq_none_iff tag).mpr (table.valid tag (h ▸ hmem))
    unfold build
    split
    · rename_i fault hfault
      rw [hnone] at hfault
      cases hfault
    · exact congrArg Except.ok (ext_tags h.symm)

/-- There is a table of the declared tags exactly if all of them are valid. -/
theorem exists_build_iff : (∃ table, build d = .ok table) ↔ ∀ tag ∈ d.tags, tag.IsValid := by
  constructor
  · rintro ⟨table, hbuild⟩ tag hmem
    rw [← build_eq_ok_iff.mp hbuild] at hmem
    exact table.valid tag hmem
  · intro hvalid
    exact ⟨⟨d.tags, d.nodup_names, hvalid⟩, build_eq_ok_iff.mpr rfl⟩

/-- What is refused is refused for the first declared tag that has a fault. -/
theorem build_eq_error_iff {fault : TagFault} :
    build d = .error fault ↔ d.tags.findSome? Tag.fault? = some fault := by
  unfold build
  split
  · rename_i found hfound
    rw [hfound, Except.error.injEq, Option.some.injEq]
  · rename_i hnone
    constructor
    · intro h
      cases h
    · intro h
      rw [hnone] at h
      cases h

/-- With a valid tag of a new name declared as well, there is a table, and it lists
    that tag behind the others. -/
theorem exists_build_declare (hbuild : build d = .ok table) (hvalid : tag.IsValid)
    (hnew : tag.name ∉ table.names) :
    ∃ larger, build (d.declare tag) = .ok larger ∧ larger.tags = table.tags ++ [tag] := by
  have htags : table.tags = d.tags := build_eq_ok_iff.mp hbuild
  have hdeclared : (d.declare tag).tags = table.tags ++ [tag] := by
    rw [htags]
    exact Tag.put_of_new (by rwa [names, htags] at hnew)
  have hall : ∀ other ∈ (d.declare tag).tags, other.IsValid := by
    intro other hother
    rw [hdeclared, List.mem_append, List.mem_singleton] at hother
    rcases hother with hmem | rfl
    · exact table.valid other hmem
    · exact hvalid
  obtain ⟨larger, hlarger⟩ := exists_build_iff.mpr hall
  exact ⟨larger, hlarger, (build_eq_ok_iff.mp hlarger).trans hdeclared⟩

/-! ## Tables with one more tag -/

theorem names_of_append (h : larger.tags = table.tags ++ [tag]) :
    larger.names = table.names ++ [tag.name] := by
  rw [names, h, Tag.names, List.map_append]
  rfl

/-- The tag that is added has a name of its own. -/
theorem not_mem_names_of_append (h : larger.tags = table.tags ++ [tag]) :
    tag.name ∉ table.names := by
  intro hmem
  have hnodup : larger.names.Nodup := larger.nodup_names
  rw [names_of_append h] at hnodup
  exact (List.nodup_append.mp hnodup).2.2 _ hmem _ (List.mem_singleton_self _) rfl

/-- Every other name stands for what it stood for. -/
theorem mem_tags_iff_of_ne (h : larger.tags = table.tags ++ [tag]) (hne : name ≠ tag.name) :
    ⟨name, marker⟩ ∈ larger.tags ↔ ⟨name, marker⟩ ∈ table.tags := by
  rw [h, List.mem_append, List.mem_singleton]
  constructor
  · rintro (hmem | rfl)
    · exact hmem
    · exact absurd rfl hne
  · exact .inl

end TagTable
end Tagdown
