/-
  Tagdown.Proofs.Matches

  Matches of a pattern in a text that goes on. If no match starts in front of what follows
  and reaches into it (`Pattern.StopsBefore`), the two parts are searched one by one: their
  matches are counted (`count_append`) and erased (`erase_append`) separately.
-/

import Tagdown.Statistics.Match

namespace Tagdown
namespace Pattern

variable {p : Pattern} {t trail : Text} {c : Char}

/-! ## One step of the search -/

theorem count_of_some {rest after : Text} (h : p.rest? (c :: rest) = some after) :
    p.count (c :: rest) = p.count after + 1 := by
  rw [count]
  split
  · rename_i found hfound
    cases h.symm.trans hfound
    rfl
  · rename_i hnone
    cases h.symm.trans hnone

theorem count_of_none {rest : Text} (h : p.rest? (c :: rest) = none) :
    p.count (c :: rest) = p.count rest := by
  rw [count]
  split
  · rename_i found hfound
    cases h.symm.trans hfound
  · rfl

/-- The text without the matches that are counted. -/
def erase (p : Pattern) : Text → Text
  | [] => []
  | c :: rest =>
    match _h : p.rest? (c :: rest) with
    | some after => p.erase after
    | none => c :: p.erase rest
termination_by t => t.length
decreasing_by
  · exact p.length_lt _h
  · simp

theorem erase_of_some {rest after : Text} (h : p.rest? (c :: rest) = some after) :
    p.erase (c :: rest) = p.erase after := by
  rw [erase]
  split
  · rename_i found hfound
    cases h.symm.trans hfound
    rfl
  · rename_i hnone
    cases h.symm.trans hnone

theorem erase_of_none {rest : Text} (h : p.rest? (c :: rest) = none) :
    p.erase (c :: rest) = c :: p.erase rest := by
  rw [erase]
  split
  · rename_i found hfound
    cases h.symm.trans hfound
  · rfl

/-! ## Texts that go on -/

/-- A match in front of `trail` is the same without it: none starts with it and none reaches
    into it. -/
def StopsBefore (p : Pattern) (trail : Text) : Prop :=
  ∀ t, p.rest? (t ++ trail) = (p.rest? t).map (· ++ trail)

theorem StopsBefore.rest?_of_some (h : p.StopsBefore trail) {rest after : Text}
    (hafter : p.rest? (c :: rest) = some after) :
    p.rest? (c :: (rest ++ trail)) = some (after ++ trail) := by
  rw [← List.cons_append, h, hafter]
  rfl

theorem StopsBefore.rest?_of_none (h : p.StopsBefore trail) {rest : Text}
    (hnone : p.rest? (c :: rest) = none) : p.rest? (c :: (rest ++ trail)) = none := by
  rw [← List.cons_append, h, hnone]
  rfl

theorem StopsBefore.count_append (h : p.StopsBefore trail) (t : Text) :
    p.count (t ++ trail) = p.count t + p.count trail := by
  fun_induction count p t with
  | case1 => simp
  | case2 c rest after hafter ih =>
    rw [List.cons_append, count_of_some (h.rest?_of_some hafter), ih]
    omega
  | case3 c rest hnone ih =>
    rw [List.cons_append, count_of_none (h.rest?_of_none hnone), ih]

theorem StopsBefore.erase_append (h : p.StopsBefore trail) (t : Text) :
    p.erase (t ++ trail) = p.erase t ++ p.erase trail := by
  fun_induction erase p t with
  | case1 => rfl
  | case2 c rest after hafter ih =>
    rw [List.cons_append, erase_of_some (h.rest?_of_some hafter), ih]
  | case3 c rest hnone ih =>
    rw [List.cons_append, erase_of_none (h.rest?_of_none hnone), ih, List.cons_append]

/-- Where no match starts in the first part, only the second is searched. -/
theorem count_append_of_none {lead : Text} (h : ∀ c ∈ lead, ∀ rest, p.rest? (c :: rest) = none)
    (t : Text) : p.count (lead ++ t) = p.count t := by
  induction lead with
  | nil => rfl
  | cons c lead ih =>
    rw [List.forall_mem_cons] at h
    rw [List.cons_append, count_of_none (h.1 _), ih h.2]

theorem erase_append_of_none {lead : Text} (h : ∀ c ∈ lead, ∀ rest, p.rest? (c :: rest) = none)
    (t : Text) : p.erase (lead ++ t) = lead ++ p.erase t := by
  induction lead with
  | nil => rfl
  | cons c lead ih =>
    rw [List.forall_mem_cons] at h
    rw [List.cons_append, erase_of_none (h.1 _), ih h.2, List.cons_append]

end Pattern
end Tagdown
