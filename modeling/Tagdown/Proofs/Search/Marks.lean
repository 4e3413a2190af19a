/-
  Tagdown.Proofs.Search.Marks

  The rows of marks of a search as sets of places. A row denotes a set (`Denotes`) if the places
  that it marks are those of the set. Each operation on rows denotes the operation on sets that
  it is for: where the search takes a step `R` from place to place, what is marked afterwards is
  what `R` leads to (`ahead R`), and where it repeats the step, what so many steps lead to
  (`Denotes.power`, `Denotes.spread`).

  A search repeats a step only as often as the text has places. A run that never leads backwards
  stands still somewhere if it is longer than that, and steps on which it stands still can be
  put in or left out (`repeats_min_iff`).
-/

import Mathlib.Data.Set.Basic
import Tagdown.Search.Expression

namespace Tagdown
namespace Search

/-! ## Steps from place to place -/

/-- The relation leads from the first place to the second in so many steps. -/
def Repeats (R : Nat → Nat → Prop) : Nat → Nat → Nat → Prop
  | 0, i, j => i = j
  | count + 1, i, j => ∃ mid, R i mid ∧ Repeats R count mid j

/-- The places that the relation leads to from those of a set. -/
def ahead (R : Nat → Nat → Prop) (S : Set Nat) : Set Nat :=
  {j | ∃ i ∈ S, R i j}

section Repeats

variable {R : Nat → Nat → Prop} {count more n i j k : Nat}

theorem repeats_add_iff :
    Repeats R (count + more) i k ↔ ∃ j, Repeats R count i j ∧ Repeats R more j k := by
  induction count generalizing i with
  | zero => simp [Repeats]
  | succ count ih =>
    rw [Nat.succ_add, Repeats]
    simp only [ih]
    constructor
    · rintro ⟨mid, hmid, j, hj, hk⟩
      exact ⟨j, ⟨mid, hmid, hj⟩, hk⟩
    · rintro ⟨j, ⟨mid, hmid, hj⟩, hk⟩
      exact ⟨mid, hmid, j, hj, hk⟩

theorem repeats_one_iff : Repeats R 1 i j ↔ R i j := by
  simp [Repeats]

theorem Repeats.preserves {P : Nat → Prop} (hstep : ∀ i j, P i → R i j → P j)
    (h : Repeats R count i j) (hi : P i) : P j := by
  induction count generalizing i with
  | zero => exact h ▸ hi
  | succ count ih =>
    obtain ⟨mid, hmid, hrest⟩ := h
    exact ih hrest (hstep i mid hi hmid)

theorem Repeats.le (hforward : ∀ i j, R i j → i ≤ j) (h : Repeats R count i j) : i ≤ j :=
  h.preserves (fun x y hx hxy => hx.trans (hforward x y hxy)) (Nat.le_refl i)

/-- A run that does not lead backwards and has more steps than places in front stands still on
    one of them. -/
theorem Repeats.exists_still (hforward : ∀ i j, R i j → i ≤ j) (h : Repeats R count i j)
    (hmany : j < i + count) :
    ∃ before after x, count = before + 1 + after ∧ Repeats R before i x ∧ R x x ∧
      Repeats R after x j := by
  induction count generalizing i with
  | zero =>
    obtain rfl : i = j := h
    omega
  | succ count ih =>
    obtain ⟨mid, hmid, hrest⟩ := h
    by_cases hstill : mid = i
    · subst hstill
      exact ⟨0, count, mid, by omega, rfl, hmid, hrest⟩
    · -- The first step moves on, and the rest has still more steps than places in front.
      have hle := hforward i mid hmid
      obtain ⟨before, after, x, hcount, hbefore, hx, hafter⟩ := ih hrest (by omega)
      exact ⟨before + 1, after, x, by omega, ⟨mid, hmid, hbefore⟩, hx, hafter⟩

theorem repeats_succ_iff (hforward : ∀ i j, R i j → i ≤ j) (hmany : j < i + count) :
    Repeats R (count + 1) i j ↔ Repeats R count i j := by
  constructor
  · -- A step that stands still is left out.
    intro h
    obtain ⟨before, after, x, hcount, hbefore, -, hafter⟩ := h.exists_still hforward (by omega)
    obtain rfl : count = before + after := by omega
    exact repeats_add_iff.mpr ⟨x, hbefore, hafter⟩
  · -- A step that stands still is taken twice.
    intro h
    obtain ⟨before, after, x, rfl, hbefore, hx, hafter⟩ := h.exists_still hforward hmany
    have htwice : Repeats R (before + (1 + (1 + after))) i j :=
      repeats_add_iff.mpr ⟨x, hbefore, repeats_add_iff.mpr ⟨x, repeats_one_iff.mpr hx,
        repeats_add_iff.mpr ⟨x, repeats_one_iff.mpr hx, hafter⟩⟩⟩
    rwa [show before + 1 + after + 1 = before + (1 + (1 + after)) by omega]

/-- Among so many places a run needs no more steps than there are places. -/
theorem repeats_min_iff (hforward : ∀ i j, R i j → i ≤ j) (hj : j < n) (count : Nat) :
    Repeats R (min count n) i j ↔ Repeats R count i j := by
  rcases Nat.le_total count n with hle | hle
  · rw [Nat.min_eq_left hle]
  · rw [Nat.min_eq_right hle]
    induction count, hle using Nat.le_induction with
    | base => exact Iff.rfl
    | succ count hle ih => rw [ih, repeats_succ_iff hforward (by omega)]

/-- Of steps that all stand still one is as good as many. -/
theorem repeats_min_one_iff (hstill : ∀ i j, R i j → i = j) :
    Repeats R (min count 1) i j ↔ Repeats R count i j := by
  cases count with
  | zero => exact Iff.rfl
  | succ count =>
    rw [Nat.min_eq_right (Nat.le_add_left ..), repeats_one_iff]
    induction count with
    | zero => exact repeats_one_iff.symm
    | succ count ih =>
      rw [Repeats]
      constructor
      · intro h
        obtain rfl := hstill i j h
        exact ⟨i, h, ih.mp h⟩
      · rintro ⟨mid, hmid, hrest⟩
        obtain rfl := hstill i mid hmid
        exact ih.mpr hrest

end Repeats

/-! ## Rows of marks -/

namespace Marks

/-- The row has marks for `n` places, and the marked ones are those of the set. -/
structure Denotes (n : Nat) (m : Marks) (S : Set Nat) : Prop where
  length_eq : m.length = n
  getElem?_eq_iff : ∀ i, m[i]? = some true ↔ i ∈ S

variable {n : Nat} {a b m seen front : Marks} {A B S T : Set Nat} {R : Nat → Nat → Prop}
variable {f : Marks → Marks}

theorem Denotes.lt {i : Nat} (h : Denotes n m S) (hi : i ∈ S) : i < n := by
  have hmark := (h.getElem?_eq_iff i).mpr hi
  rw [← h.length_eq]
  exact (List.getElem?_eq_some_iff.mp hmark).1

theorem Denotes.exists_getElem? (h : Denotes n m S) {i : Nat} (hi : i < n) : ∃ x, m[i]? = some x :=
  ⟨_, List.getElem?_eq_getElem (h.length_eq ▸ hi)⟩

theorem Denotes.isSome_iff (h : Denotes n m S) : m.isSome = true ↔ S.Nonempty := by
  rw [isSome, List.any_eq_true]
  constructor
  · rintro ⟨x, hx, rfl⟩
    obtain ⟨i, hi⟩ := List.mem_iff_getElem?.mp hx
    exact ⟨i, (h.getElem?_eq_iff i).mp hi⟩
  · rintro ⟨i, hi⟩
    exact ⟨true, List.mem_of_getElem? ((h.getElem?_eq_iff i).mpr hi), rfl⟩

theorem getElem?_zipWith_iff {α : Type} {op : α → Bool → Bool} {l : List α} {i : Nat} :
    (List.zipWith op l m)[i]? = some true ↔
      ∃ x y, l[i]? = some x ∧ m[i]? = some y ∧ op x y = true := by
  rw [List.getElem?_zipWith]
  cases l[i]? <;> cases m[i]? <;> simp

theorem Denotes.union (ha : Denotes n a A) (hb : Denotes n b B) : Denotes n (a.union b) (A ∪ B) := by
  refine ⟨by simp [Marks.union, ha.length_eq, hb.length_eq], fun i => ?_⟩
  rw [Marks.union, getElem?_zipWith_iff, Set.mem_union, ← ha.getElem?_eq_iff, ← hb.getElem?_eq_iff]
  constructor
  · rintro ⟨x, y, hx, hy, hor⟩
    obtain rfl | rfl : x = true ∨ y = true := by simpa using hor
    · exact .inl hx
    · exact .inr hy
  · rintro (hx | hy)
    · obtain ⟨y, hy⟩ := hb.exists_getElem? (ha.lt ((ha.getElem?_eq_iff i).mp hx))
      exact ⟨true, y, hx, hy, Bool.true_or y⟩
    · obtain ⟨x, hx⟩ := ha.exists_getElem? (hb.lt ((hb.getElem?_eq_iff i).mp hy))
      exact ⟨x, true, hx, hy, Bool.or_true x⟩

theorem Denotes.diff (ha : Denotes n a A) (hb : Denotes n b B) : Denotes n (a.diff b) (A \ B) := by
  refine ⟨by simp [Marks.diff, ha.length_eq, hb.length_eq], fun i => ?_⟩
  rw [Marks.diff, getElem?_zipWith_iff, Set.mem_sdiff, ← ha.getElem?_eq_iff, ← hb.getElem?_eq_iff]
  constructor
  · rintro ⟨x, y, hx, hy, hand⟩
    obtain ⟨rfl, hnot⟩ : x = true ∧ y = false := by simpa using hand
    exact ⟨hx, by simp [hy, hnot]⟩
  · rintro ⟨hx, hnot⟩
    obtain ⟨y, hy⟩ := hb.exists_getElem? (ha.lt ((ha.getElem?_eq_iff i).mp hx))
    refine ⟨true, y, hx, hy, ?_⟩
    cases y with
    | false => rfl
    | true => exact absurd hy hnot

/-- Where a step is taken so many times. -/
theorem Denotes.power (hf : ∀ m S, Denotes n m S → Denotes n (f m) (ahead R S)) (count : Nat)
    (h : Denotes n m S) : Denotes n (Marks.power f count m) (ahead (Repeats R count) S) := by
  induction count generalizing m S with
  | zero =>
    have hsame : ahead (Repeats R 0) S = S := by simp [ahead, Repeats]
    rwa [Marks.power, hsame]
  | succ count ih =>
    rw [Marks.power]
    by_cases hsome : m.isSome = true
    · have hnext : ahead (Repeats R (count + 1)) S = ahead (Repeats R count) (ahead R S) := by
        ext j
        simp only [ahead, Repeats, Set.mem_ofPred_eq]
        constructor
        · rintro ⟨i, hi, mid, hmid, hj⟩
          exact ⟨mid, ⟨i, hi, hmid⟩, hj⟩
        · rintro ⟨mid, ⟨i, hi, hmid⟩, hj⟩
          exact ⟨i, hi, mid, hmid, hj⟩
      rw [if_pos hsome, hnext]
      exact ih (hf m S h)
    · -- Nothing is marked, so nothing is led to.
      rw [h.isSome_iff, Set.not_nonempty_iff_eq_empty] at hsome
      subst hsome
      rw [if_neg (by simp [h.isSome_iff])]
      simpa [ahead] using h

/-- Where a step is taken at most so many times. All steps from seen places lead to seen places
    again, except those from the places at the front. -/
theorem Denotes.spread (hf : ∀ m S, Denotes n m S → Denotes n (f m) (ahead R S)) (count : Nat)
    (hseen : Denotes n seen S) (hfront : Denotes n front T) (hsub : T ⊆ S)
    (hclosed : ∀ i ∈ S, ∀ j, R i j → j ∈ S ∨ i ∈ T) :
    Denotes n (Marks.spread f count seen front) {j | ∃ k ≤ count, j ∈ ahead (Repeats R k) S} := by
  induction count generalizing seen front S T with
  | zero =>
    have hsame : {j | ∃ k ≤ 0, j ∈ ahead (Repeats R k) S} = S := by simp [ahead, Repeats]
    rwa [Marks.spread, hsame]
  | succ count ih =>
    have hfresh : Denotes n ((f front).diff seen) (ahead R T \ S) := (hf front T hfront).diff hseen
    -- A step from a seen place leads to one that is seen or fresh.
    have hstep : ∀ i ∈ S, ∀ j, R i j → j ∈ S ∪ ahead R T \ S := by
      intro i hi j hj
      by_cases hjS : j ∈ S
      · exact .inl hjS
      · exact .inr ⟨⟨i, (hclosed i hi j hj).resolve_left hjS, hj⟩, hjS⟩
    rw [Marks.spread]
    by_cases hsome : ((f front).diff seen).isSome = true
    · have hnext : {j | ∃ k ≤ count + 1, j ∈ ahead (Repeats R k) S} =
          {j | ∃ k ≤ count, j ∈ ahead (Repeats R k) (S ∪ ahead R T \ S)} := by
        ext j
        constructor
        · rintro ⟨k, hk, i, hi, hj⟩
          cases k with
          | zero => exact ⟨0, Nat.zero_le _, i, .inl hi, hj⟩
          | succ k =>
            obtain ⟨mid, hmid, hj⟩ := hj
            exact ⟨k, by omega, mid, hstep i hi mid hmid, hj⟩
        · rintro ⟨k, hk, i, hi | ⟨⟨x, hx, hi⟩, -⟩, hj⟩
          · exact ⟨k, by omega, i, hi, hj⟩
          · exact ⟨k + 1, by omega, x, hsub hx, i, hi, hj⟩
      rw [if_pos hsome, hnext]
      refine ih (hseen.union hfresh) hfresh Set.subset_union_right ?_
      rintro i (hi | hi) j hj
      · exact .inl (hstep i hi j hj)
      · exact .inr hi
    · -- Nothing is fresh, so the seen places are all there are.
      rw [hfresh.isSome_iff, Set.not_nonempty_iff_eq_empty] at hsome
      have hstay : ∀ k, ∀ i ∈ S, ∀ j, Repeats R k i j → j ∈ S := by
        intro k
        induction k with
        | zero => rintro i hi j rfl; exact hi
        | succ k ihk =>
          rintro i hi j ⟨mid, hmid, hj⟩
          have hmidS := hstep i hi mid hmid
          rw [hsome, Set.union_empty] at hmidS
          exact ihk mid hmidS j hj
      have hsame : {j | ∃ k ≤ count + 1, j ∈ ahead (Repeats R k) S} = S := by
        ext j
        constructor
        · rintro ⟨k, -, i, hi, hj⟩
          exact hstay k i hi j hj
        · intro hj
          exact ⟨0, Nat.zero_le _, j, hj, rfl⟩
      rw [if_neg (by simp [hfresh.isSome_iff, hsome]), hsame]
      exact hseen

end Marks

/-! ## Places of a text -/

/-- The place of a text behind so many characters, where `before` comes before the text. -/
def Place.at (before : Option Char) (t : Text) : Nat → Place
  | 0 => ⟨before, t[0]?⟩
  | i + 1 => ⟨t[i]?, t[i + 1]?⟩

theorem Place.getElem?_row (before : Option Char) (t : Text) {i : Nat} (hi : i ≤ t.length) :
    (row before t)[i]? = some (Place.at before t i) := by
  induction t generalizing before i with
  | nil =>
    obtain rfl : i = 0 := by simpa using hi
    rfl
  | cons c rest ih =>
    cases i with
    | zero => rfl
    | succ i =>
      rw [row, List.getElem?_cons_succ, ih (some c) (by simpa using hi)]
      cases i <;> rfl

theorem Place.getElem?_all (t : Text) {i : Nat} (hi : i ≤ t.length) :
    (Place.all t)[i]? = some (Place.at none t i) :=
  getElem?_row none t hi

theorem Place.length_all (t : Text) : (Place.all t).length = t.length + 1 := by
  have hrow : ∀ before, (row before t).length = t.length + 1 := by
    induction t with
    | nil => exact fun _ => rfl
    | cons c rest ih => exact fun before => congrArg (· + 1) (ih (some c))
  exact hrow none

theorem Place.after_at (before : Option Char) (t : Text) (i : Nat) :
    (Place.at before t i).after = t[i]? := by
  cases i <;> rfl

namespace Marks

variable {t : Text} {m : Marks} {S : Set Nat}

theorem Denotes.keep (p : Place → Bool) (h : Denotes (t.length + 1) m S) :
    Denotes (t.length + 1) (m.keep p (Place.all t)) {i | i ∈ S ∧ p (Place.at none t i) = true} := by
  refine ⟨by simp [Marks.keep, h.length_eq, Place.length_all], fun i => ?_⟩
  rw [Marks.keep, getElem?_zipWith_iff, Set.mem_ofPred_eq, ← h.getElem?_eq_iff]
  constructor
  · rintro ⟨place, x, hplace, hx, hand⟩
    obtain ⟨rfl, hp⟩ : x = true ∧ p place = true := by simpa using hand
    have hi : i ≤ t.length := Nat.le_of_lt_succ (h.lt ((h.getElem?_eq_iff i).mp hx))
    rw [Place.getElem?_all t hi, Option.some.injEq] at hplace
    exact ⟨hx, hplace ▸ hp⟩
  · rintro ⟨hx, hp⟩
    have hi : i ≤ t.length := Nat.le_of_lt_succ (h.lt ((h.getElem?_eq_iff i).mp hx))
    exact ⟨_, true, Place.getElem?_all t hi, hx, by simpa using hp⟩

theorem Denotes.advance (set : CharSet) (h : Denotes (t.length + 1) m S) :
    Denotes (t.length + 1) (m.advance set (Place.all t))
      (ahead (fun i j => j = i + 1 ∧ t[i]?.any set.holds = true) S) := by
  have hkeep := h.keep fun p => p.after.any set.holds
  rw [Marks.advance]
  split
  · next heq => rw [heq] at hkeep; exact absurd hkeep.length_eq (by simp)
  · next x rest heq =>
    rw [heq] at hkeep
    refine ⟨by simpa using hkeep.length_eq, fun j => ?_⟩
    cases j with
    | zero => simp [ahead]
    | succ i =>
      -- The last place has no character behind it, so no mark is lost with it.
      have hmark : (x :: rest)[i]? = some true ↔ i ∈ S ∧ t[i]?.any set.holds = true := by
        rw [hkeep.getElem?_eq_iff, Set.mem_ofPred_eq, Place.after_at]
      have hdrop : (x :: rest).dropLast[i]? = some true ↔ (x :: rest)[i]? = some true := by
        rw [List.getElem?_dropLast]
        split
        · exact Iff.rfl
        · next hlast =>
          rw [hmark]
          have hlength := hkeep.length_eq
          simp only [reduceCtorEq, false_iff, not_and, Bool.not_eq_true]
          intro _
          rw [List.getElem?_eq_none (by omega)]
          rfl
      rw [List.getElem?_cons_succ, hdrop, hmark]
      constructor
      · rintro ⟨hi, hc⟩
        exact ⟨i, hi, rfl, hc⟩
      · rintro ⟨x, hx, hnext, hc⟩
        obtain rfl : i = x := by omega
        exact ⟨hx, hc⟩

end Marks

end Search
end Tagdown
