/-
  Tagdown.Proofs.Search.Matching

  What the search for an expression finds. An expression leads from some places of a text to
  others (`Expression.Leads`), which says what it matches and nothing of how that is found out.
  What the search marks are the places that the expression leads to
  (`Expression.denotes_ends`), so an expression occurs in a text exactly if it leads from one
  place of it to another (`Expression.occursIn_iff`).

  Expressions are made with shortcuts: one set in place of several characters, no repetition of
  what stands still. They lead where the expressions without the shortcuts lead
  (`leads_foldr_andThen`, `leads_oneOf`, `leads_times`).
-/

import Tagdown.Proofs.Search.Marks

namespace Tagdown
namespace Search

/-! ## Expressions -/

namespace Expression

/-- The expression leads from the first place of the text to the second: it matches what
    stands between them. -/
def Leads (t : Text) : Expression → Nat → Nat → Prop
  | empty, i, j => i = j
  | chars set, i, j => j = i + 1 ∧ t[i]?.any set.holds = true
  | look l, i, j => i = j ∧ l.holds (Place.at none t i) = true
  | seq a b, i, j => ∃ mid, a.Leads t i mid ∧ b.Leads t mid j
  | alt a b, i, j => a.Leads t i j ∨ b.Leads t i j
  | repeated least most inner, i, j =>
    ∃ more, (∀ limit ∈ most, more ≤ limit - least) ∧ Repeats (inner.Leads t) (least + more) i j
  | remembered inner, i, j => inner.Leads t i j

variable {t : Text} {e : Expression} {i j : Nat}

theorem Leads.le (h : e.Leads t i j) : i ≤ j := by
  induction e generalizing i j with
  | empty => exact Nat.le_of_eq h
  | chars set => exact h.1 ▸ Nat.le_succ i
  | look l => exact Nat.le_of_eq h.1
  | seq a b iha ihb =>
    obtain ⟨mid, ha, hb⟩ := h
    exact (iha ha).trans (ihb hb)
  | alt a b iha ihb => exact h.elim iha ihb
  | repeated least most inner ih =>
    obtain ⟨more, -, hrun⟩ := h
    exact hrun.le fun _ _ => ih
  | remembered inner ih => exact ih h

theorem Leads.le_length (h : e.Leads t i j) (hi : i ≤ t.length) : j ≤ t.length := by
  induction e generalizing i j with
  | empty => exact h ▸ hi
  | chars set =>
    obtain ⟨rfl, hc⟩ := h
    -- Behind the last place there is no character to match.
    by_contra hlast
    rw [List.getElem?_eq_none (by omega)] at hc
    exact Bool.false_ne_true hc
  | look l => exact h.1 ▸ hi
  | seq a b iha ihb =>
    obtain ⟨mid, ha, hb⟩ := h
    exact ihb hb (iha ha hi)
  | alt a b iha ihb => exact h.elim (iha · hi) (ihb · hi)
  | repeated least most inner ih =>
    obtain ⟨more, -, hrun⟩ := h
    exact hrun.preserves (P := (· ≤ t.length)) (fun _ _ hx h => ih h hx) hi
  | remembered inner ih => exact ih h hi

theorem Leads.repeats_le_length {count : Nat} (h : Repeats (e.Leads t) count i j)
    (hi : i ≤ t.length) : j ≤ t.length :=
  h.preserves (P := (· ≤ t.length)) (fun _ _ hx hxy => hxy.le_length hx) hi

/-! ## The search -/

/-- An expression need not be gone through more often than the text has places. -/
theorem repeats_cut_iff (count : Nat) (hi : i ≤ t.length) :
    Repeats (e.Leads t) (min count (t.length + 1)) i j ↔ Repeats (e.Leads t) count i j := by
  by_cases hj : j ≤ t.length
  · exact repeats_min_iff (fun _ _ => Leads.le) (Nat.lt_succ_of_le hj) count
  · have hout : ∀ count, ¬ Repeats (e.Leads t) count i j := fun _ hrun =>
      hj (Leads.repeats_le_length hrun hi)
    exact iff_of_false (hout _) (hout _)

/-- Where a repetition is gone through only as often as the text has places. -/
theorem ahead_repeated {S : Set Nat} (least : Nat) (most : Option Nat)
    (hS : ∀ i ∈ S, i ≤ t.length) :
    {j | ∃ k ≤ min ((most.map (· - least)).getD (t.length + 1)) (t.length + 1),
        j ∈ ahead (Repeats (e.Leads t) k)
          (ahead (Repeats (e.Leads t) (min least (t.length + 1))) S)} =
      ahead ((repeated least most e).Leads t) S := by
  ext j
  constructor
  · rintro ⟨k, hk, mid, ⟨i, hi, hstart⟩, hrest⟩
    refine ⟨i, hi, k, ?_,
      repeats_add_iff.mpr ⟨mid, (repeats_cut_iff least (hS i hi)).mp hstart, hrest⟩⟩
    rintro limit rfl
    exact hk.trans (Nat.min_le_left _ _)
  · rintro ⟨i, hi, more, hmost, hrun⟩
    obtain ⟨mid, hstart, hrest⟩ := repeats_add_iff.mp hrun
    have hmid : mid ≤ t.length := Leads.repeats_le_length hstart (hS i hi)
    refine ⟨min more (t.length + 1), ?_, mid,
      ⟨i, hi, (repeats_cut_iff least (hS i hi)).mpr hstart⟩, (repeats_cut_iff more hmid).mpr hrest⟩
    cases most with
    | none => simp
    | some limit =>
      have hle := hmost limit rfl
      simp only [Option.map_some, Option.getD_some]
      omega

/-- From marked places the search marks the places that the expression leads to. -/
theorem denotes_ends {m : Marks} {S : Set Nat} (h : m.Denotes (t.length + 1) S) :
    Marks.Denotes (t.length + 1) (e.ends (Place.all t) m) (ahead (e.Leads t) S) := by
  induction e generalizing m S with
  | empty =>
    have hsame : ahead (empty.Leads t) S = S := by simp [ahead, Leads]
    rwa [ends, hsame]
  | chars set => exact h.advance set
  | look l =>
    have hkept : ahead ((look l).Leads t) S = {i | i ∈ S ∧ l.holds (Place.at none t i) = true} := by
      ext j
      constructor
      · rintro ⟨i, hi, rfl, hl⟩
        exact ⟨hi, hl⟩
      · rintro ⟨hj, hl⟩
        exact ⟨j, hj, rfl, hl⟩
    rw [hkept]
    exact h.keep (l.holds ·)
  | seq a b iha ihb =>
    have hboth : ahead ((seq a b).Leads t) S = ahead (b.Leads t) (ahead (a.Leads t) S) := by
      ext j
      constructor
      · rintro ⟨i, hi, mid, ha, hb⟩
        exact ⟨mid, ⟨i, hi, ha⟩, hb⟩
      · rintro ⟨mid, ⟨i, hi, ha⟩, hb⟩
        exact ⟨i, hi, mid, ha, hb⟩
    rw [hboth]
    exact ihb (iha h)
  | alt a b iha ihb =>
    have heither : ahead ((alt a b).Leads t) S = ahead (a.Leads t) S ∪ ahead (b.Leads t) S := by
      ext j
      constructor
      · rintro ⟨i, hi, ha | hb⟩
        · exact .inl ⟨i, hi, ha⟩
        · exact .inr ⟨i, hi, hb⟩
      · rintro (⟨i, hi, ha⟩ | ⟨i, hi, hb⟩)
        · exact ⟨i, hi, .inl ha⟩
        · exact ⟨i, hi, .inr hb⟩
    rw [heither]
    exact (iha h).union (ihb h)
  | repeated least most inner ih =>
    have hplaces : ∀ i ∈ S, i ≤ t.length := fun i hi => Nat.le_of_lt_succ (h.lt hi)
    have hstart := h.power (fun _ _ => ih) (min least (t.length + 1))
    have hall := hstart.spread (fun _ _ => ih)
      (min ((most.map (· - least)).getD (t.length + 1)) (t.length + 1)) hstart subset_rfl
      fun i hi _ _ => .inr hi
    rw [ahead_repeated least most hplaces] at hall
    simpa only [ends, Place.length_all] using hall
  | remembered inner ih => exact ih h

/-- An expression occurs in a text if it leads from one place of it to another. -/
theorem occursIn_iff : e.occursIn t = true ↔ ∃ i j, i ≤ j ∧ j ≤ t.length ∧ e.Leads t i j := by
  have hall : Marks.Denotes (t.length + 1) ((Place.all t).map fun _ => true)
      {i | i ≤ t.length} := by
    refine ⟨by simp [Place.length_all], fun i => ?_⟩
    rw [List.getElem?_map]
    by_cases hi : i ≤ t.length
    · simp [Place.getElem?_all t hi, hi]
    · rw [List.getElem?_eq_none (by rw [Place.length_all]; omega)]
      simp [hi]
  rw [occursIn, (denotes_ends hall).isSome_iff]
  constructor
  · rintro ⟨j, i, hi, h⟩
    exact ⟨i, j, h.le, h.le_length hi, h⟩
  · rintro ⟨i, j, hle, hj, h⟩
    exact ⟨j, i, hle.trans hj, h⟩

/-! ## Made expressions -/

theorem leads_andThen {a b : Expression} :
    (andThen a b).Leads t i j ↔ ∃ mid, a.Leads t i mid ∧ b.Leads t mid j := by
  rw [andThen.eq_def]
  split
  · simp [Leads]
  · simp [Leads]
  · exact Iff.rfl

/-- The expressions lead from the first place to the second one after another. -/
def LeadInTurn (t : Text) : List Expression → Nat → Nat → Prop
  | [], i, j => i = j
  | e :: es, i, j => ∃ mid, e.Leads t i mid ∧ LeadInTurn t es mid j

theorem leads_foldr_andThen {es : List Expression} :
    (es.foldr andThen empty).Leads t i j ↔ LeadInTurn t es i j := by
  induction es generalizing i with
  | nil => exact Iff.rfl
  | cons e es ih =>
    rw [List.foldr_cons, leads_andThen]
    simp only [ih, LeadInTurn]

/-- The sets of expressions that are one character each. -/
theorem eq_map_chars_of_length {es : List Expression} {sets : List CharSet}
    (hsets : (es.filterMap fun | chars set => some set | _ => none) = sets)
    (h : sets.length = es.length) : es = sets.map chars := by
  subst hsets
  induction es with
  | nil => rfl
  | cons e es ih =>
    have hle := List.length_filterMap_le (fun | chars set => some set | _ => none) es
    cases e with
    | chars set => simpa using ih (by simpa using h)
    | _ =>
      -- This one is left out, so there are fewer sets than expressions.
      simp only [List.filterMap_cons_none, List.length_cons] at h
      omega

theorem leads_foldl_alt {last : Expression} {before : List Expression} :
    (before.foldl (fun rest e => alt e rest) last).Leads t i j ↔
      last.Leads t i j ∨ ∃ e ∈ before, e.Leads t i j := by
  induction before generalizing last with
  | nil => simp
  | cons e before ih =>
    rw [List.foldl_cons, ih]
    simp only [Leads, List.mem_cons, exists_eq_or_imp, or_assoc, or_left_comm]

theorem leads_oneOf {es : List Expression} :
    (oneOf es).Leads t i j ↔ ∃ e ∈ es, e.Leads t i j := by
  rw [oneOf]
  split
  · next hlength =>
    -- One set in place of several.
    generalize hsets : (es.filterMap fun | chars set => some set | _ => none) = sets at hlength ⊢
    rw [eq_map_chars_of_length hsets hlength]
    cases hc : t[i]? with
    | none => simp [Leads, hc]
    | some c =>
      simp only [Leads, hc, Option.any_some, CharSet.holds_unions, List.any_eq_true, List.mem_map,
        exists_exists_and_eq_and]
      exact ⟨fun ⟨hj, s, hs, h⟩ => ⟨s, hs, hj, h⟩, fun ⟨s, hs, hj, h⟩ => ⟨hj, s, hs, h⟩⟩
  · next hlength =>
    -- The last of several is the last that is tried.
    cases hreverse : es.reverse with
    | nil =>
      obtain rfl : es = [] := List.reverse_eq_nil_iff.mp hreverse
      exact absurd rfl hlength
    | cons last before =>
      have hmem : ∀ e, e ∈ es ↔ e = last ∨ e ∈ before := by
        intro e
        rw [← List.mem_reverse, hreverse, List.mem_cons]
      simp [leads_foldl_alt, hmem]

/-- No repetition in the expression has a least number above its greatest. -/
def IsOrdered : Expression → Prop
  | empty | chars _ | look _ => True
  | seq a b | alt a b => a.IsOrdered ∧ b.IsOrdered
  | repeated least most inner => (∀ limit ∈ most, least ≤ limit) ∧ inner.IsOrdered
  | remembered inner => inner.IsOrdered

theorem Leads.eq_of_isWidthless (he : e.IsOrdered) (hw : e.isWidthless = true)
    (h : e.Leads t i j) : i = j := by
  induction e generalizing i j with
  | empty => exact h
  | chars set => exact absurd hw Bool.false_ne_true
  | look l => exact h.1
  | seq a b iha ihb =>
    obtain ⟨mid, ha, hb⟩ := h
    rw [isWidthless, Bool.and_eq_true] at hw
    exact (iha he.1 hw.1 ha).trans (ihb he.2 hw.2 hb)
  | alt a b iha ihb =>
    rw [isWidthless, Bool.and_eq_true] at hw
    exact h.elim (iha he.1 hw.1) (ihb he.2 hw.2)
  | repeated least most inner ih =>
    obtain ⟨more, hmore, hrun⟩ := h
    rw [isWidthless, Bool.or_eq_true, beq_iff_eq] at hw
    -- It is never gone through, or stands still each time.
    rcases hw with rfl | hw
    · have hleast := he.1 0 rfl
      have hmore := hmore 0 rfl
      obtain ⟨rfl, rfl⟩ : least = 0 ∧ more = 0 := by omega
      exact hrun
    · exact hrun.preserves (P := (i = ·)) (fun x y hx hxy => hx.trans (ih he.2 hw hxy)) rfl
  | remembered inner ih => exact ih he hw h

variable {least : Nat} {most : Option Nat}

theorem leads_repeated_iff (hmost : ∀ limit ∈ most, least ≤ limit) :
    (repeated least most e).Leads t i j ↔
      ∃ count, least ≤ count ∧ (∀ limit ∈ most, count ≤ limit) ∧ Repeats (e.Leads t) count i j := by
  constructor
  · rintro ⟨more, hmore, hrun⟩
    refine ⟨least + more, Nat.le_add_right .., fun limit hlimit => ?_, hrun⟩
    have hle := hmost limit hlimit
    have hless := hmore limit hlimit
    omega
  · rintro ⟨count, hleast, hcount, hrun⟩
    obtain ⟨more, rfl⟩ := Nat.exists_eq_add_of_le hleast
    exact ⟨more, fun limit hlimit => by have := hcount limit hlimit; omega, hrun⟩

/-- The bounds on what stands still are in order if those that were given are. -/
theorem min_one_le_cap (hmost : ∀ limit ∈ most, least ≤ limit) :
    ∀ limit ∈ some ((most.map (min · 1)).getD 1), min least 1 ≤ limit := by
  cases most with
  | none => simp
  | some limit =>
    have hle := hmost limit rfl
    simp only [Option.map_some, Option.getD_some, Option.mem_some_iff, forall_eq']
    omega

/-- What stands still need not be gone through more than once. -/
theorem leads_repeated_still (hmost : ∀ limit ∈ most, least ≤ limit)
    (hstill : ∀ i j, e.Leads t i j → i = j) :
    (repeated (min least 1) (some ((most.map (min · 1)).getD 1)) e).Leads t i j ↔
      (repeated least most e).Leads t i j := by
  rw [leads_repeated_iff hmost, leads_repeated_iff (min_one_le_cap hmost)]
  constructor
  · rintro ⟨count, hleast, hcount, hrun⟩
    have hcount : count ≤ (most.map (min · 1)).getD 1 := hcount _ rfl
    have hone : count ≤ 1 := by
      cases most with
      | none => exact hcount
      | some limit => exact hcount.trans (Nat.min_le_right ..)
    -- As often as was asked for, which leads where one time or none does.
    refine ⟨max least count, Nat.le_max_left .., ?_, ?_⟩
    · rintro limit rfl
      have hle := hmost limit rfl
      simp only [Option.map_some, Option.getD_some] at hcount
      omega
    · rwa [← repeats_min_one_iff hstill, show min (max least count) 1 = count by omega]
  · rintro ⟨count, hleast, hcount, hrun⟩
    refine ⟨min count 1, by omega, ?_, (repeats_min_one_iff hstill).mpr hrun⟩
    rintro limit hlimit
    obtain rfl : (most.map (min · 1)).getD 1 = limit := Option.some.inj hlimit
    cases most with
    | none => exact Nat.min_le_right ..
    | some limit =>
      have hle := hcount limit rfl
      simp only [Option.map_some, Option.getD_some]
      omega

/-- A repetition that is never or exactly once gone through is none. -/
theorem leads_repeated_short (hmost : ∀ limit ∈ most, least ≤ limit) :
    (if most = some 0 then empty
      else if least = 1 ∧ most = some 1 then e else repeated least most e).Leads t i j ↔
      (repeated least most e).Leads t i j := by
  split
  · next hzero =>
    subst hzero
    obtain rfl : least = 0 := Nat.le_zero.mp (hmost 0 rfl)
    rw [leads_repeated_iff hmost]
    simp [Leads, Repeats]
  · split
    · next hone =>
      obtain ⟨rfl, rfl⟩ := hone
      rw [leads_repeated_iff hmost]
      constructor
      · intro h
        exact ⟨1, Nat.le_refl 1, fun limit hlimit => (Option.some.inj hlimit).le,
          repeats_one_iff.mpr h⟩
      · rintro ⟨count, hleast, hcount, hrun⟩
        obtain rfl : count = 1 := Nat.le_antisymm (hcount 1 rfl) hleast
        exact repeats_one_iff.mp hrun
    · exact Iff.rfl

theorem leads_times (he : e.IsOrdered) (hmost : ∀ limit ∈ most, least ≤ limit) :
    (times least most e).Leads t i j ↔ (repeated least most e).Leads t i j := by
  rw [times]
  by_cases hw : e.isWidthless = true
  · rw [if_pos hw]
    exact (leads_repeated_short (min_one_le_cap hmost)).trans
      (leads_repeated_still hmost fun _ _ h => h.eq_of_isWidthless he hw)
  · rw [if_neg hw]
    exact leads_repeated_short hmost

end Expression
end Search
end Tagdown
