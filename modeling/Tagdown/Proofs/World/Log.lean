/-
  Tagdown.Proofs.World.Log

  Which reported steps a filter lets through. Of several parts of a filter about one name the
  last that can be read counts (`LogFilter.mem_readRules_iff`). A source is judged by one rule,
  the last among those with the longest name that its own name starts with
  (`LogFilter.ruleFor?_eq_some_iff`), and what it reports passes if that rule lets steps
  through and the pattern matches somewhere in it (`LogFilter.shows_iff`).
-/

import Tagdown.World.Log
import Tagdown.Proofs.Latest
import Tagdown.Proofs.Search.Matching

namespace Tagdown

/-! ## Rules with different names -/

namespace LogRule

variable {rule : LogRule} {rules : List LogRule} {name : Option Text}

theorem find?_put : (put rule rules).find? (·.name == name) =
    if rule.name = name then some rule else rules.find? (·.name == name) := by
  induction rules with
  | nil => exact find?_key_cons LogRule.name name rule []
  | cons other rest ih =>
    rw [put]
    split
    · next hsame =>
      rw [find?_key_cons, find?_key_cons, hsame]
      split <;> rfl
    · next hother =>
      rw [find?_key_cons, find?_key_cons, ih]
      split
      · next heq => rw [if_neg fun h => hother (heq.trans h.symm)]
      · rfl

theorem mem_names_put : name ∈ (put rule rules).map LogRule.name →
    name = rule.name ∨ name ∈ rules.map LogRule.name := by
  induction rules with
  | nil => simp [put]
  | cons other rest ih =>
    rw [put]
    split
    · simp only [List.map_cons, List.mem_cons]
      rintro (h | h)
      · exact .inl h
      · exact .inr (.inr h)
    · simp only [List.map_cons, List.mem_cons]
      rintro (h | h)
      · exact .inr (.inl h)
      · exact (ih h).imp_right .inr

/-- No two rules have one name, so a put rule takes the place of the one of its name. -/
theorem nodup_put (h : (rules.map LogRule.name).Nodup) :
    ((put rule rules).map LogRule.name).Nodup := by
  induction rules with
  | nil => exact List.nodup_singleton _
  | cons other rest ih =>
    obtain ⟨hother, hrest⟩ := List.nodup_cons.mp h
    rw [put]
    split
    · next hsame => exact List.nodup_cons.mpr ⟨hsame ▸ hother, hrest⟩
    · next hne =>
      refine List.nodup_cons.mpr ⟨fun hmem => ?_, ih hrest⟩
      exact (mem_names_put hmem).elim hne hother

end LogRule

namespace LogFilter

variable {rules : List LogRule} {rule : LogRule} {parts : List Text} {source : Text}

/-- The rules of the parts that can be read. -/
def readable (parts : List Text) : List LogRule :=
  parts.filterMap fun part => (readRule part).toOption

theorem readRules_fst :
    (readRules rules parts).1 = (readable parts).foldl (fun rules rule => rule.put rules) rules := by
  induction parts generalizing rules with
  | nil => rfl
  | cons part rest ih =>
    rw [readRules]
    cases h : readRule part with
    | ok rule => simp [ih, readable, h, Except.toOption]
    | error fault => simp [ih, readable, h, Except.toOption]

theorem nodup_readRules (h : (rules.map LogRule.name).Nodup) :
    ((readRules rules parts).1.map LogRule.name).Nodup := by
  rw [readRules_fst]
  generalize readable parts = more
  induction more generalizing rules with
  | nil => exact h
  | cons rule more ih => exact ih (LogRule.nodup_put h)

/-- The rules of a filter answer for a name with the last readable part about it. -/
theorem find?_readRules (name : Option Text) : (readRules [] parts).1.find? (·.name == name) =
    latest? LogRule.name name (readable parts) := by
  have hput : ∀ (rules : List LogRule) (rule : LogRule),
      (rule.put rules).find? (·.name == name) =
        if rule.name = name then some rule else rules.find? (·.name == name) :=
    fun _ _ => LogRule.find?_put
  have hlatest := lookup_foldl _ hput [] (readable parts)
  rwa [← readRules_fst, List.find?_nil, Option.or_none] at hlatest

theorem mem_readRules_iff : rule ∈ (readRules [] parts).1 ↔
    latest? LogRule.name rule.name (readable parts) = some rule := by
  have hnodup : ((readRules [] parts).1.map LogRule.name).Nodup := nodup_readRules .nil
  rw [← find?_readRules, find?_key_eq_some_iff hnodup]
  exact (and_iff_left rfl).symm

/-! ## The rule about a source -/

/-- Of the rules that cover the source, none has a longer name, and none that comes later has
    one as long. -/
structure Decides (source : Text) (rules : List LogRule) (rule : LogRule) : Prop where
  covers : rule.covers source = true
  longest : ∃ before after, rules = before ++ rule :: after ∧
    (∀ other ∈ before, other.covers source = true → other.start.length ≤ rule.start.length) ∧
    ∀ other ∈ after, other.covers source = true → other.start.length < rule.start.length

theorem Decides.mem (h : Decides source rules rule) : rule ∈ rules := by
  obtain ⟨before, after, rfl, -, -⟩ := h.longest
  exact List.mem_append_cons_self

theorem Decides.length_le {other : LogRule} (h : Decides source rules rule) (hmem : other ∈ rules)
    (hother : other.covers source = true) : other.start.length ≤ rule.start.length := by
  obtain ⟨before, after, rfl, hbefore, hafter⟩ := h.longest
  rcases List.mem_append.mp hmem with hmem | hmem
  · exact hbefore other hmem hother
  · rcases List.mem_cons.mp hmem with rfl | hmem
    · exact Nat.le_refl _
    · exact (hafter other hmem hother).le

theorem Decides.append {last : LogRule} (h : Decides source rules rule)
    (hlast : last.covers source = true → last.start.length < rule.start.length) :
    Decides source (rules ++ [last]) rule := by
  obtain ⟨before, after, rfl, hbefore, hafter⟩ := h.longest
  refine ⟨h.covers, before, after ++ [last], by simp, hbefore, ?_⟩
  simpa [or_imp, forall_and] using ⟨hafter, hlast⟩

theorem Decides.append_singleton (hcovers : rule.covers source = true)
    (hlongest : ∀ other ∈ rules, other.covers source = true →
      other.start.length ≤ rule.start.length) : Decides source (rules ++ [rule]) rule :=
  ⟨hcovers, rules, [], rfl, hlongest, by simp⟩

/-- One rule at most decides about a source. -/
theorem Decides.unique {other : LogRule} (h : Decides source rules rule)
    (hother : Decides source rules other) : rule = other := by
  obtain ⟨before, after, rfl, hbefore, hafter⟩ := h.longest
  obtain ⟨before', after', heq, hbefore', hafter'⟩ := hother.longest
  rcases List.append_eq_append_iff.mp heq with ⟨between, rfl, hrest⟩ | ⟨between, rfl, hrest⟩
  · cases between with
    | nil => exact (List.cons.inj hrest).1
    | cons _ between =>
      -- The first is before the other, so the other is longer and not longer.
      obtain ⟨rfl, rfl⟩ := List.cons.inj hrest
      have hlt := hafter other (by simp) hother.covers
      have hle := hbefore' rule (by simp) h.covers
      omega
  · cases between with
    | nil => exact (List.cons.inj hrest).1.symm
    | cons _ between =>
      obtain ⟨rfl, rfl⟩ := List.cons.inj hrest
      have hlt := hafter' rule (by simp) h.covers
      have hle := hbefore other (by simp) hother.covers
      omega

variable {content : Search.Expression}

/-- A last rule decides unless it is not about the source or its name is too short. -/
theorem ruleFor?_append : (LogFilter.mk (rules ++ [rule]) content).ruleFor? source =
    if rule.covers source = true then
      match (LogFilter.mk rules content).ruleFor? source with
      | none => some rule
      | some old => if rule.start.length < old.start.length then some old else some rule
    else (LogFilter.mk rules content).ruleFor? source := by
  rw [ruleFor?, ruleFor?, List.filter_append, List.foldl_append]
  by_cases hcovers : rule.covers source = true
  · rw [if_pos hcovers, List.filter_cons_of_pos (by exact hcovers)]
    rfl
  · rw [if_neg hcovers, List.filter_cons_of_neg (by exact hcovers)]
    rfl

theorem ruleFor?_eq_none_iff : (LogFilter.mk rules content).ruleFor? source = none ↔
    ∀ rule ∈ rules, rule.covers source = false := by
  induction rules using List.reverseRecOn with
  | nil => simp [ruleFor?]
  | append_singleton rules rule ih =>
    rw [ruleFor?_append]
    by_cases hcovers : rule.covers source = true
    · rw [if_pos hcovers]
      refine iff_of_false ?_ fun h => by simpa [hcovers] using h rule (by simp)
      split
      · exact Option.some_ne_none _
      · split <;> exact Option.some_ne_none _
    · rw [if_neg hcovers, ih, List.forall_mem_append, List.forall_mem_singleton]
      exact (and_iff_left (Bool.eq_false_of_not_eq_true hcovers)).symm

theorem decides_of_ruleFor? (h : (LogFilter.mk rules content).ruleFor? source = some rule) :
    Decides source rules rule := by
  induction rules using List.reverseRecOn generalizing rule with
  | nil => exact absurd h (by simp [ruleFor?])
  | append_singleton rules last ih =>
    rw [ruleFor?_append] at h
    by_cases hcovers : last.covers source = true
    · rw [if_pos hcovers] at h
      cases hold : (LogFilter.mk rules content).ruleFor? source with
      | none =>
        -- No rule before the last is about the source.
        rw [hold] at h
        obtain rfl : last = rule := Option.some.inj h
        refine .append_singleton hcovers fun other hmem hother => ?_
        rw [ruleFor?_eq_none_iff.mp hold other hmem] at hother
        exact absurd hother Bool.false_ne_true
      | some old =>
        simp only [hold] at h
        by_cases hlt : last.start.length < old.start.length
        · rw [if_pos hlt] at h
          obtain rfl : old = rule := Option.some.inj h
          exact (ih hold).append fun _ => hlt
        · -- No earlier name is longer than the old one, and this is at least as long.
          rw [if_neg hlt] at h
          obtain rfl : last = rule := Option.some.inj h
          exact .append_singleton hcovers fun other hmem hother =>
            ((ih hold).length_le hmem hother).trans (Nat.le_of_not_lt hlt)
    · -- A rule that is not about the source changes nothing.
      rw [if_neg hcovers] at h
      exact (ih h).append fun hlast => absurd hlast hcovers

/-- The rule that a filter judges a source by is the one that decides about it. -/
theorem ruleFor?_eq_some_iff :
    (LogFilter.mk rules content).ruleFor? source = some rule ↔ Decides source rules rule := by
  refine ⟨decides_of_ruleFor?, fun h => ?_⟩
  cases hfound : (LogFilter.mk rules content).ruleFor? source with
  | none =>
    have hout := ruleFor?_eq_none_iff.mp hfound rule h.mem
    exact absurd (hout.symm.trans h.covers) Bool.false_ne_true
  | some found => rw [h.unique (decides_of_ruleFor? hfound)]

/-- What a source reports is let through if the rule that decides about the source lets steps
    through and the pattern of the filter matches somewhere in it. -/
theorem shows_iff {step : Text} : (LogFilter.mk rules content).shows source step = true ↔
    ∃ rule, Decides source rules rule ∧ rule.level.showsSteps = true ∧
      ∃ i j, i ≤ j ∧ j ≤ step.length ∧ content.Leads step i j := by
  have hrule : ∀ rule, Decides source rules rule ↔
      (LogFilter.mk rules content).ruleFor? source = some rule :=
    fun _ => ruleFor?_eq_some_iff.symm
  simp only [hrule, ← Search.Expression.occursIn_iff]
  rw [shows]
  cases (LogFilter.mk rules content).ruleFor? source with
  | none => simp
  | some rule => simp

end LogFilter
end Tagdown
