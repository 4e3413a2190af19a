/-
  Tagdown.Proofs.Text.Runs

  The maximal runs of a list: its longest stretches whose elements all satisfy a
  predicate.

  `IsMaximalRun` says what a maximal run is by what stands around it, so two runs
  of the same elements at different places are two. `maximalRuns` finds them from
  left to right (`exists_stretches`), and it finds each of them once: counting the
  runs it gives is counting the stretches that are maximal (`ncard_isMaximalRun`).

  Deleting elements inside of runs, but none between them, neither joins runs nor
  splits one: of the runs those are left that keep an element (`maximalRuns_filter`).
-/

import Mathlib.Data.Set.Card
import Mathlib.Data.List.Infix

namespace Tagdown

variable {α : Type}

/-- A stretch of a list, with what stands before and behind it. -/
@[ext]
structure Stretch (α : Type) where
  before : List α
  body : List α
  after : List α
  deriving DecidableEq

namespace Stretch

/-- The stretch in a list with `front` put in front. -/
def behind (front : List α) (s : Stretch α) : Stretch α :=
  { s with before := front ++ s.before }

/-- The stretch starts farther to the left than the other one. -/
def StartsBefore (s s' : Stretch α) : Prop :=
  s.before.length < s'.before.length

/-- What is put in front of both stretches does not change their order. -/
theorem StartsBefore.behind {s s' : Stretch α} (h : s.StartsBefore s') (front : List α) :
    (s.behind front).StartsBefore (s'.behind front) := by
  rw [StartsBefore] at h
  simp only [StartsBefore, Stretch.behind, List.length_append]
  omega

theorem StartsBefore.ne {s s' : Stretch α} (h : s.StartsBefore s') : s ≠ s' := by
  rintro rfl
  exact Nat.lt_irrefl _ h

end Stretch

/-- The stretch is a maximal run of `p` in the list: it is not empty, it has only
    elements of `p`, and no element of `p` stands next to it. -/
structure IsMaximalRun (p : α → Bool) (l : List α) (s : Stretch α) : Prop where
  split : l = s.before ++ s.body ++ s.after
  ne_nil : s.body ≠ []
  all : ∀ a ∈ s.body, p a = true
  before : ∀ a ∈ s.before.getLast?, p a = false
  after : ∀ a ∈ s.after.head?, p a = false

/-- The maximal runs of `p`, from left to right. -/
def maximalRuns (p : α → Bool) : List α → List (List α)
  | [] => []
  | a :: rest =>
    if p a then (a :: rest.takeWhile p) :: maximalRuns p (rest.dropWhile p)
    else maximalRuns p rest
termination_by l => l.length
decreasing_by
  · have := (List.dropWhile_suffix p (l := rest)).length_le
    simp only [List.length_cons]
    omega
  · simp

variable {p : α → Bool}

/-! ## Runs by the start of the list -/

/-- A list that starts with elements of `p` and then leaves `p` shows where. -/
theorem takeWhile_append_of_head {body rest : List α} (hall : ∀ a ∈ body, p a = true)
    (hrest : ∀ a ∈ rest.head?, p a = false) : (body ++ rest).takeWhile p = body := by
  have hstop : rest.takeWhile p = [] := by
    cases rest with
    | nil => rfl
    | cons a rest => simp [hrest a rfl]
  rw [List.takeWhile_append_of_pos hall, hstop, List.append_nil]

/-- A maximal run at the start of a list starts with its first element. -/
theorem IsMaximalRun.head_of_before_nil {l : List α} {s : Stretch α} (h : IsMaximalRun p l s)
    (hs : s.before = []) : ∃ a ∈ l.head?, p a = true := by
  obtain ⟨a, more, hbody⟩ := List.exists_cons_of_ne_nil h.ne_nil
  refine ⟨a, ?_, h.all a (hbody ▸ List.mem_cons_self)⟩
  rw [h.split, hs, hbody]
  rfl

/-- A maximal run stays one behind other elements, if these do not reach up to it. -/
theorem IsMaximalRun.behind {l front : List α} {s : Stretch α} (h : IsMaximalRun p l s)
    (hfront : s.before = [] → ∀ a ∈ front.getLast?, p a = false) :
    IsMaximalRun p (front ++ l) (s.behind front) := by
  refine ⟨?_, h.ne_nil, h.all, ?_, h.after⟩
  · rw [h.split]
    simp only [Stretch.behind, List.append_assoc]
  · show ∀ a ∈ (front ++ s.before).getLast?, p a = false
    by_cases hs : s.before = []
    · rw [hs, List.append_nil]
      exact hfront hs
    · rw [List.getLast?_append_of_ne_nil _ hs]
      exact h.before

/-- Behind an element that is not in `p` the maximal runs are those of the rest. -/
theorem isMaximalRun_cons_iff {a : α} (ha : p a = false) {rest : List α} {s : Stretch α} :
    IsMaximalRun p (a :: rest) s ↔ ∃ s', IsMaximalRun p rest s' ∧ s = s'.behind [a] := by
  constructor
  · intro h
    obtain ⟨before, body, after⟩ := s
    cases before with
    | nil =>
      -- A run with nothing before it would start with the first element.
      obtain ⟨b, hb, hpb⟩ := h.head_of_before_nil rfl
      cases hb
      rw [ha] at hpb
      cases hpb
    | cons b before =>
      have hsplit := h.split
      rw [List.cons_append, List.cons_append, List.cons.injEq] at hsplit
      obtain ⟨rfl, hsplit⟩ := hsplit
      refine ⟨⟨before, body, after⟩, ⟨hsplit, h.ne_nil, h.all, ?_, h.after⟩, rfl⟩
      exact fun c hc => h.before c (List.mem_getLast?_cons hc)
  · rintro ⟨s', h, rfl⟩
    show IsMaximalRun p ([a] ++ rest) _
    refine h.behind fun _ b hb => ?_
    cases hb
    exact ha

/-- A list that starts with a run that cannot be extended has this run and those of
    the rest. -/
theorem isMaximalRun_append_iff {body rest : List α} (hne : body ≠ [])
    (hall : ∀ a ∈ body, p a = true) (hrest : ∀ a ∈ rest.head?, p a = false) {s : Stretch α} :
    IsMaximalRun p (body ++ rest) s ↔
      s = ⟨[], body, rest⟩ ∨ ∃ s', IsMaximalRun p rest s' ∧ s = s'.behind body := by
  constructor
  · intro h
    obtain ⟨before, run, after⟩ := s
    have hsplit : body ++ rest = before ++ (run ++ after) := by
      rw [← List.append_assoc]
      exact h.split
    by_cases hbefore : before = []
    · -- Both stretches end where the list first leaves `p`.
      left
      subst hbefore
      rw [List.nil_append] at hsplit
      have hbody : body = run := by
        rw [← takeWhile_append_of_head hall hrest, hsplit, takeWhile_append_of_head h.all h.after]
      subst hbody
      rw [List.append_cancel_left hsplit]
    · right
      rcases List.append_eq_append_iff.mp hsplit with ⟨more, hmore, hrest'⟩ | ⟨more, hmore, -⟩
      · -- The run stands behind `body`, so it is one of the rest.
        subst hmore
        refine ⟨⟨more, run, after⟩, ⟨?_, h.ne_nil, h.all, ?_, h.after⟩, rfl⟩
        · rw [hrest', List.append_assoc]
        · intro a ha
          refine h.before a ?_
          show a ∈ (body ++ more).getLast?
          rw [List.getLast?_append, Option.mem_def.mp ha]
          rfl
      · -- What stands before the run would end in the middle of `body`.
        have hlast := List.getLast?_eq_some_getLast hbefore
        have hmem : before.getLast hbefore ∈ body := by
          rw [hmore]
          exact List.mem_append_left more (List.getLast_mem hbefore)
        have hout := h.before _ hlast
        rw [hall _ hmem] at hout
        cases hout
  · rintro (rfl | ⟨s', h, rfl⟩)
    · exact ⟨rfl, hne, hall, by simp, hrest⟩
    · refine h.behind fun hs => ?_
      obtain ⟨a, ha, hpa⟩ := h.head_of_before_nil hs
      rw [hrest a ha] at hpa
      cases hpa

/-! ## The runs that are found -/

theorem maximalRuns_cons_of_neg {a : α} (ha : p a = false) (rest : List α) :
    maximalRuns p (a :: rest) = maximalRuns p rest := by
  rw [maximalRuns, if_neg (by simp [ha])]

theorem maximalRuns_append {body rest : List α} (hne : body ≠ []) (hall : ∀ a ∈ body, p a = true)
    (hrest : ∀ a ∈ rest.head?, p a = false) :
    maximalRuns p (body ++ rest) = body :: maximalRuns p rest := by
  have htake := takeWhile_append_of_head hall hrest
  obtain ⟨a, more, rfl⟩ := List.exists_cons_of_ne_nil hne
  have ha := hall a List.mem_cons_self
  rw [List.cons_append, List.takeWhile_cons_of_pos ha, List.cons.injEq] at htake
  have hdrop : (more ++ rest).dropWhile p = rest := by
    have hsplit := List.takeWhile_append_dropWhile (p := p) (l := more ++ rest)
    rw [htake.2] at hsplit
    exact List.append_cancel_left hsplit
  rw [List.cons_append, maximalRuns, if_pos ha, htake.2, hdrop]

/-- Every list is empty, starts outside `p`, or starts with a run of `p` that ends
    where the list leaves `p`. -/
theorem runs_induction {motive : List α → Prop} (nil : motive [])
    (gap : ∀ a rest, p a = false → motive rest → motive (a :: rest))
    (run : ∀ body rest, body ≠ [] → (∀ a ∈ body, p a = true) →
      (∀ a ∈ rest.head?, p a = false) → motive rest → motive (body ++ rest))
    (l : List α) : motive l := by
  fun_induction maximalRuns p l with
  | case1 => exact nil
  | case2 a rest ha ih =>
    -- The run goes on as long as `p` holds, and the induction hypothesis is about what follows.
    have hsplit : a :: rest = (a :: rest.takeWhile p) ++ rest.dropWhile p := by
      rw [List.cons_append, List.takeWhile_append_dropWhile]
    rw [hsplit]
    refine run _ _ (List.cons_ne_nil _ _) ?_ ?_ ih
    · rw [List.forall_mem_cons]
      exact ⟨ha, List.all_eq_true.mp List.all_takeWhile⟩
    · intro b hb
      have hstop := List.head?_dropWhile_not p rest
      rw [Option.mem_def.mp hb] at hstop
      exact hstop
  | case3 a rest ha ih => exact gap a rest (Bool.eq_false_iff.mpr ha) ih

/-- The maximal runs have their places in the list, one behind the other. -/
theorem exists_stretches (p : α → Bool) (l : List α) :
    ∃ stretches : List (Stretch α),
      stretches.Pairwise Stretch.StartsBefore ∧
      (∀ s, s ∈ stretches ↔ IsMaximalRun p l s) ∧
      stretches.map (·.body) = maximalRuns p l := by
  induction l using runs_induction (p := p) with
  | nil =>
    refine ⟨[], List.Pairwise.nil, fun s => ?_, by rw [maximalRuns]; rfl⟩
    constructor
    · intro hs
      cases hs
    · intro h
      exact absurd h.split (by simp [h.ne_nil])
  | gap a rest ha ih =>
    obtain ⟨stretches, horder, hmem, hmap⟩ := ih
    refine ⟨stretches.map (·.behind [a]), horder.map _ fun _ _ h => h.behind [a], ?_, ?_⟩
    · intro s
      rw [isMaximalRun_cons_iff ha, List.mem_map]
      simp only [hmem, eq_comm]
    · rw [maximalRuns_cons_of_neg ha, ← hmap, List.map_map]
      rfl
  | run body rest hne hall hrest ih =>
    obtain ⟨stretches, horder, hmem, hmap⟩ := ih
    refine ⟨⟨[], body, rest⟩ :: stretches.map (·.behind body), ?_, ?_, ?_⟩
    · -- Nothing stands before the new run, but `body` before all the others.
      refine List.pairwise_cons.mpr ⟨List.forall_mem_map.mpr fun s _ => ?_,
        horder.map _ fun _ _ h => h.behind body⟩
      have hbody := List.length_pos_iff.mpr hne
      simp only [Stretch.StartsBefore, Stretch.behind, List.length_append, List.length_nil]
      omega
    · intro s
      rw [isMaximalRun_append_iff hne hall hrest, List.mem_cons, List.mem_map]
      simp only [hmem, eq_comm]
    · rw [maximalRuns_append hne hall hrest, List.map_cons, ← hmap, List.map_map]
      rfl

/-- Stretches that are listed from left to right are listed once each. -/
theorem ncard_of_startsBefore {P : Stretch α → Prop} {stretches : List (Stretch α)}
    (horder : stretches.Pairwise Stretch.StartsBefore) (hmem : ∀ s, s ∈ stretches ↔ P s) :
    {s | P s}.ncard = stretches.length := by
  classical
  have hnodup : stretches.Nodup := horder.imp Stretch.StartsBefore.ne
  have hset : {s | P s} = (stretches.toFinset : Set (Stretch α)) := by
    ext s
    simp [hmem]
  rw [hset, Set.ncard_coe_finset, List.toFinset_card_of_nodup hnodup]

/-- Counting the runs that are found is counting the maximal runs of the list. -/
theorem ncard_isMaximalRun (p : α → Bool) (l : List α) (q : List α → Prop) [DecidablePred q] :
    {s | IsMaximalRun p l s ∧ q s.body}.ncard = (maximalRuns p l).countP q := by
  obtain ⟨stretches, horder, hmem, hmap⟩ := exists_stretches p l
  have hfound : ∀ s, s ∈ stretches.filter (fun s => q s.body) ↔ IsMaximalRun p l s ∧ q s.body := by
    intro s
    rw [List.mem_filter, hmem, decide_eq_true_eq]
  rw [ncard_of_startsBefore (horder.filter _) hfound, ← hmap, List.countP_map,
    List.countP_eq_length_filter]
  rfl

/-! ## Elements of runs -/

/-- An element of `p` stands in a maximal run of `p`. -/
theorem exists_mem_maximalRuns {a : α} {l : List α} (hmem : a ∈ l) (ha : p a = true) :
    ∃ body ∈ maximalRuns p l, a ∈ body := by
  induction l using runs_induction (p := p) with
  | nil => cases hmem
  | gap b rest hb ih =>
    rw [maximalRuns_cons_of_neg hb]
    rcases List.mem_cons.mp hmem with rfl | hmem
    · rw [ha] at hb
      cases hb
    · exact ih hmem
  | run body rest hne hall hrest ih =>
    rw [maximalRuns_append hne hall hrest]
    rcases List.mem_append.mp hmem with hmem | hmem
    · exact ⟨body, List.mem_cons_self, hmem⟩
    · obtain ⟨found, hfound, hmem⟩ := ih hmem
      exact ⟨found, List.mem_cons_of_mem body hfound, hmem⟩

/-- A run that has an element of `q` has one of its own. -/
theorem countP_any_maximalRuns_le (p q : α → Bool) (l : List α) :
    (maximalRuns p l).countP (·.any q) ≤ l.countP q := by
  induction l using runs_induction (p := p) with
  | nil =>
    rw [maximalRuns]
    exact Nat.le_refl 0
  | gap a rest ha ih =>
    rw [maximalRuns_cons_of_neg ha]
    exact ih.trans (List.Sublist.countP_le (List.sublist_cons_self a rest))
  | run body rest hne hall hrest ih =>
    rw [maximalRuns_append hne hall hrest, List.countP_cons, List.countP_append]
    split
    · -- The run counts once and has at least one element that counts.
      rename_i hany
      have hbody : 0 < body.countP q := List.countP_pos_iff.mpr (List.any_eq_true.mp hany)
      omega
    · omega

/-! ## Lists that meet at a gap -/

/-- An element that is not in `p` separates the runs in front of it from those
    behind it. -/
theorem maximalRuns_append_cons {gap : α} (hgap : p gap = false) (front rest : List α) :
    maximalRuns p (front ++ gap :: rest) = maximalRuns p front ++ maximalRuns p rest := by
  induction front using runs_induction (p := p) with
  | nil => rw [List.nil_append, maximalRuns_cons_of_neg hgap, maximalRuns, List.nil_append]
  | gap a front ha ih =>
    rw [List.cons_append, maximalRuns_cons_of_neg ha, maximalRuns_cons_of_neg ha, ih]
  | run body front hne hall hfront ih =>
    -- The run ends at the gap if nothing else stands in between.
    have hhead : ∀ a ∈ (front ++ gap :: rest).head?, p a = false := by
      cases front with
      | nil => simpa using hgap
      | cons b front => exact hfront
    rw [List.append_assoc, maximalRuns_append hne hall hhead, maximalRuns_append hne hall hfront,
      ih, List.cons_append]

/-! ## Deleted elements -/

/-- Deleting elements of `p` leaves of each run what is kept of it, and nothing of a run that
    keeps no element. -/
theorem maximalRuns_filter {keep : α → Bool} (hgaps : ∀ a, p a = false → keep a = true)
    (l : List α) :
    maximalRuns p (l.filter keep) = ((maximalRuns p l).filter (·.any keep)).map (·.filter keep) := by
  induction l using runs_induction (p := p) with
  | nil =>
    rw [List.filter_nil, maximalRuns]
    rfl
  | gap a rest ha ih =>
    rw [List.filter_cons_of_pos (hgaps a ha), maximalRuns_cons_of_neg ha,
      maximalRuns_cons_of_neg ha, ih]
  | run body rest hne hall hrest ih =>
    rw [List.filter_append, maximalRuns_append hne hall hrest]
    by_cases hany : body.any keep = true
    · -- What is kept of the run ends where the run does: the gap behind it is kept.
      have hne' : body.filter keep ≠ [] := by
        rw [Ne, List.filter_eq_nil_iff]
        simpa using hany
      have hall' : ∀ a ∈ body.filter keep, p a = true :=
        fun a ha => hall a (List.mem_of_mem_filter ha)
      have hrest' : ∀ a ∈ (rest.filter keep).head?, p a = false := by
        cases rest with
        | nil => exact hrest
        | cons gap rest =>
          rw [List.filter_cons_of_pos (hgaps gap (hrest gap rfl))]
          exact hrest
      rw [maximalRuns_append hne' hall' hrest', ih, List.filter_cons, if_pos hany, List.map_cons]
    · -- Nothing is kept of the run, so the gaps around it meet.
      have hnone : body.filter keep = [] := by
        rw [List.filter_eq_nil_iff]
        simpa using hany
      rw [hnone, List.nil_append, ih, List.filter_cons, if_neg hany]

end Tagdown
