/-
  Tagdown.Proofs.Text.Lines

  How texts fall into lines and segments.

  `CutsInto` says without the function what the segments of a text are; a text
  has exactly the segments that `segments` gives (`cutsInto_iff_segments_eq`).
  Texts that meet in a line feed have the segments of both
  (`segments_append_feed`), and joined lines are read back (`lines_joinLines`).
-/

import Tagdown.Text.Basic

namespace Tagdown
namespace Text

/-! ## Pieces -/

theorem splitOn_eq_listSplitOn (sep : Char) (t : Text) : splitOn sep t = List.splitOn sep t := by
  induction t with
  | nil => simp [splitOn]
  | cons c rest ih =>
    rw [List.splitOn_cons_eq_if_modifyHead, splitOn, ih]
    simp only [beq_iff_eq]

/-- A text without the separator is one piece. -/
theorem splitOn_eq_singleton {sep : Char} {t : Text} (h : sep ∉ t) : splitOn sep t = [t] := by
  rw [splitOn_eq_listSplitOn]
  simpa using List.splitOn_intercalate sep (by simpa using h) (List.cons_ne_nil t [])

/-- The pieces of two texts with the separator between them are those of both. -/
theorem splitOn_append_cons (sep : Char) (a b : Text) :
    splitOn sep (a ++ sep :: b) = splitOn sep a ++ splitOn sep b := by
  simp only [splitOn_eq_listSplitOn]
  exact List.splitOn_append_cons_self a b

/-- The pieces of a text do not have the separator. -/
theorem not_mem_of_mem_splitOn {sep : Char} {t piece : Text} (h : piece ∈ splitOn sep t) :
    sep ∉ piece := by
  induction t generalizing piece with
  | nil =>
    rw [splitOn, List.mem_singleton] at h
    simp [h]
  | cons c rest ih =>
    obtain ⟨first, more, hmore⟩ := List.exists_cons_of_ne_nil (splitOn_ne_nil sep rest)
    rw [splitOn, hmore] at h
    rw [hmore] at ih
    split at h
    · rcases List.mem_cons.mp h with rfl | h
      · simp
      · exact ih h
    · -- The character is no separator and is put in front of the first piece.
      rename_i hc
      rw [List.modifyHead_cons] at h
      rcases List.mem_cons.mp h with rfl | h
      · have hfirst := ih List.mem_cons_self
        simp [Ne.symm hc, hfirst]
      · exact ih (List.mem_cons_of_mem first h)

/-- Joined texts have no character that neither they nor the separator have. -/
theorem not_mem_intercalate {c : Char} {sep : Text} {ts : List Text} (hsep : c ∉ sep)
    (h : ∀ t ∈ ts, c ∉ t) : c ∉ List.intercalate sep ts := by
  induction ts with
  | nil => simp
  | cons t ts ih =>
    have ht : c ∉ t := h t List.mem_cons_self
    cases ts with
    | nil => simpa using ht
    | cons u us =>
      rw [List.intercalate_cons_cons]
      exact List.not_mem_append (List.not_mem_append ht hsep)
        (ih fun v hv => h v (List.mem_cons_of_mem t hv))

/-! ## The last separator -/

theorem cutLast?_of_not_mem {sep : Char} {t : Text} (h : sep ∉ t) : cutLast? sep t = none := by
  induction t with
  | nil => rfl
  | cons c rest ih =>
    rw [List.mem_cons, not_or] at h
    rw [cutLast?, ih h.2]
    exact if_neg (Ne.symm h.1)

theorem cutLast?_append_cons {sep : Char} {after : Text} (h : sep ∉ after) (before : Text) :
    cutLast? sep (before ++ sep :: after) = some (before, after) := by
  induction before with
  | nil =>
    rw [List.nil_append, cutLast?, cutLast?_of_not_mem h]
    exact if_pos rfl
  | cons c before ih => rw [List.cons_append, cutLast?, ih]

/-- A separator that a text has stands there for the last time: the first one from the end. -/
theorem exists_last_of_mem {sep : Char} {t : Text} (h : sep ∈ t) :
    ∃ before after, t = before ++ sep :: after ∧ sep ∉ after := by
  obtain ⟨back, front, hreverse, hback⟩ := List.eq_append_cons_of_mem (List.mem_reverse.mpr h)
  refine ⟨front.reverse, back.reverse, ?_, fun hc => hback (List.mem_reverse.mp hc)⟩
  rw [← List.reverse_reverse t, hreverse]
  simp

/-- A text is cut where no separator follows. -/
theorem cutLast?_eq_some_iff {sep : Char} {t before after : Text} :
    cutLast? sep t = some (before, after) ↔ t = before ++ sep :: after ∧ sep ∉ after := by
  constructor
  · intro h
    by_cases hmem : sep ∈ t
    · obtain ⟨front, back, rfl, hback⟩ := exists_last_of_mem hmem
      rw [cutLast?_append_cons hback, Option.some.injEq, Prod.mk.injEq] at h
      obtain ⟨rfl, rfl⟩ := h
      exact ⟨rfl, hback⟩
    · rw [cutLast?_of_not_mem hmem] at h
      cases h
  · rintro ⟨rfl, h⟩
    exact cutLast?_append_cons h before

theorem cutLast?_eq_none_iff {sep : Char} {t : Text} : cutLast? sep t = none ↔ sep ∉ t := by
  refine ⟨fun h hmem => ?_, cutLast?_of_not_mem⟩
  obtain ⟨before, after, rfl, hafter⟩ := exists_last_of_mem hmem
  rw [cutLast?_append_cons hafter] at h
  cases h

/-! ## Lines -/

@[simp] theorem joinLines_nil : joinLines [] = [] :=
  rfl

@[simp] theorem joinLines_singleton (t : Text) : joinLines [t] = t := by
  rw [joinLines, List.intercalate_singleton]

theorem joinLines_cons_cons (t u : Text) (us : List Text) :
    joinLines (t :: u :: us) = t ++ '\n' :: joinLines (u :: us) := by
  rw [joinLines, List.intercalate_cons_cons, List.append_assoc]
  rfl

/-- Joined lines start with the first line. -/
theorem exists_joinLines_cons (t : Text) (ts : List Text) : ∃ rest, joinLines (t :: ts) = t ++ rest := by
  cases ts with
  | nil => exact ⟨[], by simp⟩
  | cons u us => exact ⟨_, joinLines_cons_cons t u us⟩

theorem joinLines_append {ts us : List Text} (hts : ts ≠ []) (hus : us ≠ []) :
    joinLines (ts ++ us) = joinLines ts ++ '\n' :: joinLines us := by
  induction ts with
  | nil => exact absurd rfl hts
  | cons t ts ih =>
    cases ts with
    | nil =>
      obtain ⟨u, us, rfl⟩ := List.exists_cons_of_ne_nil hus
      rw [List.singleton_append, joinLines_cons_cons, joinLines_singleton]
    | cons u ts =>
      rw [List.cons_append, List.cons_append, joinLines_cons_cons, ← List.cons_append,
        ih (List.cons_ne_nil u ts), joinLines_cons_cons, List.append_assoc, List.cons_append]

/-- Joined lines have all characters of each line. -/
theorem subset_joinLines {t : Text} {ts : List Text} (h : t ∈ ts) : t ⊆ joinLines ts := by
  induction ts with
  | nil => cases h
  | cons first ts ih =>
    cases ts with
    | nil =>
      obtain rfl := List.mem_singleton.mp h
      simp
    | cons u us =>
      rw [joinLines_cons_cons]
      rcases List.mem_cons.mp h with rfl | h
      · exact List.subset_append_left _ _
      · exact fun c hc => List.mem_append_right first (List.mem_cons_of_mem '\n' (ih h hc))

/-- A text is what its lines give when they are joined. -/
theorem joinLines_lines (t : Text) : joinLines (lines t) = t := by
  rw [lines, splitOn_eq_listSplitOn]
  exact List.intercalate_splitOn '\n'

theorem subset_of_mem_lines {t line : Text} (h : line ∈ lines t) : line ⊆ t := by
  have hsub := subset_joinLines h
  rwa [joinLines_lines] at hsub

/-- The lines of two texts with a line feed between them are those of both. -/
theorem lines_append_feed (a b : Text) : lines (a ++ '\n' :: b) = lines a ++ lines b := by
  exact splitOn_append_cons '\n' a b

/-- The lines of a text have no line feed of their own. -/
theorem no_feed_of_mem_lines {t line : Text} (h : line ∈ lines t) : '\n' ∉ line :=
  not_mem_of_mem_splitOn h

/-- Lines without a line feed of their own are read back after joining. -/
theorem lines_joinLines {ts : List Text} (hne : ts ≠ []) (hfeed : ∀ t ∈ ts, '\n' ∉ t) :
    lines (joinLines ts) = ts := by
  rw [lines, splitOn_eq_listSplitOn, joinLines]
  exact List.splitOn_intercalate '\n' hfeed hne

/-- Joined lines that are not empty are what is not empty among the lines of the
    text. So no two lists of such lines give one text. -/
theorem filter_lines_joinLines {ts : List Text} (h : ∀ t ∈ ts, t ≠ [] ∧ '\n' ∉ t) :
    (lines (joinLines ts)).filter (· ≠ []) = ts := by
  by_cases hne : ts = []
  · rw [hne]
    rfl
  · rw [lines_joinLines hne fun t ht => (h t ht).2, List.filter_eq_self]
    intro t ht
    exact decide_eq_true (h t ht).1

/-- A text has one first part without `sep` and one rest behind the first `sep`. -/
theorem append_cons_inj {sep : Char} {a b t u : Text} (ha : sep ∉ a) (hb : sep ∉ b) :
    a ++ sep :: t = b ++ sep :: u ↔ a = b ∧ t = u := by
  constructor
  · intro h
    -- The first part is what stands in front of the first `sep` of the whole.
    have hbefore : ∀ {x : Text} (rest : Text), sep ∉ x →
        (x ++ sep :: rest).takeWhile (· != sep) = x := by
      intro x rest hx
      have hx' : ∀ c ∈ x, (c != sep) = true :=
        fun c hc => bne_iff_ne.mpr fun heq => hx (heq ▸ hc)
      rw [List.takeWhile_append_of_pos hx']
      simp
    obtain rfl : a = b := by rw [← hbefore t ha, h, hbefore u hb]
    exact ⟨rfl, (List.cons.inj (List.append_cancel_left h)).2⟩
  · rintro ⟨rfl, rfl⟩
    rfl

/-! ## Segments as a relation -/

/-- The text has no character of a line break. -/
def IsUnbroken (t : Text) : Prop :=
  '\n' ∉ t ∧ '\r' ∉ t

/-- The text falls into these segments: unbroken texts with a line break after
    each but the last. A carriage return with a line feed after it is one line
    break, never two. -/
inductive CutsInto : Text → List Text → Prop where
  | last {s : Text} : IsUnbroken s → CutsInto s [s]
  | feed {s rest : Text} {segs : List Text} :
      IsUnbroken s → CutsInto rest segs → CutsInto (s ++ '\n' :: rest) (s :: segs)
  | both {s rest : Text} {segs : List Text} :
      IsUnbroken s → CutsInto rest segs → CutsInto (s ++ '\r' :: '\n' :: rest) (s :: segs)
  | carriage {s rest : Text} {segs : List Text} :
      IsUnbroken s → rest.head? ≠ some '\n' → CutsInto rest segs →
        CutsInto (s ++ '\r' :: rest) (s :: segs)

theorem isUnbroken_nil : IsUnbroken [] := by
  simp [IsUnbroken]

theorem isUnbroken_cons_iff {c : Char} {s : Text} :
    IsUnbroken (c :: s) ↔ (c ≠ '\n' ∧ c ≠ '\r') ∧ IsUnbroken s := by
  simp only [IsUnbroken, List.mem_cons, not_or, ne_comm (a := c)]
  exact and_and_and_comm

/-- The segments of a text have no line break of their own. -/
theorem CutsInto.isUnbroken {t : Text} {segs : List Text} (h : CutsInto t segs) :
    ∀ s ∈ segs, IsUnbroken s := by
  induction h with
  | last hs => simpa using hs
  | feed hs _ ih => simpa using ⟨hs, ih⟩
  | both hs _ ih => simpa using ⟨hs, ih⟩
  | carriage hs _ _ ih => simpa using ⟨hs, ih⟩

/-- What stands in a segment stands in the text. -/
theorem CutsInto.subset {t : Text} {segs : List Text} (h : CutsInto t segs) :
    ∀ s ∈ segs, s ⊆ t := by
  induction h with
  | last _ => simp
  | feed _ _ ih | both _ _ ih | carriage _ _ _ ih =>
    refine List.forall_mem_cons.mpr ⟨List.subset_append_left _ _, fun s hs c hc => ?_⟩
    simp [ih s hs hc]

/-- A character that breaks no line belongs to the first segment. -/
theorem CutsInto.cons {c : Char} {t : Text} {segs : List Text} (hfeed : c ≠ '\n')
    (hreturn : c ≠ '\r') (h : CutsInto t segs) :
    CutsInto (c :: t) (segs.modifyHead (c :: ·)) := by
  have hc : ∀ {s : Text}, IsUnbroken s → IsUnbroken (c :: s) :=
    fun hs => isUnbroken_cons_iff.mpr ⟨⟨hfeed, hreturn⟩, hs⟩
  cases h with
  | last hs => exact .last (hc hs)
  | feed hs hrest => exact .feed (hc hs) hrest
  | both hs hrest => exact .both (hc hs) hrest
  | carriage hs hhead hrest => exact .carriage (hc hs) hhead hrest

/-! ## Segments as a function -/

theorem segments_feed (rest : Text) : segments ('\n' :: rest) = [] :: segments rest := by
  rw [segments]
  · simp
  · simp

theorem segments_carriage {rest : Text} (h : rest.head? ≠ some '\n') :
    segments ('\r' :: rest) = [] :: segments rest := by
  rw [segments]
  · simp
  · rintro more - rfl
    exact h rfl

/-- An unbroken text in front belongs to the first segment. -/
theorem segments_append_of_isUnbroken {s : Text} (hs : IsUnbroken s) (t : Text) :
    segments (s ++ t) = (segments t).modifyHead (s ++ ·) := by
  induction s with
  | nil => exact (congrFun List.modifyHead_id (segments t)).symm
  | cons c s ih =>
    obtain ⟨⟨hfeed, hreturn⟩, hs'⟩ := isUnbroken_cons_iff.mp hs
    rw [List.cons_append, segments, if_neg (by simp [hfeed, hreturn]), ih hs',
      List.modifyHead_modifyHead]
    · rfl
    · intro more hc
      exact absurd hc hreturn

/-- A text falls into no other segments than those of `segments`. -/
theorem CutsInto.segments_eq {t : Text} {segs : List Text} (h : CutsInto t segs) :
    segments t = segs := by
  induction h with
  | @last s hs =>
    have h := segments_append_of_isUnbroken hs []
    rw [List.append_nil] at h
    rw [h]
    simp [segments]
  | feed hs _ ih =>
    rw [segments_append_of_isUnbroken hs, segments_feed, ih]
    simp
  | both hs _ ih =>
    rw [segments_append_of_isUnbroken hs, segments, ih]
    simp
  | carriage hs hhead _ ih =>
    rw [segments_append_of_isUnbroken hs, segments_carriage hhead, ih]
    simp

/-- A text falls into its segments. -/
theorem cutsInto_segments (t : Text) : CutsInto t (segments t) := by
  fun_induction segments t with
  | case1 => exact .last isUnbroken_nil
  | case2 rest ih => exact .both isUnbroken_nil ih
  | case3 c rest hpair hbreak ih =>
    rcases hbreak with rfl | rfl
    · exact .feed isUnbroken_nil ih
    · -- A line feed behind the carriage return would have been taken as a pair.
      refine .carriage isUnbroken_nil ?_ ih
      intro hhead
      obtain ⟨more, rfl⟩ := List.head?_eq_some_iff.mp hhead
      exact hpair more rfl rfl
  | case4 c rest _ hbreak ih =>
    rw [not_or] at hbreak
    exact .cons hbreak.1 hbreak.2 ih

theorem cutsInto_iff_segments_eq {t : Text} {segs : List Text} :
    CutsInto t segs ↔ segments t = segs :=
  ⟨CutsInto.segments_eq, fun h => h ▸ cutsInto_segments t⟩

/-- The segments of a text have no line break of their own. -/
theorem isUnbroken_of_mem_segments {t s : Text} (hs : s ∈ segments t) : IsUnbroken s :=
  (cutsInto_segments t).isUnbroken s hs

/-- Joined unbroken texts fall into themselves. -/
theorem cutsInto_joinLines {ts : List Text} (hne : ts ≠ []) (h : ∀ t ∈ ts, IsUnbroken t) :
    CutsInto (joinLines ts) ts := by
  induction ts with
  | nil => exact absurd rfl hne
  | cons t ts ih =>
    have ht : IsUnbroken t := h t List.mem_cons_self
    cases ts with
    | nil =>
      rw [joinLines_singleton]
      exact .last ht
    | cons u us =>
      rw [joinLines_cons_cons]
      exact .feed ht (ih (List.cons_ne_nil u us) fun s hs => h s (List.mem_cons_of_mem t hs))

/-- Unbroken texts are read back as segments after joining. -/
theorem segments_joinLines {ts : List Text} (hne : ts ≠ []) (h : ∀ t ∈ ts, IsUnbroken t) :
    segments (joinLines ts) = ts :=
  (cutsInto_joinLines hne h).segments_eq

/-! ## Texts that meet in a line feed -/

theorem getLast?_ne_of_append {c d : Char} {s rest : Text}
    (h : (s ++ d :: rest).getLast? ≠ some c) : rest.getLast? ≠ some c := by
  intro hrest
  apply h
  rw [List.getLast?_append, List.getLast?_cons, hrest]
  rfl

/-- The carriage return that ends a text would be one line break with the line
    feed after it; without it the texts fall into segments one by one. -/
theorem CutsInto.append_feed {a b : Text} {xs ys : List Text} (ha : CutsInto a xs)
    (hb : CutsInto b ys) (hlast : a.getLast? ≠ some '\r') :
    CutsInto (a ++ '\n' :: b) (xs ++ ys) := by
  induction ha with
  | last hs => exact .feed hs hb
  | feed hs _ ih =>
    rw [List.append_assoc]
    exact .feed hs (ih (getLast?_ne_of_append hlast))
  | @both s rest segs hs _ ih =>
    -- The line feed of the pair stands between its carriage return and the rest.
    have hlast' : ((s ++ ['\r']) ++ '\n' :: rest).getLast? ≠ some '\r' := by
      simpa using hlast
    rw [List.append_assoc]
    exact .both hs (ih (getLast?_ne_of_append hlast'))
  | @carriage s rest segs hs hhead _ ih =>
    rw [List.append_assoc]
    refine .carriage hs ?_ (ih (getLast?_ne_of_append hlast))
    -- Only with nothing behind it would the carriage return meet the new line feed.
    cases rest with
    | nil => simp at hlast
    | cons c more => simpa using hhead

/-- The segments of two texts with a line feed between them are those of both. -/
theorem segments_append_feed {a : Text} (hlast : a.getLast? ≠ some '\r') (b : Text) :
    segments (a ++ '\n' :: b) = segments a ++ segments b :=
  ((cutsInto_segments a).append_feed (cutsInto_segments b) hlast).segments_eq

end Text
end Tagdown
