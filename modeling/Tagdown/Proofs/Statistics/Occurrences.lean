/-
  Tagdown.Proofs.Statistics.Occurrences

  Links and images as occurrences in a line, wherever they stand, and how many of them can
  be chosen without an overlap.

  An occurrence is a stretch of the line that reads as a link or an image
  (`IsOccurrence`), and a packing is a set of them of which no two overlap. The packings
  are what `Packs` lists from left to right (`packs_iff_exists_isPacking`): of a packing
  that is not empty the occurrence that starts first ends before all others start. So the
  leftmost search counts as many as the largest packing has (`isGreatest_count`).

  Lines are trimmed before they are searched. No link starts with padding or ends with it,
  so a line has the same number of matches before (`count_trimLine`).
-/

import Mathlib.Data.Finset.Max
import Mathlib.Order.Bounds.Basic
import Tagdown.Proofs.Matches
import Tagdown.Proofs.Statistics.Packing
import Tagdown.Proofs.Text.Trim

namespace Tagdown

/-! ## Occurrences -/

/-- A stretch of a line: the places of its first character and of the first one behind it. -/
@[ext]
structure Span where
  start : Nat
  stop : Nat
  deriving DecidableEq

namespace Span

/-- No character belongs to both stretches. -/
def Apart (s s' : Span) : Prop :=
  s.stop ≤ s'.start ∨ s'.stop ≤ s.start

end Span

/-- The text reads `[label](target)`. The label has no closing bracket and the target no
    closing parenthesis. -/
def IsLink (t : Text) : Prop :=
  ∃ label target : Text, ']' ∉ label ∧ ')' ∉ target ∧
    t = '[' :: label ++ ']' :: '(' :: target ++ [')']

/-- The text is a link behind an exclamation mark. -/
def IsImage (t : Text) : Prop :=
  ∃ link, IsLink link ∧ t = '!' :: link

/-- The stretch of the line has the form. -/
def IsOccurrence (form : Text → Prop) (line : Text) (s : Span) : Prop :=
  ∃ before body behind : Text, line = before ++ body ++ behind ∧ form body ∧
    s = ⟨before.length, before.length + body.length⟩

/-- Occurrences in a line, no two of which overlap. -/
structure IsPacking (form : Text → Prop) (line : Text) (spans : Finset Span) : Prop where
  occurs : ∀ s ∈ spans, IsOccurrence form line s
  apart : ∀ s ∈ spans, ∀ s' ∈ spans, s ≠ s' → s.Apart s'

/-- The sizes of the packings of a line. -/
def packingSizes (form : Text → Prop) (line : Text) : Set Nat :=
  {n | ∃ spans, IsPacking form line spans ∧ spans.card = n}

/-- An occurrence that ends before all others start can be added. -/
theorem IsPacking.insert_first {form : Text → Prop} {line : Text} {spans : Finset Span} {first : Span}
    (h : IsPacking form line spans) (hfirst : IsOccurrence form line first)
    (hbehind : ∀ s ∈ spans, first.stop ≤ s.start) : IsPacking form line (insert first spans) := by
  constructor
  · intro s hs
    rcases Finset.mem_insert.mp hs with rfl | hs
    · exact hfirst
    · exact h.occurs s hs
  · intro s hs s' hs' hne
    rcases Finset.mem_insert.mp hs with hs | hs <;> rcases Finset.mem_insert.mp hs' with hs' | hs'
    · exact absurd (hs.trans hs'.symm) hne
    · exact .inl (hs ▸ hbehind s' hs')
    · exact .inr (hs' ▸ hbehind s hs)
    · exact h.apart s hs s' hs' hne

namespace Pattern

variable {p : Pattern} {form : Text → Prop} {line t rest : Text} {n : Nat}

/-! ## Packings from left to right -/

/-- A match is what has the form at the start of the text. -/
def Finds (p : Pattern) (form : Text → Prop) : Prop :=
  ∀ t rest, p.rest? t = some rest ↔ ∃ body, form body ∧ t = body ++ rest

theorem Finds.length_pos (h : p.Finds form) {body : Text} (hbody : form body) : 0 < body.length := by
  have hmatch : p.rest? (body ++ []) = some [] := (h _ _).mpr ⟨body, hbody, rfl⟩
  have hlength := p.length_lt hmatch
  simpa using hlength

theorem Finds.start_lt_stop (h : p.Finds form) {s : Span} (hs : IsOccurrence form line s) :
    s.start < s.stop := by
  obtain ⟨before, body, behind, -, hbody, rfl⟩ := hs
  have hlength := h.length_pos hbody
  show before.length < before.length + body.length
  omega

/-- An occurrence is a match at the place where it starts. -/
theorem Finds.rest?_drop (h : p.Finds form) {s : Span} (hs : IsOccurrence form line s) :
    p.rest? (line.drop s.start) = some (line.drop s.stop) := by
  obtain ⟨before, body, behind, rfl, hbody, rfl⟩ := hs
  have hstart : (before ++ body ++ behind).drop before.length = body ++ behind := by simp
  have hstop : (before ++ body ++ behind).drop (before.length + body.length) = behind := by
    rw [← List.length_append, List.drop_left]
  rw [hstart, hstop]
  exact (h _ _).mpr ⟨body, hbody, rfl⟩

/-- Matches one behind the other are a packing, also with other text in front. -/
theorem Packs.exists_isPacking (hp : p.Finds form) (h : Packs p t n) (front : Text) :
    ∃ spans, IsPacking form (front ++ t) spans ∧ spans.card = n ∧
      ∀ s ∈ spans, front.length ≤ s.start := by
  -- The text in front grows by what the search has passed.
  induction h generalizing front with
  | none => exact ⟨∅, ⟨by simp, by simp⟩, rfl, by simp⟩
  | @skip c rest n _ ih =>
    obtain ⟨spans, hspans, hcard, hfront⟩ := ih (front ++ [c])
    rw [← List.append_cons] at hspans
    refine ⟨spans, hspans, hcard, fun s hs => ?_⟩
    have hstart := hfront s hs
    rw [List.length_append] at hstart
    omega
  | @take t after n hmatch _ ih =>
    obtain ⟨body, hbody, rfl⟩ := (hp _ _).mp hmatch
    obtain ⟨spans, hspans, hcard, hfront⟩ := ih (front ++ body)
    have hlength := hp.length_pos hbody
    let first : Span := ⟨front.length, front.length + body.length⟩
    have hfirst : IsOccurrence form (front ++ body ++ after) first :=
      ⟨front, body, after, rfl, hbody, rfl⟩
    have hbehind : ∀ s ∈ spans, first.stop ≤ s.start := by
      intro s hs
      have hstart := hfront s hs
      rwa [List.length_append] at hstart
    have hnew : first ∉ spans := by
      intro hmem
      have hstart : first.stop ≤ first.start := hbehind first hmem
      have hstop : first.stop = first.start + body.length := rfl
      omega
    refine ⟨insert first spans, ?_, ?_, ?_⟩
    · rw [← List.append_assoc]
      exact hspans.insert_first hfirst hbehind
    · rw [Finset.card_insert_of_notMem hnew, hcard]
    · intro s hs
      rcases Finset.mem_insert.mp hs with rfl | hs
      · exact Nat.le_refl _
      · have hstart := hbehind s hs
        have hstop : first.stop = front.length + body.length := rfl
        omega

/-- The occurrences of a packing can be found one behind the other from any place that none
    of them starts before. -/
theorem packs_of_isPacking (hp : p.Finds form) {spans : Finset Span}
    (h : IsPacking form line spans) {start : Nat} (hstart : ∀ s ∈ spans, start ≤ s.start) :
    Packs p (line.drop start) spans.card := by
  -- The occurrence that starts first is taken out, and the rest stands behind its end.
  induction spans using Finset.induction_on_min_value Span.start generalizing start with
  | empty => exact .none
  | insert first spans hnew hfirst ih =>
    have hrest : IsPacking form line spans :=
      ⟨fun s hs => h.occurs s (Finset.mem_insert_of_mem hs),
        fun s hs s' hs' => h.apart s (Finset.mem_insert_of_mem hs) s' (Finset.mem_insert_of_mem hs')⟩
    have hoccurs := h.occurs first (Finset.mem_insert_self first spans)
    have hbehind : ∀ s ∈ spans, first.stop ≤ s.start := by
      intro s hs
      have hne : first ≠ s := fun heq => hnew (heq ▸ hs)
      rcases h.apart first (Finset.mem_insert_self first spans) s (Finset.mem_insert_of_mem hs) hne
        with happart | happart
      · exact happart
      · have hlength := hp.start_lt_stop (hrest.occurs s hs)
        have hmin := hfirst s hs
        omega
    have htake : Packs p (line.drop first.start) (spans.card + 1) :=
      .take (hp.rest?_drop hoccurs) (ih hrest hbehind)
    rw [Finset.card_insert_of_notMem hnew]
    apply htake.of_suffix
    have hle := hstart first (Finset.mem_insert_self first spans)
    rw [← Nat.add_sub_cancel' hle, ← List.drop_drop]
    exact List.drop_suffix _ _

theorem packs_iff_exists_isPacking (hp : p.Finds form) : Packs p line n ↔ n ∈ packingSizes form line := by
  constructor
  · intro h
    obtain ⟨spans, hspans, hcard, -⟩ := h.exists_isPacking hp []
    exact ⟨spans, hspans, hcard⟩
  · rintro ⟨spans, hspans, rfl⟩
    have hzero : ∀ s ∈ spans, 0 ≤ s.start := fun s _ => Nat.zero_le _
    exact packs_of_isPacking hp hspans hzero

/-- The leftmost search finds the most occurrences that do not overlap. -/
theorem isGreatest_count (hp : p.Finds form) (horder : EndsInOrder p) (line : Text) :
    IsGreatest (packingSizes form line) (p.count line) :=
  ⟨(packs_iff_exists_isPacking hp).mp (packs_count p line),
    fun _ hn => ((packs_iff_exists_isPacking hp).mpr hn).le_count horder⟩

/-! ## Links and images -/

theorem rest?_link (t : Text) : link.rest? t = afterLink? t :=
  rfl

theorem after?_eq_some_iff {stop : Char} :
    Text.after? stop t = some rest ↔ ∃ before : Text, stop ∉ before ∧ t = before ++ stop :: rest := by
  constructor
  · intro h
    induction t with
    | nil => cases h
    | cons c t ih =>
      rw [Text.after?] at h
      split at h
      · -- The first character is the one that is looked for.
        rename_i hc
        cases h
        exact ⟨[], by simp, by rw [hc]; rfl⟩
      · rename_i hc
        obtain ⟨before, hbefore, rfl⟩ := ih h
        exact ⟨c :: before, by simp [Ne.symm hc, hbefore], rfl⟩
  · rintro ⟨before, hbefore, rfl⟩
    induction before with
    | nil => simp [Text.after?]
    | cons c before ih =>
      rw [List.mem_cons, not_or] at hbefore
      rw [List.cons_append, Text.after?, if_neg (Ne.symm hbefore.1), ih hbefore.2]

theorem finds_link : link.Finds IsLink := by
  intro t rest
  constructor
  · intro h
    obtain ⟨behind, behind', rfl, hbracket, hparen⟩ := afterLink?_eq_some_iff.mp h
    obtain ⟨label, hlabel, rfl⟩ := after?_eq_some_iff.mp hbracket
    obtain ⟨target, htarget, rfl⟩ := after?_eq_some_iff.mp hparen
    exact ⟨_, ⟨label, target, hlabel, htarget, rfl⟩, by simp⟩
  · rintro ⟨_, ⟨label, target, hlabel, htarget, rfl⟩, rfl⟩
    rw [rest?_link, afterLink?_eq_some_iff]
    refine ⟨label ++ ']' :: '(' :: (target ++ ')' :: rest), target ++ ')' :: rest, by simp, ?_, ?_⟩
    · exact after?_eq_some_iff.mpr ⟨label, hlabel, rfl⟩
    · exact after?_eq_some_iff.mpr ⟨target, htarget, rfl⟩

theorem afterImage?_eq_some_iff :
    afterImage? t = some rest ↔ ∃ t', t = '!' :: t' ∧ afterLink? t' = some rest := by
  constructor
  · intro h
    unfold afterImage? at h
    split at h
    · exact ⟨_, rfl, h⟩
    · cases h
  · rintro ⟨t', rfl, h⟩
    exact h

theorem finds_image : image.Finds IsImage := by
  intro t rest
  constructor
  · intro h
    obtain ⟨t', rfl, h⟩ := afterImage?_eq_some_iff.mp h
    obtain ⟨body, hbody, rfl⟩ := (finds_link t' rest).mp h
    exact ⟨'!' :: body, ⟨body, hbody, rfl⟩, rfl⟩
  · rintro ⟨_, ⟨body, hbody, rfl⟩, rfl⟩
    exact afterImage?_eq_some_iff.mpr ⟨body ++ rest, rfl, (finds_link _ rest).mpr ⟨body, hbody, rfl⟩⟩

/-- An image ends where the link in it ends. -/
theorem endsInOrder_image : EndsInOrder image := by
  intro t u rest rest' hsuffix ht hu
  obtain ⟨t', rfl, ht'⟩ := afterImage?_eq_some_iff.mp ht
  obtain ⟨u', rfl, hu'⟩ := afterImage?_eq_some_iff.mp hu
  exact endsInOrder_link (Text.suffix_of_cons_suffix_cons hsuffix) ht' hu'

/-! ## Padding around a line -/

/-- No match starts with padding or reaches into padding at the end of the text. -/
structure IgnoresPadding (p : Pattern) : Prop where
  lead : ∀ c, Text.isPadding c = true → ∀ rest, p.rest? (c :: rest) = none
  trail : ∀ trail, (∀ c ∈ trail, Text.isPadding c = true) → p.StopsBefore trail

theorem IgnoresPadding.count_eq_zero (hp : p.IgnoresPadding) (h : ∀ c ∈ t, Text.isPadding c = true) :
    p.count t = 0 := by
  have hnil : p.count [] = 0 := by rw [count]
  have hcount := count_append_of_none (fun c hc => hp.lead c (h c hc)) []
  rwa [List.append_nil, hnil] at hcount

theorem IgnoresPadding.count_trimLine (hp : p.IgnoresPadding) (line : Text) :
    p.count (Text.trimLine line) = p.count line := by
  obtain ⟨lead, trail, hsplit, hlead, htrail⟩ := (Text.isCore_trimBy Text.isPadding line).split
  calc p.count (Text.trimLine line)
      = p.count (lead ++ Text.trimLine line) :=
        (count_append_of_none (fun c hc => hp.lead c (hlead c hc)) _).symm
    _ = p.count (lead ++ Text.trimLine line ++ trail) := by
        rw [(hp.trail trail htrail).count_append, hp.count_eq_zero htrail, Nat.add_zero]
    _ = p.count line := congrArg p.count hsplit.symm

/-- A pattern for what is left by trimming as it is ignores padding. A match that reached into
    padding would end with it. -/
theorem Finds.ignoresPadding (h : p.Finds form) (hform : ∀ body, form body → Text.trimLine body = body) :
    p.IgnoresPadding := by
  have hcore : ∀ body, form body → Text.IsCore Text.isPadding body body :=
    fun body hbody => Text.isCore_iff_trimBy_eq.mpr (hform body hbody)
  constructor
  · -- A match that starts with padding would be a form that does.
    intro c hc rest
    rw [Option.eq_none_iff_forall_ne_some]
    intro after hmatch
    obtain ⟨body, hbody, heq⟩ := (h _ _).mp hmatch
    cases body with
    | nil => exact absurd (h.length_pos hbody) (Nat.lt_irrefl 0)
    | cons first body =>
      cases heq
      have hfirst := (hcore _ hbody).head c rfl
      rw [hc] at hfirst
      cases hfirst
  · intro trail htrail t
    ext rest
    rw [h, Option.map_eq_some_iff]
    constructor
    · rintro ⟨body, hbody, heq⟩
      rcases List.append_eq_append_iff.mp heq with ⟨past, rfl, rfl⟩ | ⟨after, rfl, rfl⟩
      · -- The match ends in the padding, so it ends with the text.
        have hpast : past = [] := by
          rw [← List.getLast?_eq_none_iff, Option.eq_none_iff_forall_ne_some]
          intro c hc
          have hlast := (hcore _ hbody).last c (by rw [List.getLast?_append, hc]; rfl)
          rw [htrail c (List.mem_append_left rest (List.mem_of_getLast? hc))] at hlast
          cases hlast
        subst hpast
        rw [List.append_nil] at hbody
        exact ⟨[], (h _ _).mpr ⟨t, hbody, (List.append_nil t).symm⟩, rfl⟩
      · exact ⟨after, (h _ _).mpr ⟨body, hbody, rfl⟩, rfl⟩
    · rintro ⟨after, hmatch, rfl⟩
      obtain ⟨body, hbody, rfl⟩ := (h _ _).mp hmatch
      exact ⟨body, hbody, List.append_assoc body after trail⟩

theorem trimLine_enclosed {first last : Char} (hfirst : Text.isPadding first = false)
    (hlast : Text.isPadding last = false) (inner : Text) :
    Text.trimLine (first :: inner ++ [last]) = first :: inner ++ [last] := by
  apply Text.trimBy_eq_self
  · intro c hc
    cases hc
    exact hfirst
  · intro c hc
    rw [List.getLast?_concat] at hc
    cases hc
    exact hlast

theorem ignoresPadding_link : link.IgnoresPadding := by
  refine finds_link.ignoresPadding ?_
  rintro _ ⟨label, target, -, -, rfl⟩
  exact trimLine_enclosed (by decide) (by decide) (label ++ ']' :: '(' :: target)

theorem ignoresPadding_image : image.IgnoresPadding := by
  refine finds_image.ignoresPadding ?_
  rintro _ ⟨_, ⟨label, target, -, -, rfl⟩, rfl⟩
  exact trimLine_enclosed (by decide) (by decide) ('[' :: label ++ ']' :: '(' :: target)

end Pattern

/-! ## Texts -/

namespace Statistics

/-- A number that adds up is read off all lines of a text if a line without characters has
    none of it. -/
theorem apply_countersOf {f : Counters → Nat} (hf : Counters.IsAdditive f) (hnil : f (Line.counters []) = 0)
    (text : Text) : f (countersOf text) =
      ((Text.lines text).map fun line => f (Line.counters (Text.trimLine line))).sum := by
  have hskipped : ∀ line, Paragraph.isSolid line = false →
      f (Line.counters (Text.trimLine line)) = 0 := by
    intro line hline
    have hcore : Text.trimLine line = [] := by simpa [Paragraph.isSolid] using hline
    rw [hcore, hnil]
  rw [countersOf, hf.apply_sum, List.map_map]
  exact sum_map_solidLines hskipped text

/-- **No choice of links or images beats the search.** What is counted on a line is the
    largest number of links, and of images, that can be chosen on it without an overlap, and
    a text has as many as all its lines together. -/
theorem links_and_images_are_largest_packings (text : Text) :
    let onLine (line : Text) := Line.counters (Text.trimLine line)
    (∀ line, IsGreatest (packingSizes IsLink line) (onLine line).links ∧
      IsGreatest (packingSizes IsImage line) (onLine line).images) ∧
    (ofText text).links = ((Text.lines text).map fun line => (onLine line).links).sum ∧
    (ofText text).images = ((Text.lines text).map fun line => (onLine line).images).sum := by
  intro onLine
  refine ⟨fun line => ⟨?_, ?_⟩, ?_, ?_⟩
  · have hlinks : (onLine line).links = Pattern.link.count line :=
      Pattern.ignoresPadding_link.count_trimLine line
    rw [hlinks]
    exact Pattern.isGreatest_count Pattern.finds_link Pattern.endsInOrder_link line
  · have himages : (onLine line).images = Pattern.image.count line :=
      Pattern.ignoresPadding_image.count_trimLine line
    rw [himages]
    exact Pattern.isGreatest_count Pattern.finds_image Pattern.endsInOrder_image line
  · have hlinks : (Line.counters []).links = 0 := by simp [Line.counters, Pattern.count]
    exact apply_countersOf Counters.isAdditive_links hlinks text
  · have himages : (Line.counters []).images = 0 := by simp [Line.counters, Pattern.count]
    exact apply_countersOf Counters.isAdditive_images himages text

end Statistics
end Tagdown
