/-
  Tagdown.Proofs.Text.LineBreaks

  One way to write a line break. `unifyBreaks` writes every line break of a text
  as a line feed, whichever way it was written: no carriage return is left
  (`no_carriage_unifyBreaks`) and the segments stay what they are
  (`segments_unifyBreaks`).
-/

import Tagdown.Proofs.Text.Lines

namespace Tagdown
namespace Text

/-- The text with a line feed for each pair of a carriage return and a line feed. -/
def pairsToFeeds : Text → Text
  | [] => []
  | '\r' :: '\n' :: rest => '\n' :: pairsToFeeds rest
  | c :: rest => c :: pairsToFeeds rest

/-- The text with a line feed for each carriage return. -/
def carriagesToFeeds (t : Text) : Text :=
  t.map fun c => if c = '\r' then '\n' else c

/-- The text with every line break written as a line feed: first the pairs, then
    the carriage returns that are left. -/
def unifyBreaks (t : Text) : Text :=
  carriagesToFeeds (pairsToFeeds t)

theorem no_carriage_unifyBreaks (t : Text) : '\r' ∉ unifyBreaks t := by
  intro h
  obtain ⟨c, -, hc⟩ := List.mem_map.mp h
  split at hc
  · exact absurd hc (by decide)
  · rename_i hne
    exact hne hc

/-! ## One line break -/

theorem unifyBreaks_feed (rest : Text) : unifyBreaks ('\n' :: rest) = '\n' :: unifyBreaks rest := by
  simp [unifyBreaks, pairsToFeeds, carriagesToFeeds]

theorem unifyBreaks_pair (rest : Text) :
    unifyBreaks ('\r' :: '\n' :: rest) = '\n' :: unifyBreaks rest := by
  simp [unifyBreaks, pairsToFeeds, carriagesToFeeds]

theorem unifyBreaks_carriage {rest : Text} (h : rest.head? ≠ some '\n') :
    unifyBreaks ('\r' :: rest) = '\n' :: unifyBreaks rest := by
  rw [unifyBreaks, pairsToFeeds]
  · simp [carriagesToFeeds, unifyBreaks]
  · rintro more - rfl
    exact h rfl

/-- An unbroken text in front is left as it is. -/
theorem unifyBreaks_append_of_isUnbroken {s : Text} (hs : IsUnbroken s) (t : Text) :
    unifyBreaks (s ++ t) = s ++ unifyBreaks t := by
  induction s with
  | nil => rfl
  | cons c s ih =>
    obtain ⟨⟨-, hreturn⟩, hs'⟩ := isUnbroken_cons_iff.mp hs
    have hstep : unifyBreaks (c :: (s ++ t)) = c :: unifyBreaks (s ++ t) := by
      rw [unifyBreaks, pairsToFeeds]
      · simp [carriagesToFeeds, unifyBreaks, hreturn]
      · intro more hc
        exact absurd hc hreturn
    rw [List.cons_append, hstep, ih hs', List.cons_append]

/-! ## All line breaks -/

/-- Each line break becomes a line feed and no text of a segment is touched. -/
theorem CutsInto.unifyBreaks {t : Text} {segs : List Text} (h : CutsInto t segs) :
    CutsInto (unifyBreaks t) segs := by
  induction h with
  | @last s hs =>
    have hself := unifyBreaks_append_of_isUnbroken hs []
    have hnil : Text.unifyBreaks [] = [] := rfl
    rw [hnil, List.append_nil] at hself
    rw [hself]
    exact .last hs
  | feed hs _ ih =>
    rw [unifyBreaks_append_of_isUnbroken hs, unifyBreaks_feed]
    exact .feed hs ih
  | both hs _ ih =>
    rw [unifyBreaks_append_of_isUnbroken hs, unifyBreaks_pair]
    exact .feed hs ih
  | carriage hs hhead _ ih =>
    rw [unifyBreaks_append_of_isUnbroken hs, unifyBreaks_carriage hhead]
    exact .feed hs ih

/-- A text keeps its segments when its line breaks are unified. -/
theorem segments_unifyBreaks (t : Text) : segments (unifyBreaks t) = segments t :=
  (cutsInto_segments t).unifyBreaks.segments_eq

end Text
end Tagdown
