/-
  Tagdown.Text.CharSet

  Sets of characters as ranges of code points, with the operations on sets, and
  ranges as they stand in a table.

  Main statement: `holds_ofRanges`, a set has the characters of the ranges that
  it is made of.
-/

import Tagdown.Text.Blank

namespace Tagdown

namespace CodeRange

/-! ## Tables -/

/-- The value of a hexadecimal digit of a table. -/
def digitOf (c : Char) : Nat :=
  if c.isDigit then Text.digitValue c else c.toNat - 'A'.toNat + 10

/-- The code point that a table writes with hexadecimal digits. -/
def codeOf (digits : Text) : Nat :=
  digits.foldl (fun value c => 16 * value + digitOf c) 0

/-- The range that a table writes as `first-last`, or as one code point. -/
def ofWord (word : Text) : CodeRange :=
  match Text.splitOn '-' word with
  | [first, last] => ⟨codeOf first, codeOf last⟩
  | _ => ⟨codeOf word, codeOf word⟩

/-- The ranges of a table: its words, with blanks between them. -/
def ofTable (table : String) : List CodeRange :=
  (Text.words table.toList).map ofWord

end CodeRange

/-- A set of characters: ranges of code points in ascending order that neither
    overlap nor touch. -/
structure CharSet where
  ranges : List CodeRange
  deriving DecidableEq, Repr

namespace CharSet

/-- The character is in the set. -/
def holds (s : CharSet) (c : Char) : Bool :=
  s.ranges.any (·.holds c)

/-! ## Making -/

/-- Joins ranges in ascending order that overlap or touch. `r` comes first. -/
def join (r : CodeRange) : List CodeRange → List CodeRange
  | [] => [r]
  | next :: rest =>
    if next.first ≤ r.last + 1 then join ⟨r.first, max r.last next.last⟩ rest
    else r :: join next rest

/-- The ranges in ascending order, each two apart. -/
def arrange (ranges : List CodeRange) : List CodeRange :=
  match ranges.mergeSort fun a b => a.first ≤ b.first with
  | [] => []
  | r :: rest => join r rest

/-- The characters of the ranges. -/
def ofRanges (ranges : List CodeRange) : CharSet :=
  ⟨arrange ranges⟩

/-- The characters of a table. -/
def ofTable (table : String) : CharSet :=
  ofRanges (CodeRange.ofTable table)

/-- No character. -/
def empty : CharSet :=
  ⟨[]⟩

/-- The character alone. -/
def single (c : Char) : CharSet :=
  ⟨[⟨c.toNat, c.toNat⟩]⟩

/-! ## Operations -/

/-- The characters of both sets. -/
def union (s t : CharSet) : CharSet :=
  ofRanges (s.ranges ++ t.ranges)

/-- The characters of all the sets. -/
def unions (sets : List CharSet) : CharSet :=
  ofRanges (sets.flatMap ranges)

/-- The ranges between `start` and `limit` that ranges in ascending order leave
    out. -/
def gaps (limit start : Nat) : List CodeRange → List CodeRange
  | [] => if start ≤ limit then [⟨start, limit⟩] else []
  | r :: rest =>
    if start < r.first then ⟨start, r.first - 1⟩ :: gaps limit (r.last + 1) rest
    else gaps limit (r.last + 1) rest

/-- The characters up to `limit` that are not in the set. -/
def complementTo (limit : Nat) (s : CharSet) : CharSet :=
  ⟨gaps limit 0 s.ranges⟩

/-- The greatest code point. -/
def lastCode : Nat := 0x10FFFF

/-- The characters that are not in the set. -/
def complement (s : CharSet) : CharSet :=
  s.complementTo lastCode

/-- The characters that are in both sets. -/
def inter (s t : CharSet) : CharSet :=
  (s.complement.union t.complement).complement

/-- The characters of the first set that are not in the second. -/
def diff (s t : CharSet) : CharSet :=
  s.inter t.complement

/-- The characters that are in one of the sets only. -/
def symmDiff (s t : CharSet) : CharSet :=
  (s.diff t).union (t.diff s)

/-- The set has no character beyond ASCII. -/
def isAscii (s : CharSet) : Bool :=
  s.ranges.all (·.last ≤ 0x7F)

/-! ## Laws -/

theorem any_join (c : Char) {r : CodeRange} {rest : List CodeRange}
    (h : (r :: rest).Pairwise fun a b => a.first ≤ b.first) :
    (join r rest).any (·.holds c) = (r.holds c || rest.any (·.holds c)) := by
  induction rest generalizing r with
  | nil => simp [join]
  | cons next rest ih =>
    obtain ⟨hr, hrest⟩ := List.pairwise_cons.1 h
    have hnext : r.first ≤ next.first := hr next (List.mem_cons_self ..)
    by_cases htouch : next.first ≤ r.last + 1
    · have hjoined : (⟨r.first, max r.last next.last⟩ :: rest).Pairwise
          fun (a b : CodeRange) => a.first ≤ b.first :=
        List.pairwise_cons.2
          ⟨fun x hx => hr x (List.mem_cons_of_mem _ hx), (List.pairwise_cons.1 hrest).2⟩
      have hboth : CodeRange.holds ⟨r.first, max r.last next.last⟩ c =
          (r.holds c || next.holds c) := by
        rw [Bool.eq_iff_iff]
        simp only [CodeRange.holds, Bool.or_eq_true, Bool.and_eq_true, decide_eq_true_eq]
        omega
      simp only [join, htouch, if_true, ih hjoined, hboth, List.any_cons, Bool.or_assoc]
    · simp only [join, htouch, if_false, List.any_cons, ih hrest]

/-- A set has the characters of the ranges that it is made of. -/
theorem holds_ofRanges (ranges : List CodeRange) (c : Char) :
    (ofRanges ranges).holds c = ranges.any (·.holds c) := by
  have hperm := List.mergeSort_perm ranges fun a b => decide (a.first ≤ b.first)
  have hsorted : (ranges.mergeSort fun a b => decide (a.first ≤ b.first)).Pairwise
      fun a b => a.first ≤ b.first := by
    have h := @List.pairwise_mergeSort _ (fun a b : CodeRange => decide (a.first ≤ b.first))
      (fun a b c hab hbc => by simp only [decide_eq_true_eq] at *; omega)
      (fun a b => by simp only [Bool.or_eq_true, decide_eq_true_eq]; omega) ranges
    simpa using h
  rw [← hperm.any_eq]
  unfold ofRanges holds arrange
  split
  · next heq => simp [heq]
  · next r rest heq =>
    rw [heq] at hsorted
    simp [heq, any_join c hsorted]

theorem holds_unions (sets : List CharSet) (c : Char) :
    (unions sets).holds c = sets.any (·.holds c) := by
  rw [unions, holds_ofRanges, List.any_flatMap]
  rfl

end CharSet
end Tagdown
