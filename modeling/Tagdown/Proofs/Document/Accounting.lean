/-
  Tagdown.Proofs.Document.Accounting

  A conversion accounts for every segment of its text: each is blank, a block
  or a diagnostic, in order, and each diagnostic has the number of its segment.

  `ofSegments_cons` says what one segment adds. The accounts of a whole text
  (`accounts_ofSegments`) and the conversion of two texts with a line feed
  between them (`ofText_append_feed`) follow by induction on the segments.
-/

import Tagdown.Document.Conversion
import Tagdown.Proofs.Document.Grammar
import Tagdown.Proofs.Text.Lines

namespace Tagdown

/-! ## One segment -/

namespace Block

/-- The block of a line, if it is recognized. -/
def ofLine? (table : TagTable) (line : Text) : Option Block :=
  (recognize table line).toOption.join

/-- The line holds nothing but padding. -/
def IsBlank (line : Text) : Prop :=
  ∀ c ∈ line, Text.isPadding c = true

instance (line : Text) : Decidable (IsBlank line) :=
  inferInstanceAs (Decidable (∀ c ∈ line, Text.isPadding c = true))

theorem recognize_eq_none_iff_isBlank {table : TagTable} {line : Text} :
    recognize table line = .ok none ↔ IsBlank line := by
  rw [recognize_eq_none_iff]
  exact Text.trimBy_eq_nil_iff

/-- The line is blank, recognized or diagnosed, and just one of them. -/
def HasOneFate (table : TagTable) (line : Text) : Prop :=
  let blank := IsBlank line
  let recognized := ∃ block, recognize table line = .ok (some block)
  let diagnosed := ∃ fault, recognize table line = .error fault
  (blank ∧ ¬recognized ∧ ¬diagnosed) ∨ (¬blank ∧ recognized ∧ ¬diagnosed) ∨
    (¬blank ∧ ¬recognized ∧ diagnosed)

theorem hasOneFate (table : TagTable) (line : Text) : HasOneFate table line := by
  simp only [HasOneFate, ← @recognize_eq_none_iff_isBlank table line]
  cases recognize table line with
  | error fault => simp
  | ok block? => cases block? <;> simp

end Block

namespace Diagnostic

/-- The diagnostic of the same segment with `n` more segments in front of it. -/
def shift (n : Nat) (d : Diagnostic) : Diagnostic :=
  ⟨d.lineNumber + n, d.fault⟩

end Diagnostic

namespace Conversion

variable {table : TagTable} {first : Nat} {segment : Text} {segs : List Text}

/-- What one segment adds to a conversion. -/
def ofSegment (table : TagTable) (number : Nat) (segment : Text) : Conversion :=
  match Block.recognize table segment with
  | .ok none => ⟨[], []⟩
  | .ok (some block) => ⟨[block], []⟩
  | .error fault => ⟨[], [⟨number, fault⟩]⟩

/-- One conversion behind the other. -/
def append (a b : Conversion) : Conversion :=
  ⟨a.blocks ++ b.blocks, a.diagnostics ++ b.diagnostics⟩

/-- The conversion of the same text with `n` more segments in front of it. -/
def shift (n : Nat) (c : Conversion) : Conversion :=
  ⟨c.blocks, c.diagnostics.map (Diagnostic.shift n)⟩

theorem ofSegments_cons (table : TagTable) (first : Nat) (segment : Text) (segs : List Text) :
    ofSegments table first (segment :: segs) =
      (ofSegment table first segment).append (ofSegments table (first + 1) segs) := by
  rw [ofSegments, ofSegment]
  cases Block.recognize table segment with
  | error fault => rfl
  | ok block? => cases block? <;> rfl

theorem blocks_ofSegment (table : TagTable) (number : Nat) (segment : Text) :
    (ofSegment table number segment).blocks = (Block.ofLine? table segment).toList := by
  rw [ofSegment, Block.ofLine?]
  cases Block.recognize table segment with
  | error fault => rfl
  | ok block? => cases block? <;> rfl

theorem mem_diagnostics_ofSegment {number : Nat} {d : Diagnostic} :
    d ∈ (ofSegment table number segment).diagnostics ↔
      Block.recognize table segment = .error d.fault ∧ d.lineNumber = number := by
  obtain ⟨lineNumber, fault⟩ := d
  rw [ofSegment]
  cases Block.recognize table segment with
  | error found => simp [and_comm, eq_comm]
  | ok block? => cases block? <;> simp

/-- A segment counts once: as a block, as a diagnostic or as blank. -/
theorem length_ofSegment (table : TagTable) (number : Nat) (segment : Text) :
    (ofSegment table number segment).blocks.length +
        (ofSegment table number segment).diagnostics.length +
        (if Block.IsBlank segment then 1 else 0) = 1 := by
  simp only [← @Block.recognize_eq_none_iff_isBlank table segment]
  rw [ofSegment]
  cases Block.recognize table segment with
  | error fault => simp
  | ok block? => cases block? <;> simp

theorem ofSegment_shift (table : TagTable) (number n : Nat) (segment : Text) :
    ofSegment table (number + n) segment = (ofSegment table number segment).shift n := by
  rw [ofSegment, ofSegment]
  cases Block.recognize table segment with
  | error fault => rfl
  | ok block? => cases block? <;> rfl

/-! ## All segments -/

theorem ofSegments_append (table : TagTable) (first : Nat) (xs ys : List Text) :
    ofSegments table first (xs ++ ys) =
      (ofSegments table first xs).append (ofSegments table (first + xs.length) ys) := by
  induction xs generalizing first with
  | nil => rfl
  | cons segment xs ih =>
    have hnumber : first + 1 + xs.length = first + (segment :: xs).length := by
      rw [List.length_cons]
      omega
    rw [List.cons_append, ofSegments_cons, ofSegments_cons, ih, hnumber]
    simp only [append, List.append_assoc]

/-- More segments in front of a text change the line numbers and nothing else. -/
theorem ofSegments_shift (table : TagTable) (first n : Nat) (segs : List Text) :
    ofSegments table (first + n) segs = (ofSegments table first segs).shift n := by
  induction segs generalizing first with
  | nil => rfl
  | cons segment segs ih =>
    rw [ofSegments_cons, ofSegments_cons, Nat.add_right_comm, ih, ofSegment_shift]
    simp only [append, shift, List.map_append]

/-- The blocks are the recognized segments, in order. -/
theorem blocks_ofSegments (table : TagTable) (first : Nat) (segs : List Text) :
    (ofSegments table first segs).blocks = segs.filterMap (Block.ofLine? table) := by
  induction segs generalizing first with
  | nil => rfl
  | cons segment segs ih =>
    rw [ofSegments_cons, append, blocks_ofSegment, ih, List.filterMap_cons]
    cases Block.ofLine? table segment <;> rfl

/-- The diagnostics are the faults of the segments, each with the place of its
    segment, counted from `first`. -/
theorem mem_diagnostics_ofSegments {d : Diagnostic} :
    d ∈ (ofSegments table first segs).diagnostics ↔
      ∃ i segment, segs[i]? = some segment ∧ Block.recognize table segment = .error d.fault ∧
        d.lineNumber = first + i := by
  induction segs generalizing first with
  | nil => simp [ofSegments]
  | cons segment segs ih =>
    rw [ofSegments_cons, append, List.mem_append, mem_diagnostics_ofSegment, ih]
    -- Either the diagnostic is of this segment or of one behind it, a place further on.
    constructor
    · rintro (⟨hfault, hnumber⟩ | ⟨i, later, hget, hfault, hnumber⟩)
      · exact ⟨0, segment, rfl, hfault, hnumber⟩
      · exact ⟨i + 1, later, hget, hfault, by omega⟩
    · rintro ⟨i, later, hget, hfault, hnumber⟩
      cases i with
      | zero =>
        obtain rfl : segment = later := by simpa using hget
        exact .inl ⟨hfault, hnumber⟩
      | succ i => exact .inr ⟨i, later, hget, hfault, by omega⟩

/-- The line numbers of the diagnostics grow. -/
theorem pairwise_lineNumber_ofSegments (table : TagTable) (first : Nat) (segs : List Text) :
    (ofSegments table first segs).diagnostics.Pairwise fun d e => d.lineNumber < e.lineNumber := by
  induction segs generalizing first with
  | nil => exact List.Pairwise.nil
  | cons segment segs ih =>
    rw [ofSegments_cons, append, List.pairwise_append]
    refine ⟨?_, ih (first + 1), ?_⟩
    · rw [ofSegment]
      split <;> simp
    · -- A diagnostic of this segment has the number `first`, later ones a greater number.
      intro d hd e he
      obtain ⟨-, hnumber⟩ := mem_diagnostics_ofSegment.mp hd
      obtain ⟨i, -, -, -, hlater⟩ := mem_diagnostics_ofSegments.mp he
      omega

theorem length_ofSegments (table : TagTable) (first : Nat) (segs : List Text) :
    (ofSegments table first segs).blocks.length + (ofSegments table first segs).diagnostics.length +
        segs.countP (fun segment => Block.IsBlank segment) = segs.length := by
  induction segs generalizing first with
  | nil => rfl
  | cons segment segs ih =>
    have hsegment := length_ofSegment table first segment
    have hrest := ih (first + 1)
    rw [ofSegments_cons, append, List.length_append, List.length_append, List.countP_cons,
      List.length_cons]
    simp only [decide_eq_true_eq]
    omega

/-! ## The accounts of a text -/

/-- The conversion accounts for the segments: none is lost, doubled, moved or
    given a wrong number. -/
structure Accounts (table : TagTable) (segs : List Text) (c : Conversion) : Prop where
  /-- Each segment is blank, recognized or diagnosed, and just one of them. -/
  one_fate : ∀ segment ∈ segs, Block.HasOneFate table segment
  /-- The blocks are those of the recognized segments, in order. -/
  blocks_eq : c.blocks = segs.filterMap (Block.ofLine? table)
  /-- The segment at place `n` has the line number `n + 1`, and a diagnostic exactly
      for its fault. -/
  mem_diagnostics : ∀ n fault, ⟨n + 1, fault⟩ ∈ c.diagnostics ↔
    ∃ segment, segs[n]? = some segment ∧ Block.recognize table segment = .error fault
  /-- The line numbers of the diagnostics grow, so each stands there once. -/
  increasing : c.diagnostics.Pairwise fun d e => d.lineNumber < e.lineNumber
  /-- The line numbers are those of segments. -/
  in_range : ∀ d ∈ c.diagnostics, 1 ≤ d.lineNumber ∧ d.lineNumber ≤ segs.length
  /-- Blocks, diagnostics and blank segments are as many as the segments. -/
  total : c.blocks.length + c.diagnostics.length +
    segs.countP (fun segment => Block.IsBlank segment) = segs.length

theorem accounts_ofSegments (table : TagTable) (segs : List Text) :
    Accounts table segs (ofSegments table 1 segs) where
  one_fate segment _ := Block.hasOneFate table segment
  blocks_eq := blocks_ofSegments table 1 segs
  mem_diagnostics n fault := by
    rw [mem_diagnostics_ofSegments]
    constructor
    · rintro ⟨i, segment, hget, hfault, hnumber⟩
      obtain rfl : n = i := by
        simp only at hnumber
        omega
      exact ⟨segment, hget, hfault⟩
    · rintro ⟨segment, hget, hfault⟩
      exact ⟨n, segment, hget, hfault, Nat.add_comm n 1⟩
  increasing := pairwise_lineNumber_ofSegments table 1 segs
  in_range d hd := by
    obtain ⟨i, segment, hget, -, hnumber⟩ := mem_diagnostics_ofSegments.mp hd
    obtain ⟨hi, -⟩ := List.getElem?_eq_some_iff.mp hget
    omega
  total := length_ofSegments table 1 segs

/-- The conversion of two texts with a line feed between them is that of the
    first and then, with later line numbers, that of the second. -/
theorem ofText_append_feed (table : TagTable) {a : Text} (hlast : a.getLast? ≠ some '\r')
    (b : Text) :
    ofText table (a ++ '\n' :: b) =
      (ofText table a).append ((ofText table b).shift (Text.segments a).length) := by
  rw [ofText, Text.segments_append_feed hlast, ofSegments_append, ofSegments_shift]
  rfl

/-- **A conversion loses nothing, and is one of its parts.** Every text falls
    into segments that its conversion accounts for. Of two texts with a line feed
    between them, of which the first does not end in a carriage return, the
    conversion has the blocks of both, and the diagnostics of both with the line
    numbers of the second moved behind the segments of the first. -/
theorem ofText_accounts_and_splits (table : TagTable) :
    (∀ text, Text.CutsInto text (Text.segments text) ∧
      Accounts table (Text.segments text) (ofText table text)) ∧
    ∀ a b : Text, a.getLast? ≠ some '\r' →
      (ofText table (a ++ '\n' :: b)).blocks =
        (ofText table a).blocks ++ (ofText table b).blocks ∧
      (ofText table (a ++ '\n' :: b)).diagnostics =
        (ofText table a).diagnostics ++ (ofText table b).diagnostics.map fun d =>
          ⟨d.lineNumber + (Text.segments a).length, d.fault⟩ := by
  refine ⟨fun text => ⟨Text.cutsInto_segments text, ?_⟩, fun a b hlast => ?_⟩
  · exact accounts_ofSegments table (Text.segments text)
  · rw [ofText_append_feed table hlast b]
    exact ⟨rfl, rfl⟩

/-- The splitting at a text without a final carriage return, with a segment that
    fails on each side. -/
theorem ofText_splits_between_faults :
    ("AAA(x)\noops".toList.getLast? ≠ some '\r') ∧
      (ofText .standard "AAA(x)\noops\nZZZ(y)".toList).diagnostics =
        (ofText .standard "AAA(x)\noops".toList).diagnostics ++
          (ofText .standard "ZZZ(y)".toList).diagnostics.map fun d => ⟨d.lineNumber + 2, d.fault⟩ := by
  have hlast : "AAA(x)\noops".toList.getLast? ≠ some '\r' := by decide
  exact ⟨hlast, ((ofText_accounts_and_splits .standard).2 _ "ZZZ(y)".toList hlast).2⟩

end Conversion
end Tagdown
