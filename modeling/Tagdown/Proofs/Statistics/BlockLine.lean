/-
  Tagdown.Proofs.Statistics.BlockLine

  What is counted on the line of a block: a marker, a space and the content,
  trimmed.

  `Opens` says which block a marker opens. A heading or a list item needs the
  space behind its marker, and trimming takes that space when there is no content
  (`trimLine_block`); a quote needs its marker only. The content itself never
  counts, whatever it looks like.
-/

import Tagdown.Preview
import Tagdown.Proofs.Statistics.Counters
import Tagdown.Proofs.Text.Trim

namespace Tagdown

/-! ## Markers -/

namespace Tag

/-- The marker opens a block of this kind. -/
inductive Opens : LineKind → Text → Prop where
  | heading {level : Nat} : 1 ≤ level → level ≤ 6 → Opens (.heading level) (List.replicate level '#')
  | listItem {c : Char} : c = '-' ∨ c = '*' ∨ c = '+' → Opens .listItem [c]
  | quote : Opens .quote ['>']

variable {kind : LineKind} {marker : Text}

/-- All markers that open a block. -/
def blockMarkers : List Text :=
  (List.range' 1 6).map (List.replicate · '#') ++ [['-'], ['*'], ['+'], ['>']]

theorem exists_opens_iff : (∃ kind, Opens kind marker) ↔ marker ∈ blockMarkers := by
  rw [blockMarkers, List.mem_append, List.mem_map]
  constructor
  · rintro ⟨kind, h⟩
    cases h with
    | @heading level hlow hhigh => exact .inl ⟨level, List.mem_range'_1.mpr ⟨hlow, by omega⟩, rfl⟩
    | listItem hbullet => rcases hbullet with rfl | rfl | rfl <;> exact .inr (by decide)
    | quote => exact .inr (by decide)
  · rintro (⟨level, hlevel, rfl⟩ | h)
    · rw [List.mem_range'_1] at hlevel
      exact ⟨_, .heading hlevel.1 (by omega)⟩
    · simp only [List.mem_cons, List.not_mem_nil, or_false] at h
      rcases h with rfl | rfl | rfl | rfl
      · exact ⟨_, .listItem (.inl rfl)⟩
      · exact ⟨_, .listItem (.inr (.inl rfl))⟩
      · exact ⟨_, .listItem (.inr (.inr rfl))⟩
      · exact ⟨_, .quote⟩

theorem Opens.ne_nil (h : Opens kind marker) : marker ≠ [] := by
  cases h with
  | heading hlow _ =>
    rw [Ne, List.replicate_eq_nil_iff]
    omega
  | listItem _ => simp
  | quote => simp

/-- The characters that markers of blocks are written with. -/
def markerChars : List Char :=
  ['#', '-', '*', '+', '>']

theorem Opens.mem_markerChars (h : Opens kind marker) {c : Char} (hc : c ∈ marker) :
    c ∈ markerChars := by
  cases h with
  | heading _ _ =>
    rw [List.eq_of_mem_replicate hc]
    decide
  | listItem hbullet =>
    rw [List.mem_singleton] at hc
    rcases hbullet with hb | hb | hb <;> rw [hc, hb] <;> decide
  | quote =>
    rw [List.mem_singleton] at hc
    rw [hc]
    decide

/-- What holds of the five characters holds of every character of a marker. -/
theorem Opens.forall_of_all (h : Opens kind marker) {p : Char → Bool}
    (hall : markerChars.all p = true) : ∀ c ∈ marker, p c = true :=
  fun c hc => List.all_eq_true.mp hall c (h.mem_markerChars hc)

/-- A marker that opens a block has no padding. -/
theorem Opens.not_isPadding (h : Opens kind marker) : ∀ c ∈ marker, Text.isPadding c = false := by
  have hall := h.forall_of_all (p := fun c => !Text.isPadding c) (by decide)
  simpa only [Bool.not_eq_true'] using hall

theorem Opens.not_isDecimalDigit (h : Opens kind marker) :
    ∀ c ∈ marker, Text.isDecimalDigit c = false := by
  have hall := h.forall_of_all (p := fun c => !Text.isDecimalDigit c) (by decide)
  simpa only [Bool.not_eq_true'] using hall

theorem Opens.ne_backtick (h : Opens kind marker) : ∀ c ∈ marker, c ≠ Char.ofNat 0x60 := by
  have hall := h.forall_of_all (p := fun c => c != Char.ofNat 0x60) (by decide)
  simpa only [bne_iff_ne] using hall

theorem Opens.no_feed (h : Opens kind marker) : '\n' ∉ marker := by
  intro hfeed
  have hpadding := h.not_isPadding '\n' hfeed
  revert hpadding
  decide

/-- The first character of a marker and its length show what it opens. -/
theorem Opens.kind_eq (h : Opens kind marker) :
    kind = if marker.head? = some '#' then .heading marker.length
      else if marker.head? = some '>' then .quote else .listItem := by
  cases h with
  | @heading level hlow _ =>
    have hhead : (List.replicate level '#').head? = some '#' := by
      rw [List.head?_replicate, if_neg (Nat.ne_of_gt hlow)]
    rw [hhead, if_pos rfl, List.length_replicate]
  | listItem hc => rcases hc with rfl | rfl | rfl <;> rfl
  | quote => rfl

/-- The first character of a marker alone shows which kind of block it opens. -/
theorem Opens.head_iff_kind (h : Opens kind marker) {c : Char} (hc : c ∈ marker.head?) :
    (c = '#' ↔ ∃ level, kind = .heading level) ∧ (c = '>' ↔ kind = .quote) ∧
      ((c == '-' || c == '*' || c == '+') = true ↔ kind = .listItem) := by
  have hmem := h.mem_markerChars (List.mem_of_mem_head? hc)
  have hkind := h.kind_eq
  rw [Option.mem_def.mp hc] at hkind
  simp only [markerChars, List.mem_cons, List.not_mem_nil, or_false] at hmem
  rcases hmem with rfl | rfl | rfl | rfl | rfl <;> simp [hkind]

/-- A marker opens one kind of block. -/
theorem Opens.unique {kind' : LineKind} (h : Opens kind marker) (h' : Opens kind' marker) :
    kind = kind' :=
  h.kind_eq.trans h'.kind_eq.symm

theorem Opens.eq_heading_iff (h : Opens kind marker) {level : Nat} (hlow : 1 ≤ level)
    (hhigh : level ≤ 6) : kind = .heading level ↔ marker = List.replicate level '#' := by
  constructor
  · rintro rfl
    cases h
    rfl
  · rintro rfl
    exact h.unique (.heading hlow hhigh)

theorem Opens.eq_listItem_iff (h : Opens kind marker) :
    kind = .listItem ↔ marker = ['-'] ∨ marker = ['*'] ∨ marker = ['+'] := by
  constructor
  · rintro rfl
    cases h with
    | listItem hc => simpa using hc
  · intro hmarker
    refine h.unique ?_
    rcases hmarker with rfl | rfl | rfl
    · exact .listItem (.inl rfl)
    · exact .listItem (.inr (.inl rfl))
    · exact .listItem (.inr (.inr rfl))

theorem Opens.eq_quote_iff (h : Opens kind marker) : kind = .quote ↔ marker = ['>'] := by
  constructor
  · rintro rfl
    cases h
    rfl
  · rintro rfl
    exact h.unique .quote

end Tag

/-! ## Lines by their first character -/

namespace Line

theorem headingLevel?_of_head_ne {c : Char} (hc : c ≠ '#') (rest : Text) :
    headingLevel? (c :: rest) = none := by
  simp [headingLevel?, hc]

/-- One to six hashes and a space are a heading, whatever follows. -/
theorem headingLevel?_hashes_space {level : Nat} (hlow : 1 ≤ level) (hhigh : level ≤ 6)
    (rest : Text) : headingLevel? (List.replicate level '#' ++ ' ' :: rest) = some level := by
  have hblank : startsBlank (' ' :: rest) = true := by
    show Text.isBlank ' ' = true
    decide
  simp [headingLevel?, hlow, hhigh, hblank]

/-- Hashes with nothing behind them are no heading. -/
theorem headingLevel?_hashes (level : Nat) : headingLevel? (List.replicate level '#') = none := by
  simp [headingLevel?, startsBlank]

theorem isNumberedItem_of_head {c : Char} (hc : Text.isDecimalDigit c = false) (rest : Text) :
    isNumberedItem (c :: rest) = false := by
  simp [isNumberedItem, hc]

theorem isCodeFence_of_head {c : Char} (hc : c ≠ Char.ofNat 0x60) (rest : Text) :
    isCodeFence (c :: rest) = false := by
  show (Char.ofNat 0x60 == c && _) = false
  rw [beq_eq_false_iff_ne.mpr hc.symm, Bool.false_and]

end Line

/-! ## Block lines -/

namespace Line

variable {kind : LineKind} {marker content : Text}

/-- The line of a block as it is counted: without the space behind the marker if
    there is no content. -/
def ofBlock (marker content : Text) : Text :=
  if content = [] then marker else marker ++ ' ' :: content

/-- The trimmed line of a block whose content is trimmed. -/
theorem trimLine_block (h : Tag.Opens kind marker)
    (hlast : ∀ c ∈ content.getLast?, Text.isPadding c = false) :
    Text.trimLine (marker ++ ' ' :: content) = ofBlock marker content := by
  have hmarker : ∀ c ∈ marker.head?, Text.isPadding c = false :=
    fun c hc => h.not_isPadding c (List.mem_of_mem_head? hc)
  rw [ofBlock]
  split
  · -- Without content the space behind the marker is padding.
    rename_i hcontent
    have hspace : ∀ c ∈ [' '], Text.isPadding c = true := by
      rw [List.forall_mem_singleton]
      decide
    have hcore : Text.IsCore Text.isPadding (marker ++ ' ' :: content) marker := by
      refine ⟨⟨[], [' '], by simp [hcontent], by simp, hspace⟩, hmarker, ?_⟩
      exact fun c hc => h.not_isPadding c (List.mem_of_mem_getLast? hc)
    exact hcore.trimBy_eq
  · -- The line starts with the marker and ends with the content, so nothing is trimmed.
    rename_i hcontent
    apply Text.trimBy_eq_self
    · rw [List.head?_append_of_ne_nil _ h.ne_nil]
      exact hmarker
    · rw [List.getLast?_append_of_ne_nil _ (List.cons_ne_nil _ _),
        List.getLast?_cons_of_ne_nil hcontent]
      exact hlast

/-- The line of a block starts with the first character of its marker. -/
theorem exists_ofBlock_cons (h : Tag.Opens kind marker) (content : Text) :
    ∃ c ∈ marker.head?, ∃ rest, ofBlock marker content = c :: rest := by
  obtain ⟨c, more, rfl⟩ := List.exists_cons_of_ne_nil h.ne_nil
  refine ⟨c, rfl, ?_⟩
  rw [ofBlock]
  split
  · exact ⟨more, rfl⟩
  · exact ⟨more ++ ' ' :: content, rfl⟩

/-- A heading counts at its level if it has content. -/
theorem headings_block (h : Tag.Opens kind marker) (content : Text) {level : Nat}
    (hlow : 1 ≤ level) (hhigh : level ≤ 6) :
    (counters (ofBlock marker content)).headings.count level =
      if kind = .heading level ∧ content ≠ [] then 1 else 0 := by
  have hzero := HeadingCounts.count_zero level
  by_cases hheading : ∃ found, kind = .heading found
  · obtain ⟨found, rfl⟩ := hheading
    cases h with
    | heading hlow' hhigh' =>
      by_cases hcontent : content = []
      · simp only [counters, ofBlock, if_pos hcontent, headingLevel?_hashes, hzero]
        simp [hcontent]
      · simp only [counters, ofBlock, if_neg hcontent, headingLevel?_hashes_space hlow' hhigh',
          HeadingCounts.count_single hlow hhigh]
        simp [hcontent]
  · -- A block of another kind starts with another character than a hash.
    obtain ⟨c, hc, rest, hline⟩ := exists_ofBlock_cons h content
    have hne : c ≠ '#' := fun heq => hheading ((h.head_iff_kind hc).1.mp heq)
    have hkind : kind ≠ .heading level := fun heq => hheading ⟨level, heq⟩
    simp only [counters, hline, headingLevel?_of_head_ne hne, hzero]
    simp [hkind]

/-- A list item counts if it has content. -/
theorem listItems_block (h : Tag.Opens kind marker) (content : Text) :
    (counters (ofBlock marker content)).listItems =
      if kind = .listItem ∧ content ≠ [] then 1 else 0 := by
  show (isListItem (ofBlock marker content)).toNat = _
  obtain ⟨c, hc, rest, hline⟩ := exists_ofBlock_cons h content
  have hbullet := (h.head_iff_kind hc).2.2
  have hdigit := h.not_isDecimalDigit c (List.mem_of_mem_head? hc)
  -- No marker starts with a digit, so only a bullet can make the line an item.
  rw [isListItem, hline, isNumberedItem_of_head hdigit, Bool.or_false, isBulletItem]
  by_cases hkind : kind = .listItem
  · rw [hbullet.mpr hkind, Bool.true_and]
    subst hkind
    cases h with
    | listItem _ =>
      by_cases hcontent : content = []
      · rw [ofBlock, if_pos hcontent, List.cons.injEq] at hline
        rw [← hline.2]
        simp [startsBlank, hcontent]
      · rw [ofBlock, if_neg hcontent, List.singleton_append, List.cons.injEq] at hline
        have hblank : startsBlank (' ' :: content) = true := by
          show Text.isBlank ' ' = true
          decide
        rw [← hline.2, hblank]
        simp [hcontent]
  · rw [Bool.eq_false_iff.mpr (mt hbullet.mp hkind), Bool.false_and]
    simp [hkind]

/-- A quote counts, with content or without. -/
theorem quotes_block (h : Tag.Opens kind marker) (content : Text) :
    (counters (ofBlock marker content)).quotes = if kind = .quote then 1 else 0 := by
  show (isQuote (ofBlock marker content)).toNat = _
  obtain ⟨c, hc, rest, hline⟩ := exists_ofBlock_cons h content
  rw [hline, isQuote]
  by_cases hkind : kind = .quote
  · rw [(h.head_iff_kind hc).2.1.mpr hkind, if_pos hkind]
    rfl
  · rw [beq_eq_false_iff_ne.mpr (mt (h.head_iff_kind hc).2.1.mp hkind), if_neg hkind]
    rfl

/-- No block is a code fence. -/
theorem codeFences_block (h : Tag.Opens kind marker) (content : Text) :
    (counters (ofBlock marker content)).codeFences = 0 := by
  show (isCodeFence (ofBlock marker content)).toNat = 0
  obtain ⟨c, hc, rest, hline⟩ := exists_ofBlock_cons h content
  rw [hline, isCodeFence_of_head (h.ne_backtick c (List.mem_of_mem_head? hc))]
  rfl

end Line
end Tagdown
