/-
  Tagdown.Proofs.Document.TagLine

  Lines that open with a name and a parenthesis, and what is read in them.

  Whatever follows the parenthesis, such a line has no other name
  (`isTagLine_open_iff`), so recognition depends on the name only through its
  marker (`recognize_open_eq_some_iff`). A written tag line is read back: as a
  block if it has a body (`recognize_tagLine`), as malformed if it has none
  (`recognize_tagLine_nil`).
-/

import Tagdown.Proofs.Document.Grammar
import Tagdown.Proofs.Tag.Building
import Tagdown.Proofs.Text.Lines

namespace Tagdown

/-! ## Names -/

namespace Tag

variable {name : Text}

/-- A letter or digit is neither blank nor the byte order mark. -/
theorem not_isPadding_of_isNameChar {c : Char} (hc : isNameChar c = true) :
    Text.isPadding c = false := by
  have hranges : ((decide (65 ≤ c.val ∧ c.val ≤ 90) ||
      (decide (97 ≤ c.val) && decide (c.val ≤ 122))) ||
      (decide (48 ≤ c.val) && decide (c.val ≤ 57))) = true := hc
  have hcode : (65 ≤ c.toNat ∧ c.toNat ≤ 90) ∨ (97 ≤ c.toNat ∧ c.toNat ≤ 122) ∨
      (48 ≤ c.toNat ∧ c.toNat ≤ 57) := by
    simpa [UInt32.le_iff_toNat_le, or_assoc] using hranges
  have hmark : c ≠ Text.byteOrderMark := by
    rintro rfl
    exact absurd hc (by decide)
  -- None of the ranges of blanks has a letter or a digit.
  have hblank : Text.isBlank c = false := by
    rw [Text.isBlank, List.any_eq_false]
    simp only [Text.blankRanges, List.forall_mem_cons, CodeRange.holds, Bool.and_eq_true,
      decide_eq_true_eq]
    refine ⟨?_, ?_, ?_, ?_, ?_, ?_, ?_, ?_, ?_, ?_, by simp⟩ <;> omega
  rw [Text.isPadding, hblank, beq_eq_false_iff_ne.mpr hmark]
  rfl

/-- A name is unbroken and has no parenthesis. -/
theorem not_mem_of_isName {c : Char} (hname : isName name = true) (hc : isNameChar c = false) :
    c ∉ name := by
  intro hmem
  rw [(isName_iff.mp hname).2 c hmem] at hc
  cases hc

end Tag

namespace TagTable

/-- The names of a table are names. -/
theorem isName_of_mem {table : TagTable} {name marker : Text} (h : ⟨name, marker⟩ ∈ table.tags) :
    Tag.isName name = true :=
  (table.valid _ h).1

end TagTable

/-! ## Lines that open with a name -/

namespace Block

variable {table : TagTable} {name other marker body rest : Text}

theorem tagLine_eq (name body : Text) : tagLine name body = name ++ '(' :: (body ++ [')']) := by
  simp [tagLine]

/-- A line that opens with a name and a parenthesis has no other name, and its body
    reaches to the parenthesis at its end. -/
theorem isTagLine_open_iff (hname : Tag.isName name = true) :
    IsTagLine (name ++ '(' :: rest) other body ↔
      other = name ∧ rest = body ++ [')'] ∧ body ≠ [] ∧ '\n' ∉ body := by
  have hparen : '(' ∉ name := Tag.not_mem_of_isName hname (by decide)
  constructor
  · rintro ⟨heq, hother, hchars, hbody, hfeed⟩
    have hparen' : '(' ∉ other :=
      Tag.not_mem_of_isName (Tag.isName_iff.mpr ⟨hother, hchars⟩) (by decide)
    rw [tagLine_eq] at heq
    obtain ⟨rfl, rfl⟩ := (Text.append_cons_inj hparen hparen').mp heq
    exact ⟨rfl, rfl, hbody, hfeed⟩
  · rintro ⟨rfl, rfl, hbody, hfeed⟩
    obtain ⟨hne, hchars⟩ := Tag.isName_iff.mp hname
    exact ⟨(tagLine_eq _ _).symm, hne, hchars, hbody, hfeed⟩

/-- Only what stands behind the parenthesis is trimmed. -/
theorem trimLine_open (hname : Tag.isName name = true) (rest : Text) :
    Text.trimLine (name ++ '(' :: rest) =
      name ++ '(' :: Text.dropEndWhile Text.isPadding rest := by
  obtain ⟨hne, hchars⟩ := Tag.isName_iff.mp hname
  have hhead : ∀ c ∈ (name ++ '(' :: rest).head?, Text.isPadding c = false := by
    intro c hc
    rw [List.head?_append_of_ne_nil _ hne] at hc
    exact Tag.not_isPadding_of_isNameChar (hchars c (List.mem_of_mem_head? hc))
  rw [Text.trimLine, Text.trimBy, Text.dropWhile_eq_self_of_head hhead,
    Text.dropEndWhile_append_cons (by decide)]

/-- What is recognized behind a name of the table: the body up to the parenthesis
    at the end, whichever name it is. -/
theorem recognize_open_eq_some_iff (hmem : ⟨name, marker⟩ ∈ table.tags) {block : Block} :
    recognize table (name ++ '(' :: rest) = .ok (some block) ↔
      ∃ body, Text.dropEndWhile Text.isPadding rest = body ++ [')'] ∧ body ≠ [] ∧ '\n' ∉ body ∧
        block = ⟨name, Text.trimLine body, marker ++ ' ' :: Text.trimLine body⟩ := by
  have hname := TagTable.isName_of_mem hmem
  obtain ⟨name', content, markdown⟩ := block
  rw [recognize_eq_some_iff, trimLine_open hname]
  constructor
  · rintro ⟨body, marker', htag, hmem', hcore, rfl⟩
    obtain ⟨rfl, hrest, hbody, hfeed⟩ := (isTagLine_open_iff hname).mp htag
    -- The name stands for one marker and the body has one core.
    obtain rfl : marker' = marker := congrArg Tag.marker (TagTable.eq_of_name_eq hmem' hmem rfl)
    obtain rfl : Text.trimLine body = content := hcore.trimBy_eq
    exact ⟨body, hrest, hbody, hfeed, rfl⟩
  · rintro ⟨body, hrest, hbody, hfeed, hblock⟩
    obtain ⟨rfl, rfl, rfl⟩ := Block.mk.inj hblock
    exact ⟨body, marker, (isTagLine_open_iff hname).mpr ⟨rfl, hrest, hbody, hfeed⟩, hmem,
      Text.isCore_trimBy _ body, rfl⟩

/-! ## Tag lines that are written -/

/-- Nothing is trimmed from a tag line. -/
theorem trimLine_tagLine (hname : Tag.isName name = true) (body : Text) :
    Text.trimLine (tagLine name body) = tagLine name body := by
  have hend : Text.dropEndWhile Text.isPadding (body ++ [')']) = body ++ [')'] :=
    Text.dropEndWhile_append_cons (by decide) body []
  rw [tagLine_eq, trimLine_open hname, hend]

/-- A tag line with a body is read as the block of its name and its body. -/
theorem recognize_tagLine (hmem : ⟨name, marker⟩ ∈ table.tags) (hbody : body ≠ [])
    (hfeed : '\n' ∉ body) :
    recognize table (tagLine name body) =
      .ok (some ⟨name, Text.trimLine body, marker ++ ' ' :: Text.trimLine body⟩) := by
  rw [tagLine_eq, recognize_open_eq_some_iff hmem]
  exact ⟨body, Text.dropEndWhile_append_cons (by decide) body [], hbody, hfeed, rfl⟩

/-- A tag line without a body is malformed. -/
theorem recognize_tagLine_nil (table : TagTable) (hname : Tag.isName name = true) :
    recognize table (tagLine name []) = .error (.malformed (tagLine name [])) := by
  rw [recognize_eq_malformed_iff, trimLine_tagLine hname]
  refine ⟨rfl, by simp [tagLine], ?_⟩
  intro other body htag
  rw [tagLine_eq] at htag
  obtain ⟨-, hrest, hbody, -⟩ := (isTagLine_open_iff hname).mp htag
  -- Between the parentheses nothing is left for a body.
  exact hbody (List.append_cancel_right hrest).symm

end Block
end Tagdown
