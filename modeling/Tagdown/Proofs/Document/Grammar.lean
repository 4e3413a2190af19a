/-
  Tagdown.Proofs.Document.Grammar

  The grammar of a line, as a relation between the trimmed line and its
  reading: nothing, a block or a fault.

  `Reads` has one constructor for each reading. Each line has one
  (`reads_recognize`) and only one (`Reads.unique`), so what `recognize` gives
  can be read off the grammar, and the other way round.
-/

import Tagdown.Document.Block
import Tagdown.Proofs.Tag.Lookup
import Tagdown.Proofs.Text.Trim

namespace Tagdown
namespace Block

variable {table : TagTable} {line w name body content markdown : Text}

/-! ## Tag lines -/

/-- The line reads `NAME(body)`: one or more ASCII letters or digits, then one
    or more characters in parentheses, none of them a line feed. -/
structure IsTagLine (line name body : Text) : Prop where
  eq_tagLine : line = tagLine name body
  name_ne_nil : name ≠ []
  isNameChar : ∀ c ∈ name, Tag.isNameChar c = true
  body_ne_nil : body ≠ []
  no_feed : '\n' ∉ body

theorem splitTag?_eq_some_iff_isTagLine :
    splitTag? line = some (name, body) ↔ IsTagLine line name body := by
  rw [splitTag?_eq_some_iff]
  constructor
  · rintro ⟨heq, hname, hchars, hbody, hfeed⟩
    exact ⟨heq, hname, hchars, hbody, hfeed⟩
  · rintro ⟨heq, hname, hchars, hbody, hfeed⟩
    exact ⟨heq, hname, hchars, hbody, hfeed⟩

/-- A line has at most one name and one body: the name ends at the first
    parenthesis and the body at the last. -/
theorem IsTagLine.unique {name' body' : Text} (h : IsTagLine line name body)
    (h' : IsTagLine line name' body') : name = name' ∧ body = body' := by
  rw [← splitTag?_eq_some_iff_isTagLine] at h h'
  rw [h, Option.some.injEq, Prod.mk.injEq] at h'
  exact h'

theorem IsTagLine.ne_nil (h : IsTagLine line name body) : line ≠ [] := by
  rw [h.eq_tagLine, tagLine]
  simp

/-! ## The readings of a line -/

/-- What the trimmed line `w` stands for under the tags of a table. -/
inductive Reads (table : TagTable) (w : Text) : Except LineFault (Option Block) → Prop where
  | blank : w = [] → Reads table w (.ok none)
  | block {name body content marker : Text} :
      IsTagLine w name body → ⟨name, marker⟩ ∈ table.tags →
        Text.IsCore Text.isPadding body content →
          Reads table w (.ok (some ⟨name, content, marker ++ ' ' :: content⟩))
  | unknownName {name body : Text} :
      IsTagLine w name body → name ∉ table.names →
        Reads table w (.error (.unknownName name table.names))
  | malformed :
      w ≠ [] → (∀ name body, ¬IsTagLine w name body) → Reads table w (.error (.malformed w))

/-- What `recognize` gives is a reading of the trimmed line. -/
theorem reads_recognize (table : TagTable) (line : Text) :
    Reads table (Text.trimLine line) (recognize table line) := by
  unfold recognize
  -- Each test of `recognize` decides between two readings.
  by_cases hblank : Text.trimLine line = []
  · rw [hblank]
    exact .blank rfl
  rw [if_neg (by simpa using hblank)]
  cases hsplit : splitTag? (Text.trimLine line) with
  | none =>
    refine .malformed hblank fun name body h => ?_
    rw [splitTag?_eq_some_iff_isTagLine.mpr h] at hsplit
    cases hsplit
  | some parts =>
    obtain ⟨name, body⟩ := parts
    have htag := splitTag?_eq_some_iff_isTagLine.mp hsplit
    cases hmarker : table.marker? name with
    | none =>
      simp only [hmarker]
      exact .unknownName htag (TagTable.marker?_eq_none_iff.mp hmarker)
    | some marker =>
      simp only [hmarker]
      exact .block htag (TagTable.marker?_eq_some_iff.mp hmarker) (Text.isCore_trimBy _ body)

/-- A reading of the trimmed line is what `recognize` gives. -/
theorem Reads.recognize_eq {r : Except LineFault (Option Block)}
    (h : Reads table (Text.trimLine line) r) : recognize table line = r := by
  unfold recognize
  cases h with
  | blank hblank =>
    rw [hblank]
    rfl
  | @block name body content marker htag hmem hcore =>
    have hsplit := splitTag?_eq_some_iff_isTagLine.mpr htag
    have hmarker := TagTable.marker?_eq_some_iff.mpr hmem
    have hcontent : Text.trimLine body = content := hcore.trimBy_eq
    rw [if_neg (by simpa using htag.ne_nil)]
    simp only [hsplit, hmarker, hcontent]
  | unknownName htag hname =>
    have hsplit := splitTag?_eq_some_iff_isTagLine.mpr htag
    have hmarker := TagTable.marker?_eq_none_iff.mpr hname
    rw [if_neg (by simpa using htag.ne_nil)]
    simp only [hsplit, hmarker]
  | malformed hne hnone =>
    -- A split of the line would make it a tag line.
    have hsplit : splitTag? (Text.trimLine line) = none := by
      rw [Option.eq_none_iff_forall_ne_some]
      rintro ⟨name, body⟩ hparts
      exact hnone name body (splitTag?_eq_some_iff_isTagLine.mp hparts)
    rw [if_neg (by simpa using hne)]
    simp only [hsplit]

/-- A line stands for what the grammar reads in it and for nothing else. -/
theorem recognize_eq_iff_reads {r : Except LineFault (Option Block)} :
    recognize table line = r ↔ Reads table (Text.trimLine line) r :=
  ⟨fun h => h ▸ reads_recognize table line, Reads.recognize_eq⟩

/-- Padding around a line changes nothing of what it stands for. -/
theorem recognize_pad {lead trail : Text} (hlead : ∀ c ∈ lead, Text.isPadding c = true)
    (htrail : ∀ c ∈ trail, Text.isPadding c = true) (table : TagTable) (line : Text) :
    recognize table (lead ++ line ++ trail) = recognize table line := by
  have htrim : Text.trimLine (lead ++ line ++ trail) = Text.trimLine line :=
    Text.trimBy_append_of_all hlead htrail line
  rw [recognize_eq_iff_reads, htrim]
  exact reads_recognize table line

theorem recognize_append_of_padding {lead : Text} (hlead : ∀ c ∈ lead, Text.isPadding c = true)
    (table : TagTable) (line : Text) : recognize table (lead ++ line) = recognize table line := by
  have hnone : ∀ c ∈ ([] : Text), Text.isPadding c = true := by simp
  have h := recognize_pad hlead hnone table line
  rwa [List.append_nil] at h

/-! ## The four results -/

theorem recognize_eq_none_iff :
    recognize table line = .ok none ↔ Text.trimLine line = [] := by
  rw [recognize_eq_iff_reads]
  constructor
  · rintro ⟨⟩
    assumption
  · exact .blank

theorem recognize_eq_some_iff :
    recognize table line = .ok (some ⟨name, content, markdown⟩) ↔
      ∃ body marker, IsTagLine (Text.trimLine line) name body ∧ ⟨name, marker⟩ ∈ table.tags ∧
        Text.IsCore Text.isPadding body content ∧ markdown = marker ++ ' ' :: content := by
  rw [recognize_eq_iff_reads]
  constructor
  · rintro ⟨⟩
    exact ⟨_, _, ‹_›, ‹_›, ‹_›, rfl⟩
  · rintro ⟨body, marker, htag, hmem, hcore, rfl⟩
    exact .block htag hmem hcore

theorem recognize_eq_unknownName_iff {known : List Text} :
    recognize table line = .error (.unknownName name known) ↔
      known = table.names ∧ name ∉ table.names ∧ ∃ body, IsTagLine (Text.trimLine line) name body := by
  rw [recognize_eq_iff_reads]
  constructor
  · rintro ⟨⟩
    exact ⟨rfl, ‹_›, _, ‹_›⟩
  · rintro ⟨rfl, hname, body, htag⟩
    exact .unknownName htag hname

theorem recognize_eq_malformed_iff {text : Text} :
    recognize table line = .error (.malformed text) ↔
      text = Text.trimLine line ∧ Text.trimLine line ≠ [] ∧
        ∀ name body, ¬IsTagLine (Text.trimLine line) name body := by
  rw [recognize_eq_iff_reads]
  constructor
  · intro h
    cases h with
    | malformed hne hnone => exact ⟨rfl, hne, hnone⟩
  · rintro ⟨rfl, hne, hnone⟩
    exact .malformed hne hnone

/-- **Recognition follows the grammar.** Let `w` be the line without the padding
    at both ends. The line is blank exactly when nothing is left of it, a block
    exactly when it reads `NAME(body)` with a name of the table, and then the
    content is the trimmed body behind the marker of that name. A line of that
    shape with another name has an unknown name, every other line is malformed. -/
theorem recognize_follows_grammar (table : TagTable) (line : Text) :
    ∃ w, Text.IsCore Text.isPadding line w ∧
      (recognize table line = .ok none ↔ w = []) ∧
      (∀ name content markdown,
        recognize table line = .ok (some ⟨name, content, markdown⟩) ↔
          ∃ body marker, IsTagLine w name body ∧ ⟨name, marker⟩ ∈ table.tags ∧
            Text.IsCore Text.isPadding body content ∧ markdown = marker ++ ' ' :: content) ∧
      (∀ name body name' body',
        IsTagLine w name body → IsTagLine w name' body' → name = name' ∧ body = body') ∧
      (∀ name known,
        recognize table line = .error (.unknownName name known) ↔
          known = table.names ∧ name ∉ table.names ∧ ∃ body, IsTagLine w name body) ∧
      (∀ text,
        recognize table line = .error (.malformed text) ↔
          text = w ∧ w ≠ [] ∧ ∀ name body, ¬IsTagLine w name body) := by
  refine ⟨Text.trimLine line, Text.isCore_trimBy _ line, ?_, ?_, ?_, ?_, ?_⟩
  · exact recognize_eq_none_iff
  · intro name content markdown
    exact recognize_eq_some_iff
  · intro name body name' body' h h'
    exact h.unique h'
  · intro name known
    exact recognize_eq_unknownName_iff
  · intro text
    exact recognize_eq_malformed_iff

example :
    recognize .standard " AAA(Call f(x)) ".toList =
      .ok (some ⟨"AAA".toList, "Call f(x)".toList, "# Call f(x)".toList⟩) := by
  decide

end Block
end Tagdown
