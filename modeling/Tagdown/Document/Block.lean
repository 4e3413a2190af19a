/-
  Tagdown.Document.Block

  Recognition of one line. A line that is not blank reads `NAME(content)`: the
  name of a tag, then the content in parentheses that reach to the end of the
  line, so parentheses inside the content are kept. It becomes the markdown
  block `marker content`.

  Main statement: `splitTag?_eq_some_iff`, the exact shape of a tag line.
-/

import Tagdown.Tag.Table

namespace Tagdown

/-- A recognized line. -/
structure Block where
  name : Text
  content : Text
  markdown : Text
  deriving DecidableEq, Repr

/-- Why a line could not be recognized. -/
inductive LineFault where
  /-- The trimmed line does not read `NAME(content)`. -/
  | malformed (line : Text)
  /-- The line has the shape, but its name is none of the known ones. -/
  | unknownName (name : Text) (known : List Text)
  deriving DecidableEq, Repr

namespace LineFault

/-- The text at fault: the whole trimmed line, or just the name. -/
def offending : LineFault → Text
  | malformed line => line
  | unknownName name _ => name

/-- The names that would have been understood; none for a malformed line. -/
def known : LineFault → List Text
  | malformed _ => []
  | unknownName _ known => known

/-- The fault in words, without what would have been right. -/
def headline : LineFault → Text
  | malformed line => "Invalid format: \"".toList ++ line ++ "\"".toList
  | unknownName name _ => "Unknown prefix: \"".toList ++ name ++ "\"".toList

/-- The fault in words. -/
def message (fault : LineFault) : Text :=
  match fault with
  | malformed _ => fault.headline ++ " (expected PREFIX(content))".toList
  | unknownName _ known =>
    fault.headline ++ " (supported: ".toList ++
      List.intercalate ", ".toList known ++ ")".toList

end LineFault

namespace Block

/-- A tag line: the name, then the body in parentheses. -/
def tagLine (name body : Text) : Text :=
  name ++ '(' :: body ++ [')']

/-- The name and the body of a tag line. The body is not empty and has no line
    feed. -/
def splitTag? (line : Text) : Option (Text × Text) :=
  let name := line.takeWhile Tag.isNameChar
  match line.dropWhile Tag.isNameChar with
  | '(' :: rest =>
    let body := rest.dropLast
    if name ≠ [] ∧ rest.getLast? = some ')' ∧ body ≠ [] ∧ '\n' ∉ body then
      some (name, body)
    else none
  | _ => none

/-- A text reads as name and body exactly when it is their tag line, the name
    has name characters only, and the body is one line of at least one
    character. -/
theorem splitTag?_eq_some_iff {line name body : Text} :
    splitTag? line = some (name, body) ↔
      line = tagLine name body ∧ name ≠ [] ∧ (∀ c ∈ name, Tag.isNameChar c = true) ∧
        body ≠ [] ∧ '\n' ∉ body := by
  have paren : Tag.isNameChar '(' = false := by decide
  constructor
  · intro h
    unfold splitTag? at h
    split at h
    next rest hrest =>
      simp only [Option.ite_none_right_eq_some, Option.some.injEq, Prod.mk.injEq] at h
      obtain ⟨⟨hname, hlast, hbody, hfeed⟩, rfl, rfl⟩ := h
      have hclose : rest.dropLast ++ [')'] = rest := by
        obtain ⟨before, rfl⟩ := List.getLast?_eq_some_iff.1 hlast
        rw [List.dropLast_concat]
      refine ⟨?_, hname, fun c hc => ?_, hbody, hfeed⟩
      · rw [tagLine, List.append_assoc, List.cons_append, hclose, ← hrest,
          List.takeWhile_append_dropWhile]
      · exact List.all_eq_true.1 (List.all_takeWhile) c hc
    next => cases h
  · rintro ⟨rfl, hname, hchars, hbody, hfeed⟩
    have htake : (tagLine name body).takeWhile Tag.isNameChar = name := by
      simp [tagLine, List.takeWhile_append_of_pos hchars, paren]
    have hdrop : (tagLine name body).dropWhile Tag.isNameChar = '(' :: (body ++ [')']) := by
      simp [tagLine, List.dropWhile_append_of_pos hchars, paren]
    unfold splitTag?
    rw [htake, hdrop]
    simp [hname, hbody, hfeed]

/-- What a line holds: nothing if it is blank, a block, or a fault. -/
def recognize (table : TagTable) (line : Text) : Except LineFault (Option Block) :=
  let trimmed := Text.trimLine line
  if trimmed.isEmpty then .ok none
  else
    match splitTag? trimmed with
    | none => .error (.malformed trimmed)
    | some (name, body) =>
      match table.marker? name with
      | none => .error (.unknownName name table.names)
      | some marker =>
        let content := Text.trimLine body
        .ok (some ⟨name, content, marker ++ ' ' :: content⟩)

end Block
end Tagdown
