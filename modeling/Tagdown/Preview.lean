/-
  Tagdown.Preview

  The head of a markdown text, each line with the kind that its first
  characters show, and the number of lines left out.
-/

import Tagdown.Text.Basic

namespace Tagdown

/-- The kind of a line. -/
inductive LineKind where
  /-- The line opens with this many hashes. -/
  | heading (level : Nat)
  | listItem
  | quote
  | plain
  deriving DecidableEq, Repr

namespace LineKind

/-- The kind of a line, by its first characters. The line is not trimmed. -/
def classify (line : Text) : LineKind :=
  match line with
  | '#' :: _ => heading (line.takeWhile (· == '#')).length
  | '-' :: _ => listItem
  | '*' :: _ => listItem
  | '>' :: _ => quote
  | _ => plain

end LineKind

/-- A line with its kind. -/
structure PreviewLine where
  text : Text
  kind : LineKind
  deriving DecidableEq, Repr

/-- The first lines of a text, and how many lines follow them. -/
structure Preview where
  lines : List PreviewLine
  remaining : Nat
  deriving DecidableEq, Repr

namespace Preview

/-- The first `limit` lines of a text. -/
def ofText (text : Text) (limit : Nat) : Preview :=
  let all := Text.lines text
  { lines := (all.take limit).map fun line => ⟨line, .classify line⟩
    remaining := all.length - limit }

end Preview
end Tagdown
