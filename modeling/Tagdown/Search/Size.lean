/-
  Tagdown.Search.Size

  How much memory an expression takes up when it is made ready for searching.
  It becomes an automaton that reads the bytes of a text, and another one that
  reads them backwards. Every state takes up a fixed number of bytes, and so does
  every step from a state that has several.

  Sets of characters become rows of ranges of bytes, one for each byte of the
  encoding. Forwards rows share what they end with, backwards what they start
  with.
-/

import Tagdown.Search.Expression

namespace Tagdown
namespace Search

/-- The bytes for a state. -/
def stateSize : Nat := 32

/-- The bytes for a step to one of several states. -/
def branchSize : Nat := 4

/-- The bytes for a step on a range of bytes. -/
def edgeSize : Nat := 8

/-! ## Rows of bytes -/

/-- A range of bytes for each place of an encoding. -/
abbrev ByteRow := List CodeRange

/-- All bytes that may follow the first one. -/
def anyTail : CodeRange :=
  ⟨0x80, 0xBF⟩

/-- The rows for the numbers from `first` to `last`, written as a byte that counts
    from `base` on and further bytes of six bits each. -/
def rowsOf : Nat → Nat → Nat → Nat → List ByteRow
  | 0, base, first, last => [[⟨base + first, base + last⟩]]
  | tails + 1, base, first, last =>
    let block := 64 ^ (tails + 1)
    let p := first / block
    let q := last / block
    let lead (digit : Nat) : CodeRange := ⟨base + digit, base + digit⟩
    if p = q then (rowsOf tails 0x80 (first % block) (last % block)).map (lead p :: ·)
    else
      let head :=
        if first % block = 0 then []
        else (rowsOf tails 0x80 (first % block) (block - 1)).map (lead p :: ·)
      let foot :=
        if last % block = block - 1 then []
        else (rowsOf tails 0x80 0 (last % block)).map (lead q :: ·)
      let p := if head.isEmpty then p else p + 1
      let q := if foot.isEmpty then q else q - 1
      let middle : List ByteRow :=
        if p ≤ q then [⟨base + p, base + q⟩ :: List.replicate (tails + 1) anyTail] else []
      head ++ middle ++ foot

/-- The lengths of encodings: the number of bytes after the first one, what the
    first one counts from, and the first and the last code point. -/
def encodings : List (Nat × Nat × CodeRange) :=
  [(0, 0x00, ⟨0x0000, 0x007F⟩), (1, 0xC0, ⟨0x0080, 0x07FF⟩), (2, 0xE0, ⟨0x0800, 0xFFFF⟩),
   (3, 0xF0, ⟨0x10000, 0x10FFFF⟩)]

/-- The rows for the characters of a range. -/
def rowsOfRange (r : CodeRange) : List ByteRow :=
  encodings.flatMap fun (tails, base, limits) =>
    let first := max r.first limits.first
    let last := min r.last limits.last
    if first ≤ last then rowsOf tails base first last else []

/-- The rows for the characters of a set. -/
def rowsOfSet (s : CharSet) : List ByteRow :=
  (s.diff (.ofTable "D800-DFFF")).ranges.flatMap rowsOfRange

/-- The rows by what they start with, and what is left of them then. -/
def byHead : List ByteRow → List (CodeRange × List ByteRow)
  | [] => []
  | [] :: rows => byHead rows
  | (r :: row) :: rows =>
    match byHead rows with
    | (head, tails) :: others =>
      if head = r then (head, row :: tails) :: others
      else (r, [row]) :: (head, tails) :: others
    | [] => [(r, [row])]

/-- What is left of rows after each of their starts that `depth` allows. -/
def remainders : Nat → List ByteRow → List (List ByteRow)
  | 0, _ => []
  | depth + 1, rows =>
    if (byHead rows).isEmpty then []
    else rows :: (byHead rows).flatMap fun (_, tails) => remainders depth tails

/-- The longest rows have so many bytes. -/
def rowLength : Nat := 4

/-! ## Sizes -/

/-- The direction in which a text is read. -/
inductive Direction where
  | forward
  | backward
  deriving DecidableEq, Repr

/-- All the numbers together. -/
def total (sizes : List Nat) : Nat :=
  sizes.foldl (· + ·) 0

/-- The bytes for a set of characters beyond ASCII. -/
def wideSetSize (d : Direction) (s : CharSet) : Nat :=
  let rows := rowsOfSet s
  let starts := remainders rowLength rows
  match d with
  | .forward =>
    stateSize + total (starts.eraseDups.map fun rest =>
      stateSize + edgeSize * (byHead rest).length)
  | .backward =>
    2 * stateSize + branchSize * rows.length +
      total (starts.map fun rest => stateSize * (byHead rest).length)

/-- The bytes for a set of characters. -/
def setSize (d : Direction) (s : CharSet) : Nat :=
  let bytes :=
    if s.isAscii then 2 * stateSize + edgeSize * s.ranges.length else wideSetSize d s
  match s.ranges with
  | [⟨first, last⟩] =>
    if first = last then stateSize * (Char.ofNat first).utf8Size else bytes
  | _ => bytes

namespace Expression

/-- The expression matches no empty text. -/
def needsChar : Expression → Bool
  | empty | look _ => false
  | chars set => !set.ranges.isEmpty
  | seq a b => needsChar a || needsChar b
  | alt a b => needsChar a && needsChar b
  | repeated least _ inner => least != 0 && needsChar inner
  | remembered inner => needsChar inner

/-- The expression is a choice. -/
def isAlt : Expression → Bool
  | alt _ _ => true
  | _ => false

/-- The bytes for an expression. -/
def size (d : Direction) : Expression → Nat
  | empty | look _ => stateSize
  | chars set => setSize d set
  | seq a b => size d a + size d b
  | alt a b =>
    let rest := if b.isAlt then size d b else size d b + 2 * stateSize + branchSize
    size d a + branchSize + rest
  | repeated least most inner =>
    let one := size d inner
    let split := stateSize + 2 * branchSize
    match least, most with
    | 0, none => if inner.needsChar then one + split else one + 2 * split + stateSize
    | _, none => least * one + split
    | _, some most =>
      if least = most then least * one
      else
        let start := if least = 0 ∧ most ≠ 1 then stateSize else least * one
        start + stateSize + (most - least) * (split + one)
  | remembered inner =>
    match d with
    | .forward => size d inner + 2 * stateSize
    | .backward => size d inner

/-- The bytes for what is around an expression: the search for its start, the
    match as a whole and its end. -/
def frameSize : Direction → Nat
  | .forward => 6 * stateSize + edgeSize + 2 * branchSize
  | .backward => 4 * stateSize + edgeSize + 2 * branchSize

/-- The expression takes up no more memory than is allowed. -/
def fits (limit : Nat) (e : Expression) : Bool :=
  [Direction.forward, .backward].all fun d => e.size d + frameSize d ≤ limit

end Expression
end Search
end Tagdown
