/-
  Tagdown.Search.Meaning

  The meaning of patterns: which expression a written pattern stands for under
  the flags that are set, and what has no meaning under them.
-/

import Tagdown.Search.Expression
import Tagdown.Search.Query

namespace Tagdown
namespace Search

/-- The flags that are set at a place of a pattern. -/
structure Flags where
  /-- Case does not count. -/
  caseless : Bool
  /-- The edges of lines count as edges of the text. -/
  multiLine : Bool
  /-- A dot also stands for a line feed. -/
  dotAll : Bool
  /-- Characters beyond ASCII are told apart. -/
  unicode : Bool
  /-- Lines may end with a carriage return. -/
  carriageReturn : Bool
  deriving DecidableEq, Repr

namespace Flags

/-- The flags at the start of a pattern. -/
def initial : Flags :=
  ⟨false, false, false, true, false⟩

/-- The flags after one change. -/
def change (f : Flags) (c : FlagChange) : Flags :=
  match c.flag with
  | .caseless => { f with caseless := c.on }
  | .multiLine => { f with multiLine := c.on }
  | .dotAll => { f with dotAll := c.on }
  | .unicode => { f with unicode := c.on }
  | .carriageReturn => { f with carriageReturn := c.on }
  | .lazy | .verbose => f

/-- The flags after several changes. -/
def changeAll (f : Flags) (changes : List FlagChange) : Flags :=
  changes.foldl change f

/-! ## Sets -/

/-- The greatest number of a character or, without Unicode, of a byte. -/
def lastCode (f : Flags) : Nat :=
  if f.unicode then CharSet.lastCode else 0xFF

/-- The set with all characters that count as equal to one of its own. -/
def fold (f : Flags) (s : CharSet) : CharSet :=
  if f.caseless then
    if f.unicode then s.caseless else s.caselessAscii
  else s

/-- A set or its complement, as long as its members are texts on their own. -/
def negate (f : Flags) (span : Span) (negated : Bool) (s : CharSet) : Except Fault CharSet :=
  let s := if negated then s.complementTo f.lastCode else s
  if f.unicode || s.isAscii then .ok s else flaw .needsText span

/-- A character, unless it is a byte that is no text on its own. -/
def charOf (f : Flags) (l : Literal) : Except Fault Char :=
  if !f.unicode && l.isByte && 0x7F < l.char.toNat then flaw .needsText l.span else .ok l.char

/-- A character of a set: without Unicode only one of ASCII. -/
def memberOf (f : Flags) (l : Literal) : Except Fault Char := do
  let c ← f.charOf l
  if f.unicode || c.toNat < 0x80 then return c else flaw .needsUnicode l.span

/-- The characters of a class with a letter. -/
def letterSet (f : Flags) (span : Span) (name : LetterClass) (negated : Bool) :
    Except Fault CharSet :=
  f.negate span negated (if f.unicode then name.set else name.asciiSet)

/-- The characters of a class with a property. -/
def propertySet (f : Flags) (span : Span) (query : Query) (negated : Bool) :
    Except Fault CharSet :=
  if f.unicode then
    match query.set with
    | .ok set => f.negate span negated (f.fold set)
    | .error found => flaw found span
  else flaw .needsUnicode span

/-- The characters of words. -/
def words (f : Flags) : CharSet :=
  if f.unicode then LetterClass.word.set else LetterClass.word.asciiSet

end Flags

namespace SetTerm

mutual

/-- The characters that a set in brackets, or a part of it, stands for. -/
def meaning (f : Flags) : SetTerm → Except Fault CharSet
  | empty _ => .ok .empty
  | literal l => do return .single (← f.memberOf l)
  | range _ first last => do
    let first ← f.memberOf first
    let last ← f.memberOf last
    return .ofRanges [⟨first.toNat, last.toNat⟩]
  | ascii span name negated => f.negate span negated (f.fold name.set)
  | letter span name negated => f.letterSet span name negated
  | property span query negated => f.propertySet span query negated
  | bracket span negated inner => do f.negate span negated (f.fold (← meaning f inner))
  | union _ items => meaningOfAll f items
  | op _ kind left right => do
    let left := f.fold (← meaning f left)
    let right := f.fold (← meaning f right)
    match kind with
    | .inter => return left.inter right
    | .diff => return left.diff right
    | .symmDiff => return left.symmDiff right

/-- The characters that several parts of a set stand for. -/
def meaningOfAll (f : Flags) : List SetTerm → Except Fault CharSet
  | [] => .ok .empty
  | item :: items => do
    let s ← meaning f item
    return s.union (← meaningOfAll f items)

end

end SetTerm

namespace Term

/-- The condition that a place of a pattern stands for. -/
def lookOf (f : Flags) : Edge → Look
  | .lineStart =>
    if f.multiLine then if f.carriageReturn then .returnStart else .lineStart else .textStart
  | .lineEnd =>
    if f.multiLine then if f.carriageReturn then .returnEnd else .lineEnd else .textEnd
  | .textStart => .textStart
  | .textEnd => .textEnd
  | .wordEdge => .wordEdge f.words
  | .noWordEdge => .noWordEdge f.words
  | .wordStart => .wordStart f.words
  | .wordEnd => .wordEnd f.words
  | .noWordBefore => .noWordBefore f.words
  | .noWordAfter => .noWordAfter f.words

/-- The characters that a dot stands for. -/
def dotSet (f : Flags) : CharSet :=
  if f.dotAll then CharSet.empty.complement
  else if f.carriageReturn then (CharSet.ofTable "000A 000D").complement
  else (CharSet.single '\n').complement

mutual

/-- The expression that a pattern stands for, and the flags behind it. -/
def meaning (f : Flags) : Term → Except Fault (Expression × Flags)
  | empty _ => .ok (.empty, f)
  | flags _ changes => .ok (.empty, f.changeAll changes)
  | literal l => do return (.chars (f.fold (.single (← f.charOf l))), f)
  | dot span => if f.unicode then .ok (.chars (dotSet f), f) else flaw .needsText span
  | edge _ e => .ok (.look (lookOf f e), f)
  | letter span name negated => do return (.chars (← f.letterSet span name negated), f)
  | property span query negated => do return (.chars (← f.propertySet span query negated), f)
  | bracket set => do return (.chars (← set.meaning f), f)
  | repeated _ least most inner => do
    let (e, f) ← meaning f inner
    return (.times least most e, f)
  | group _ remembered changes inner => do
    let (e, _) ← meaning (f.changeAll changes) inner
    return (if remembered then .remembered e else e, f)
  | alternation _ branches => do
    let (es, f) ← meanings f branches
    return (.oneOf es, f)
  | concat _ items => do
    let (es, f) ← meanings f items
    return (es.foldr .andThen .empty, f)

/-- The expressions for several patterns one after another, and the flags behind
    the last one. -/
def meanings (f : Flags) : List Term → Except Fault (List Expression × Flags)
  | [] => .ok ([], f)
  | item :: items => do
    let (e, f) ← meaning f item
    let (es, f) ← meanings f items
    return (e :: es, f)

end

end Term
end Search
end Tagdown
