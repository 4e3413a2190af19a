/-
  Tagdown.Toml.Text

  The strings of TOML, and its blanks, comments and line breaks.

  A reader returns what it read and the rest of the text, or nothing if the
  text is not well formed.
-/

import Tagdown.Text.Basic

namespace Tagdown
namespace Toml

/-- A blank within a line. -/
def isSpace (c : Char) : Bool :=
  c == ' ' || c == '\t'

/-- The text from its first character that is no blank. -/
def skipSpace (t : Text) : Text :=
  t.dropWhile isSpace

/-- The character may stand in comments and strings: a tab, or no control
    character. -/
def isPlain (c : Char) : Bool :=
  c == '\t' || (0x20 ≤ c.toNat && c.toNat != 0x7F)

/-- The text after a line break. -/
def afterBreak? : Text → Option Text
  | '\n' :: rest => some rest
  | '\r' :: '\n' :: rest => some rest
  | _ => none

/-- The text after a comment, if one comes next. -/
def skipComment : Text → Text
  | '#' :: rest => rest.dropWhile isPlain
  | t => t

/-- The text after the end of a line: blanks and a comment may come before it. -/
def afterLine? (t : Text) : Option Text :=
  match skipComment (skipSpace t) with
  | [] => some []
  | t => afterBreak? t

/-- The text after blanks, comments and line breaks, at most `fuel` lines. -/
def skipLines : Nat → Text → Text
  | 0, t => t
  | fuel + 1, t =>
    let t := skipComment (skipSpace t)
    match afterBreak? t with
    | some rest => skipLines fuel rest
    | none => t

/-! ## Strings -/

/-- The value of a hexadecimal digit. -/
def hexValue? (c : Char) : Option Nat :=
  if '0' ≤ c ∧ c ≤ '9' then some (c.toNat - '0'.toNat)
  else if 'a' ≤ c ∧ c ≤ 'f' then some (c.toNat - 'a'.toNat + 10)
  else if 'A' ≤ c ∧ c ≤ 'F' then some (c.toNat - 'A'.toNat + 10)
  else none

/-- The number that the next `count` hexadecimal digits stand for, the digits
    before them being worth `start`. -/
def readHex? (start : Nat) : Nat → Text → Option (Nat × Text)
  | 0, t => some (start, t)
  | _ + 1, [] => none
  | count + 1, c :: rest => do
    let digit ← hexValue? c
    readHex? (start * 16 + digit) count rest

/-- The character of a code point written with `count` digits. -/
def readCode? (count : Nat) (t : Text) : Option (Char × Text) := do
  let (code, rest) ← readHex? 0 count t
  if h : code.isValidChar then some (Char.ofNatAux code h, rest) else none

/-- The character that is escaped by a backslash. -/
def readEscape? : Text → Option (Char × Text)
  | 'b' :: rest => some ('\x08', rest)
  | 't' :: rest => some ('\t', rest)
  | 'n' :: rest => some ('\n', rest)
  | 'f' :: rest => some ('\x0c', rest)
  | 'r' :: rest => some ('\r', rest)
  | '"' :: rest => some ('"', rest)
  | '\\' :: rest => some ('\\', rest)
  | 'u' :: rest => readCode? 4 rest
  | 'U' :: rest => readCode? 8 rest
  | _ => none

/-- A part of a string, or its end. -/
inductive Piece where
  | more (part : Text) (rest : Text)
  | last (part : Text) (rest : Text)

/-- The next part of a basic string of one line. -/
def basicPiece? : Text → Option Piece
  | '"' :: rest => some (.last [] rest)
  | '\\' :: rest => (readEscape? rest).map fun (c, rest) => .more [c] rest
  | c :: rest => if isPlain c then some (.more [c] rest) else none
  | [] => none

/-- The next part of a literal string of one line. -/
def literalPiece? : Text → Option Piece
  | '\'' :: rest => some (.last [] rest)
  | c :: rest => if isPlain c then some (.more [c] rest) else none
  | [] => none

/-- The next part of a string of several lines that opens with a quote: three
    quotes end the string, and up to two more in front of them belong to it. -/
def quotesPiece (quote : Char) (t : Text) : Piece :=
  let count := (t.takeWhile (· == quote)).length
  if count < 3 then .more (List.replicate count quote) (t.drop count)
  else
    let count := min count 5
    .last (List.replicate (count - 3) quote) (t.drop count)

/-- The next character of a string of several lines. A line break is one line
    feed. -/
def linesPiece? (t : Text) : Option Piece :=
  match afterBreak? t, t with
  | some rest, _ => some (.more ['\n'] rest)
  | none, c :: rest => if isPlain c then some (.more [c] rest) else none
  | none, [] => none

/-- The text from its first character that is neither a blank nor part of a line
    break. -/
def skipGap : Text → Text
  | [] => []
  | '\r' :: '\n' :: rest => skipGap rest
  | c :: rest => if isSpace c || c == '\n' then skipGap rest else c :: rest

/-- The next part of a basic string of several lines. A backslash at the end of
    a line joins it with the next text. -/
def longBasicPiece? (t : Text) : Option Piece :=
  match t with
  | '"' :: _ => some (quotesPiece '"' t)
  | '\\' :: rest =>
    match afterBreak? (skipSpace rest) with
    | some rest => some (.more [] (skipGap rest))
    | none => (readEscape? rest).map fun (c, rest) => .more [c] rest
  | _ => linesPiece? t

/-- The next part of a literal string of several lines. -/
def longLiteralPiece? (t : Text) : Option Piece :=
  match t with
  | '\'' :: _ => some (quotesPiece '\'' t)
  | _ => linesPiece? t

/-- The parts of a string up to its end, at most `fuel` of them. -/
def readPieces? (piece? : Text → Option Piece) : Nat → Text → Option (Text × Text)
  | 0, _ => none
  | fuel + 1, t => do
    match ← piece? t with
    | .last part rest => return (part, rest)
    | .more part rest =>
      let (parts, rest) ← readPieces? piece? fuel rest
      return (part ++ parts, rest)

/-- A string of one line whose opening quote has been read. -/
def readShort? (piece? : Text → Option Piece) (t : Text) : Option (Text × Text) :=
  readPieces? piece? (t.length + 1) t

/-- A string of several lines whose opening quotes have been read. A line break
    right behind them does not count. -/
def readLong? (piece? : Text → Option Piece) (t : Text) : Option (Text × Text) :=
  readShort? piece? ((afterBreak? t).getD t)

/-- A string of any of the four kinds. -/
def readString? : Text → Option (Text × Text)
  | '"' :: '"' :: '"' :: rest => readLong? longBasicPiece? rest
  | '\'' :: '\'' :: '\'' :: rest => readLong? longLiteralPiece? rest
  | '"' :: rest => readShort? basicPiece? rest
  | '\'' :: rest => readShort? literalPiece? rest
  | _ => none

end Toml
end Tagdown
