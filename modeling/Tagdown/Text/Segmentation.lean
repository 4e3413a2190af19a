/-
  Tagdown.Text.Segmentation

  What a character does at the boundaries of graphemes, of words and of
  sentences: three classifications of Unicode, without the class of all other
  characters.
-/

import Tagdown.Text.Property
import Tagdown.Text.WritingSystem

namespace Tagdown

/-! ## Graphemes -/

/-- What a character does at the boundaries of graphemes. -/
inductive GraphemeBreak where
  | carriageReturn
  | control
  | extend
  | leadingJamo
  | lineFeed
  | openSyllable
  | closedSyllable
  | prepend
  | regionalIndicator
  | spacingMark
  | trailingJamo
  | vowelJamo
  | joiner
  deriving DecidableEq, Repr

namespace GraphemeBreak

/-- The Hangul syllables without a final consonant: every one at a distance of
    28. -/
def openSyllables : CharSet :=
  CharSet.empty.withCodes ((List.range 399).map fun i => 0xAC00 + 28 * i)

/-- The characters that extend a grapheme. -/
def extendSet : CharSet :=
  Property.graphemeExtendSet.union Property.emojiModifier.set

/-- Control characters, and such that are not shown and not assigned. -/
def controlSet : CharSet :=
  ((Category.setOf [.lineSeparator, .paragraphSeparator, .control, .format]).union
    (Property.defaultIgnorableSet.diff (Category.setOf Category.all))).diff
    (.unions [.ofTable "000A 000D 200D", Property.graphemeExtendSet, Property.prependedMark.set])

/-- The marks that take up space, and two vowel signs. -/
def spacingMarkSet : CharSet :=
  ((Category.spacingMark.set.union (.ofTable "0E33 0EB3")).diff Property.graphemeExtendSet).diff
    (.ofTable "102B-102C 1038 1062-1064 1067-106D 1083 1087-108C 108F 109A-109C 1A61 1A63-1A64
      AA7B AA7D 11720-11721")

/-- The characters of the class. -/
def set : GraphemeBreak → CharSet
  | carriageReturn => .single '\r'
  | control => controlSet
  | extend => extendSet
  | leadingJamo => .ofTable "1100-115F A960-A97C"
  | lineFeed => .single '\n'
  | openSyllable => openSyllables
  | closedSyllable => (CharSet.ofTable "AC00-D7A3").diff openSyllables
  | prepend =>
    Property.prependedMark.set.union
      (.ofTable "0D4E 111C2-111C3 113D1 1193F 11941 11A3A 11A84-11A89 11D46 11F02")
  | regionalIndicator => Property.regionalIndicator.set
  | spacingMark => spacingMarkSet
  | trailingJamo => .ofTable "11A8-11FF D7CB-D7FB"
  | vowelJamo => .ofTable "1160-11A7 D7B0-D7C6 16D63 16D67-16D6A"
  | joiner => .ofTable "200D"

/-- The names of the class. -/
def names : GraphemeBreak → List String
  | carriageReturn => ["CR"]
  | control => ["CN", "Control"]
  | extend => ["EX", "Extend"]
  | leadingJamo => ["L"]
  | lineFeed => ["LF"]
  | openSyllable => ["LV"]
  | closedSyllable => ["LVT"]
  | prepend => ["PP", "Prepend"]
  | regionalIndicator => ["RI", "Regional_Indicator"]
  | spacingMark => ["SM", "SpacingMark"]
  | trailingJamo => ["T"]
  | vowelJamo => ["V"]
  | joiner => ["ZWJ"]

/-- All classes. -/
def all : List GraphemeBreak :=
  [carriageReturn, control, extend, leadingJamo, lineFeed, openSyllable, closedSyllable, prepend,
   regionalIndicator, spacingMark, trailingJamo, vowelJamo, joiner]

end GraphemeBreak

/-! ## Words -/

/-- What a character does at the boundaries of words. -/
inductive WordBreak where
  | letter
  | carriageReturn
  | doubleQuote
  | extend
  | connector
  | format
  | hebrewLetter
  | katakana
  | lineFeed
  | midLetter
  | midNumber
  | midBoth
  | newline
  | numeric
  | regionalIndicator
  | singleQuote
  | space
  | joiner
  deriving DecidableEq, Repr

namespace WordBreak

/-- Marks in front of a number that count as its digits. -/
def numberMarks : CharSet :=
  Property.prependedMark.set.diff (.ofTable "070F")

/-- The characters that extend a word. -/
def extendSet : CharSet :=
  (CharSet.unions [Property.graphemeExtendSet, Category.spacingMark.set,
    Property.emojiModifier.set]).diff (.ofTable "200D")

/-- The characters of the script Katakana, and some that are written with it. -/
def katakanaSet : CharSet :=
  (CharSet.unions ((WritingSystem.all.filter (·.names.contains "Katakana")).map (·.set))).union
    (.ofTable "3031-3035 309B-309C 30A0 30FC FF70")

/-- The letters of the script Hebrew. -/
def hebrewSet : CharSet :=
  (CharSet.unions ((WritingSystem.all.filter (·.names.contains "Hebrew")).map (·.set))).inter
    Category.otherLetter.set

/-- The characters of the script Hiragana. -/
def hiraganaSet : CharSet :=
  .unions ((WritingSystem.all.filter (·.names.contains "Hiragana")).map (·.set))

/-- Signs that count as letters although they are not alphabetic. -/
def letterSigns : CharSet :=
  .ofTable "02C2-02C5 02D2-02D7 02DE-02DF 02E5-02EB 02ED 02EF-02FF 055A-055C 055E 058A 05F3 070F
    A708-A716 A720-A721 A789-A78A AB5B"

/-- The characters of languages that are written without spaces between words. -/
def unspacedSet : CharSet :=
  .ofTable "0E01-0E3A 0E40-0E4E 0E81-0E82 0E84 0E86-0E8A 0E8C-0EA3 0EA5 0EA7-0EBD 0EC0-0EC4 0EC6
    0EC8-0ECE 0EDC-0EDF 1000-103F 1050-108F 109A-109F 1780-17D3 17D7 17DC-17DD 1950-196D 1970-1974
    1980-19AB 19B0-19C9 19DA 19DE-19DF 1A20-1A5E 1A60-1A7C 1AA0-1AAD A9E0-A9EF A9FA-A9FE AA60-AAC2
    AADB-AADF 11700-1171A 1171D-1172B 1173A-1173B 1173F-11746"

/-- The letters of words with spaces between them. -/
def letterSet : CharSet :=
  (Property.alphabeticSet.union letterSigns).diff
    (.unions [Property.ideographic.set, katakanaSet, hebrewSet, hiraganaSet, unspacedSet,
      extendSet])

/-- Format characters but for joiners, zero width spaces and marks of numbers. -/
def formatSet : CharSet :=
  Category.format.set.diff
    (.unions [Property.graphemeExtendSet, .ofTable "200B-200D", Property.prependedMark.set])

/-- The characters of the class. -/
def set : WordBreak → CharSet
  | letter => letterSet
  | carriageReturn => .single '\r'
  | doubleQuote => .single '"'
  | extend => extendSet
  | connector => Category.connectorPunctuation.set.union (.ofTable "202F")
  | format => formatSet
  | hebrewLetter => hebrewSet
  | katakana => katakanaSet
  | lineFeed => .single '\n'
  | midLetter => .ofTable "003A 00B7 0387 055F 05F4 2027 FE13 FE55 FF1A"
  | midNumber =>
    .ofTable "002C 003B 037E 0589 060C-060D 066C 07F8 2044 FE10 FE14 FE50 FE54 FF0C FF1B"
  | midBoth => .ofTable "002E 2018-2019 2024 FE52 FF07 FF0E"
  | newline => .ofTable "000B-000C 0085 2028-2029"
  | numeric => .unions [Category.decimalNumber.set, .ofTable "066B", numberMarks]
  | regionalIndicator => Property.regionalIndicator.set
  | singleQuote => .single '\''
  | space => Category.spaceSeparator.set.diff (.ofTable "00A0 2007 202F")
  | joiner => .ofTable "200D"

/-- The names of the class. -/
def names : WordBreak → List String
  | letter => ["LE", "ALetter"]
  | carriageReturn => ["CR"]
  | doubleQuote => ["DQ", "Double_Quote"]
  | extend => ["Extend"]
  | connector => ["EX", "ExtendNumLet"]
  | format => ["FO", "Format"]
  | hebrewLetter => ["HL", "Hebrew_Letter"]
  | katakana => ["KA", "Katakana"]
  | lineFeed => ["LF"]
  | midLetter => ["ML", "MidLetter"]
  | midNumber => ["MN", "MidNum"]
  | midBoth => ["MB", "MidNumLet"]
  | newline => ["NL", "Newline"]
  | numeric => ["NU", "Numeric"]
  | regionalIndicator => ["RI", "Regional_Indicator"]
  | singleQuote => ["SQ", "Single_Quote"]
  | space => ["WSegSpace"]
  | joiner => ["ZWJ"]

/-- All classes. -/
def all : List WordBreak :=
  [letter, carriageReturn, doubleQuote, extend, connector, format, hebrewLetter, katakana, lineFeed,
   midLetter, midNumber, midBoth, newline, numeric, regionalIndicator, singleQuote, space, joiner]

end WordBreak

/-! ## Sentences -/

/-- What a character does at the boundaries of sentences. -/
inductive SentenceBreak where
  | ambiguousEnd
  | closing
  | carriageReturn
  | extend
  | format
  | letter
  | lineFeed
  | lower
  | numeric
  | continuing
  | separator
  | space
  | ending
  | upper
  deriving DecidableEq, Repr

namespace SentenceBreak

/-- Full stops, which may also stand within a sentence. -/
def fullStops : CharSet :=
  .ofTable "002E 2024 FE52 FF0E"

/-- The marks that end a sentence. -/
def endingSet : CharSet :=
  Property.sentenceTerminal.set.diff fullStops

/-- The characters that extend the one before. -/
def extendSet : CharSet :=
  .unions [Property.graphemeExtendSet, Category.spacingMark.set, .ofTable "200D"]

/-- The small letters that have capital ones. -/
def lowerSet : CharSet :=
  Property.lowercaseSet.diff
    (Property.graphemeExtendSet.union (.ofTable "10D0-10FA 10FD-10FF"))

/-- The capital letters that can start a sentence. -/
def upperSet : CharSet :=
  (Property.uppercaseSet.union Category.titlecaseLetter.set).diff
    (.ofTable "1C90-1CBA 1CBD-1CBF")

/-- Brackets and quotation marks. -/
def closingSet : CharSet :=
  ((Category.setOf [.openPunctuation, .closePunctuation, .initialPunctuation,
    .finalPunctuation]).union
      (.ofTable "0022 0027 275B-2760 2E00-2E01 2E06-2E08 2E0B 1F676-1F678")).diff
    (fullStops.union endingSet)

/-- The characters of the class. -/
def set : SentenceBreak → CharSet
  | ambiguousEnd => fullStops
  | closing => closingSet
  | carriageReturn => .single '\r'
  | extend => extendSet
  | format =>
    Category.format.set.diff (extendSet.union WordBreak.numberMarks)
  | letter =>
    (Property.alphabeticSet.union (.ofTable "05F3")).diff
      (.unions [lowerSet, upperSet, extendSet])
  | lineFeed => .single '\n'
  | lower => lowerSet
  | numeric => .unions [Category.decimalNumber.set, .ofTable "066B-066C", WordBreak.numberMarks]
  | continuing =>
    .ofTable "002C-002D 003A 055D 060C-060D 07F8 1802 1808 2013-2014 3001 FE10-FE11 FE13 FE31-FE32
      FE50-FE51 FE55 FE58 FE63 FF0C-FF0D FF1A FF64"
  | separator => .ofTable "0085 2028-2029"
  | space => (CharSet.ofRanges Text.blankRanges).diff (.ofTable "000A 000D 0085 2028-2029")
  | ending => endingSet
  | upper => upperSet

/-- The names of the class. -/
def names : SentenceBreak → List String
  | ambiguousEnd => ["AT", "ATerm"]
  | closing => ["CL", "Close"]
  | carriageReturn => ["CR"]
  | extend => ["EX", "Extend"]
  | format => ["FO", "Format"]
  | letter => ["LE", "OLetter"]
  | lineFeed => ["LF"]
  | lower => ["LO", "Lower"]
  | numeric => ["NU", "Numeric"]
  | continuing => ["SC", "SContinue"]
  | separator => ["SE", "Sep"]
  | space => ["SP", "Sp"]
  | ending => ["ST", "STerm"]
  | upper => ["UP", "Upper"]

/-- All classes. -/
def all : List SentenceBreak :=
  [ambiguousEnd, closing, carriageReturn, extend, format, letter, lineFeed, lower, numeric,
   continuing, separator, space, ending, upper]

end SentenceBreak
end Tagdown
