/-
  Tagdown.Search.Query

  The sets of characters that the classes of a pattern stand for: classes with a
  letter, named classes of ASCII characters, and classes of characters with a
  property. Properties, their values and scripts are found by name; capitals,
  spaces, hyphens, underscores and a leading `is` do not count.
-/

import Tagdown.Search.Term
import Tagdown.Text.Age
import Tagdown.Text.Segmentation

namespace Tagdown
namespace Search

/-! ## Names -/

/-- The text without a leading `is`. -/
def withoutIs (t : Text) : Text :=
  match t with
  | a :: b :: rest => if a.toLower = 'i' ∧ b.toLower = 's' then rest else t
  | _ => t

/-- What counts of a name. The name `isc` is kept, since a leading `is` would
    make it one of another thing. -/
def normalize (name : Text) : Text :=
  let bare := withoutIs name
  let counted := (bare.filter fun c =>
    c.toNat < 0x80 && c != ' ' && c != '_' && c != '-').map Char.toLower
  if bare.length < name.length ∧ counted = ['c'] then "isc".toList else counted

/-- One of the names is written like this. -/
def namedBy (names : List String) (counted : Text) : Bool :=
  names.any fun name => normalize name.toList == counted

/-! ## Values of properties -/

/-- The set of the first of several things that has the name. -/
def setNamed? (things : List α) (names : α → List String) (set : α → CharSet) (counted : Text) :
    Option CharSet :=
  (things.find? fun x => namedBy (names x) counted).map set

/-- The characters without a general category. -/
def unassigned : CharSet :=
  (Category.setOf Category.all).complement.diff (.ofTable "D800-DFFF")

/-- Groups of general categories, with their names. -/
def categoryGroups : List (List String × List Category) :=
  [(["LC", "Cased_Letter"], Category.casedLetters), (["L", "Letter"], Category.letters),
   (["M", "Mark", "Combining_Mark"], Category.marks), (["N", "Number"], Category.numbers),
   (["P", "Punctuation", "punct"], Category.punctuation), (["S", "Symbol"], Category.symbols),
   (["Z", "Separator"], Category.separators)]

/-- The sets named like general categories that are not made of them. -/
def specialCategories : List (List String × CharSet) :=
  [(["any"], CharSet.empty.complement), (["assigned"], unassigned.complement),
   (["ascii"], .ofTable "0000-007F"), (["Cn", "Unassigned"], unassigned),
   (["C", "Other"],
    (Category.setOf [.control, .format, .privateUse]).union unassigned)]

/-- The characters of a general category or of a group of them. -/
def categorySet? (counted : Text) : Option CharSet :=
  ((setNamed? Category.all Category.names Category.set counted).or
    (setNamed? categoryGroups (·.1) (Category.setOf ·.2) counted)).or
      (setNamed? specialCategories (·.1) (·.2) counted)

/-- General categories and scripts that have names but no characters of text. -/
def emptyNames : List String :=
  ["Cs", "Surrogate", "Zzzz", "Unknown", "Hrkt", "Katakana_Or_Hiragana"]

/-- The characters of a script. -/
def scriptSet? (counted : Text) : Option CharSet :=
  setNamed? WritingSystem.all (·.names) (·.set) counted

/-- The characters that were assigned up to a version. -/
def ageSet? (counted : Text) : Option CharSet :=
  let upTo := UnicodeVersion.all.takeWhile fun v => !namedBy v.names counted
  if upTo.length < UnicodeVersion.all.length then
    some (.unions ((UnicodeVersion.all.take (upTo.length + 1)).map (·.set)))
  else none

/-! ## Properties -/

/-- The properties of which a value can be asked for, with their names and the
    characters of a value. -/
def valueProperties : List (List String × (Text → Option CharSet)) :=
  [(["gc", "General_Category"], categorySet?),
   (["sc", "Script"], scriptSet?),
   (["scx", "Script_Extensions"],
    setNamed? WritingSystem.all (·.names) (·.extension)),
   (["age"], ageSet?),
   (["GCB", "Grapheme_Cluster_Break"],
    setNamed? GraphemeBreak.all GraphemeBreak.names GraphemeBreak.set),
   (["WB", "Word_Break"], setNamed? WordBreak.all WordBreak.names WordBreak.set),
   (["SB", "Sentence_Break"],
    setNamed? SentenceBreak.all SentenceBreak.names SentenceBreak.set)]

/-- The names of all other properties. -/
def otherProperties : List String :=
  ["bc", "Bidi_Class", "Bidi_M", "Bidi_Mirrored", "bmg", "Bidi_Mirroring_Glyph", "bpb",
   "Bidi_Paired_Bracket", "bpt", "Bidi_Paired_Bracket_Type", "blk", "Block", "ccc",
   "Canonical_Combining_Class", "cf", "Case_Folding", "CWKCF", "Changes_When_NFKC_Casefolded",
   "CE", "Composition_Exclusion", "Comp_Ex", "Full_Composition_Exclusion",
   "cjkAccountingNumeric", "kAccountingNumeric", "cjkCompatibilityVariant",
   "kCompatibilityVariant", "cjkIICore", "kIICore", "cjkIRG_GSource", "kIRG_GSource",
   "cjkIRG_HSource", "kIRG_HSource", "cjkIRG_JSource", "kIRG_JSource", "cjkIRG_KPSource",
   "kIRG_KPSource", "cjkIRG_KSource", "kIRG_KSource", "cjkIRG_MSource", "kIRG_MSource",
   "cjkIRG_SSource", "kIRG_SSource", "cjkIRG_TSource", "kIRG_TSource", "cjkIRG_UKSource",
   "kIRG_UKSource", "cjkIRG_USource", "kIRG_USource", "cjkIRG_VSource", "kIRG_VSource",
   "cjkOtherNumeric", "kOtherNumeric", "cjkPrimaryNumeric", "kPrimaryNumeric", "cjkRSUnicode",
   "kRSUnicode", "Unicode_Radical_Stroke", "URS", "dm", "Decomposition_Mapping", "dt",
   "Decomposition_Type", "ea", "East_Asian_Width", "EqUIdeo", "Equivalent_Unified_Ideograph",
   "FC_NFKC", "FC_NFKC_Closure", "hst", "Hangul_Syllable_Type", "InCB", "Indic_Conjunct_Break",
   "InPC", "Indic_Positional_Category", "InSC", "Indic_Syllabic_Category", "isc", "ISO_Comment",
   "jg", "Joining_Group", "JSN", "Jamo_Short_Name", "jt", "Joining_Type", "kEH_Cat", "kEH_Desc",
   "kEH_HG", "kEH_IFAO", "kEH_JSesh", "kEH_NoMirror", "kEH_NoRotate", "lb", "Line_Break", "lc",
   "Lowercase_Mapping", "na", "Name", "na1", "Unicode_1_Name", "Name_Alias", "NFC_QC",
   "NFC_Quick_Check", "NFD_QC", "NFD_Quick_Check", "NFKC_CF", "NFKC_Casefold", "NFKC_QC",
   "NFKC_Quick_Check", "NFKC_SCF", "NFKC_Simple_Casefold", "NFKD_QC", "NFKD_Quick_Check", "nt",
   "Numeric_Type", "nv", "Numeric_Value", "scf", "sfc", "Simple_Case_Folding", "slc",
   "Simple_Lowercase_Mapping", "stc", "Simple_Titlecase_Mapping", "suc",
   "Simple_Uppercase_Mapping", "tc", "Titlecase_Mapping", "uc", "Uppercase_Mapping", "vo",
   "Vertical_Orientation", "XO_NFC", "Expands_On_NFC", "XO_NFD", "Expands_On_NFD", "XO_NFKC",
   "Expands_On_NFKC", "XO_NFKD", "Expands_On_NFKD"]

/-- There is a property with the name. -/
def isProperty (counted : Text) : Bool :=
  Property.all.any (fun p => namedBy p.names counted) ||
    valueProperties.any (fun p => namedBy p.1 counted) || namedBy otherProperties counted

/-- The names that are read as general categories although properties have them
    too. -/
def categoryFirst : List String :=
  ["cf", "sc", "lc"]

/-- The characters that a name stands for: a property, a general category or a
    script. -/
def plainSet (counted : Text) : Except Flaw CharSet :=
  let special := categoryFirst.any fun name => name.toList == counted
  if !special && isProperty counted then
    match setNamed? Property.all Property.names Property.set counted with
    | some set => .ok set
    | none => .error .propertyUnknown
  else
    match (categorySet? counted).or (scriptSet? counted) with
    | some set => .ok set
    | none =>
      if namedBy emptyNames counted then .error .propertyValueUnknown
      else .error .propertyUnknown

/-- The characters with a value of a property. -/
def valueSet (property value : Text) : Except Flaw CharSet :=
  match valueProperties.find? fun p => namedBy p.1 property with
  | some (_, set?) =>
    match set? value with
    | some set => .ok set
    | none => .error .propertyValueUnknown
  | none =>
    if isProperty property then .error .propertyValueUnknown else .error .propertyUnknown

namespace Query

/-- The characters that are asked for. -/
def set : Query → Except Flaw CharSet
  | plain name => plainSet (normalize name)
  | value property wanted => valueSet (normalize property) (normalize wanted)

end Query

/-! ## Classes of their own -/

namespace AsciiClass

/-- The characters of the class, as a table. -/
def table : AsciiClass → String
  | alnum => "30-39 41-5A 61-7A"
  | alpha => "41-5A 61-7A"
  | ascii => "00-7F"
  | blank => "09 20"
  | cntrl => "00-1F 7F"
  | digit => "30-39"
  | graph => "21-7E"
  | lower => "61-7A"
  | print => "20-7E"
  | punct => "21-2F 3A-40 5B-60 7B-7E"
  | space => "09-0D 20"
  | upper => "41-5A"
  | word => "30-39 41-5A 5F 61-7A"
  | xdigit => "30-39 41-46 61-66"

/-- The characters of the class. -/
def set (a : AsciiClass) : CharSet :=
  .ofTable a.table

end AsciiClass

/-- The characters that words are made of. -/
def wordSet : CharSet :=
  .unions [Property.alphabeticSet,
    Category.setOf (.decimalNumber :: .connectorPunctuation :: Category.marks),
    Property.joinControl.set]

namespace LetterClass

/-- The characters of the class. -/
def set : LetterClass → CharSet
  | digit => Category.decimalNumber.set
  | space => Property.whiteSpace.set
  | word => wordSet

/-- The ASCII characters of the class. -/
def asciiSet : LetterClass → CharSet
  | digit => AsciiClass.digit.set
  | space => AsciiClass.space.set
  | word => AsciiClass.word.set

end LetterClass
end Search
end Tagdown
