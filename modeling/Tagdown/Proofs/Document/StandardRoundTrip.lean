/-
  Tagdown.Proofs.Document.StandardRoundTrip

  The round trip under the standard table: how many headings, list items and
  quotes the markdown of a text has, by the names that its lines were written
  with.

  The documented round trip (`RoundTrips`) counts every line of a name. It holds
  exactly when no title and no list line is blank between its parentheses
  (`roundTrips_iff`): such a line gives a marker alone, and a marker alone is
  neither a heading nor a list item.
-/

import Tagdown.Proofs.Document.Agreement

namespace Tagdown

/-! ## The names of the standard table -/

namespace TagTable

/-- The names for headings of a level. -/
def titleNames : Nat → List Text
  | 1 => ["Title1".toList, "AAA".toList]
  | 2 => ["Title2".toList, "BBB".toList]
  | 3 => ["Title3".toList, "CCC".toList]
  | _ => []

/-- The names for list items. -/
def listNames : List Text :=
  ["List".toList, "DDD".toList]

/-- The names for quotes. -/
def quoteNames : List Text :=
  ["Quote".toList, "EEE".toList]

variable {name marker : Text}

theorem mem_titleNames_iff {level : Nat} :
    ⟨name, List.replicate level '#'⟩ ∈ standard.tags ↔ name ∈ titleNames level := by
  match level with
  | 0 => simp [standard, standardTags, titleNames]
  | 1 => simp [standard, standardTags, titleNames]
  | 2 => simp [standard, standardTags, titleNames, List.replicate_succ]
  | 3 => simp [standard, standardTags, titleNames, List.replicate_succ]
  | level + 4 => simp [standard, standardTags, titleNames, List.replicate_succ]

theorem mem_listNames_iff :
    (⟨name, ['-']⟩ ∈ standard.tags ∨ ⟨name, ['*']⟩ ∈ standard.tags ∨
      ⟨name, ['+']⟩ ∈ standard.tags) ↔ name ∈ listNames := by
  simp [standard, standardTags, listNames]

theorem mem_quoteNames_iff : ⟨name, ['>']⟩ ∈ standard.tags ↔ name ∈ quoteNames := by
  simp [standard, standardTags, quoteNames]

/-- Each name of the standard table is a title, a list or a quote name. -/
theorem mem_names_of_mem_standard (h : ⟨name, marker⟩ ∈ standard.tags) :
    name ∈ titleNames 1 ∨ name ∈ titleNames 2 ∨ name ∈ titleNames 3 ∨ name ∈ listNames ∨
      name ∈ quoteNames := by
  have hnames : ∀ name ∈ standard.names, name ∈ titleNames 1 ∨ name ∈ titleNames 2 ∨
      name ∈ titleNames 3 ∨ name ∈ listNames ∨ name ∈ quoteNames := by
    decide
  exact hnames name (mem_names h)

end TagTable

/-! ## Blocks by name -/

namespace Block

/-- The number of blocks with one of these names. -/
def countNamed (names : List Text) (blocks : List Block) : Nat :=
  blocks.countP fun block => names.contains block.name

/-- The number of blocks with one of these names and with content. -/
def countFilled (names : List Text) (blocks : List Block) : Nat :=
  blocks.countP fun block => names.contains block.name && !block.content.isEmpty

/-- The number of blocks with one of these names and without content. -/
def countEmpty (names : List Text) (blocks : List Block) : Nat :=
  blocks.countP fun block => names.contains block.name && block.content.isEmpty

theorem countP_eq_countNamed {names : List Text} {p : Block → Prop} [DecidablePred p]
    (h : ∀ block, p block ↔ block.name ∈ names) (blocks : List Block) :
    blocks.countP p = countNamed names blocks := by
  apply List.countP_congr
  intro block _
  simp only [decide_eq_true_eq, List.contains_iff_mem, h]

theorem countP_eq_countFilled {names : List Text} {p : Block → Prop} [DecidablePred p]
    (h : ∀ block, p block ↔ block.name ∈ names ∧ block.content ≠ []) (blocks : List Block) :
    blocks.countP p = countFilled names blocks := by
  apply List.countP_congr
  intro block _
  simp only [decide_eq_true_eq, List.contains_iff_mem, h, Bool.and_eq_true, Bool.not_eq_true',
    List.isEmpty_eq_false_iff, ne_eq]

theorem countFilled_add_countEmpty (names : List Text) (blocks : List Block) :
    countFilled names blocks + countEmpty names blocks = countNamed names blocks := by
  rw [countNamed, List.countP_eq_countP_filter_add blocks _ fun block => !block.content.isEmpty]
  rw [List.countP_filter, List.countP_filter, countFilled, countEmpty]
  simp only [Bool.not_not]

/-- The counts agree exactly when no block of these names is without content. -/
theorem countFilled_eq_countNamed_iff {names : List Text} {blocks : List Block} :
    countFilled names blocks = countNamed names blocks ↔
      ∀ block ∈ blocks, block.name ∈ names → block.content ≠ [] := by
  have hsum := countFilled_add_countEmpty names blocks
  have hempty : countEmpty names blocks = 0 ↔
      ∀ block ∈ blocks, block.name ∈ names → block.content ≠ [] := by
    rw [countEmpty, List.countP_eq_zero]
    simp only [Bool.and_eq_true, List.contains_iff_mem, List.isEmpty_iff, not_and, ne_eq]
  rw [← hempty]
  omega

theorem countFilled_nil (blocks : List Block) : countFilled [] blocks = 0 := by
  simp [countFilled]

end Block

/-! ## The round trip -/

namespace Conversion

open Block TagTable

/-- The round trip as it is documented: the headings, list items and quotes of the
    markdown are the blocks with such names, and there is nothing else. -/
def RoundTrips (text : Text) : Prop :=
  let blocks := (ofText standard text).blocks
  let s := Statistics.ofText (ofText standard text).markdown
  s.headings = ⟨countNamed (titleNames 1) blocks, countNamed (titleNames 2) blocks,
    countNamed (titleNames 3) blocks, 0, 0, 0⟩ ∧
  s.listItems = countNamed listNames blocks ∧
  s.quotes = countNamed quoteNames blocks ∧
  s.codeFences = 0

theorem headings_standard (text : Text) :
    let blocks := (ofText standard text).blocks
    (Statistics.ofText (ofText standard text).markdown).headings =
      ⟨countFilled (titleNames 1) blocks, countFilled (titleNames 2) blocks,
        countFilled (titleNames 3) blocks, 0, 0, 0⟩ := by
  intro blocks
  have hcount : ∀ level, 1 ≤ level → level ≤ 6 →
      (Statistics.ofText (ofText standard text).markdown).headings.count level =
        countFilled (titleNames level) blocks := by
    intro level hlow hhigh
    rw [headings_markdown standard_opensBlocks text hlow hhigh]
    apply countP_eq_countFilled
    intro block
    rw [mem_titleNames_iff]
  have heta : ∀ h : HeadingCounts,
      h = ⟨h.count 1, h.count 2, h.count 3, h.count 4, h.count 5, h.count 6⟩ := fun _ => rfl
  rw [heta (Statistics.ofText _).headings]
  rw [hcount 1 (by decide) (by decide), hcount 2 (by decide) (by decide),
    hcount 3 (by decide) (by decide), hcount 4 (by decide) (by decide),
    hcount 5 (by decide) (by decide), hcount 6 (by decide) (by decide)]
  -- No name of the table stands for a heading below the third level.
  show (⟨_, _, _, countFilled [] _, countFilled [] _, countFilled [] _⟩ : HeadingCounts) = _
  rw [countFilled_nil]

theorem listItems_standard (text : Text) :
    (Statistics.ofText (ofText standard text).markdown).listItems =
      countFilled listNames (ofText standard text).blocks := by
  rw [listItems_markdown standard_opensBlocks]
  apply countP_eq_countFilled
  intro block
  rw [mem_listNames_iff]

theorem quotes_standard (text : Text) :
    (Statistics.ofText (ofText standard text).markdown).quotes =
      countNamed quoteNames (ofText standard text).blocks := by
  rw [quotes_markdown standard_opensBlocks]
  apply countP_eq_countNamed
  intro block
  exact mem_quoteNames_iff

/-- The documented round trip holds exactly when every title and every list line
    has content: a line without content is counted only if it is a quote. -/
theorem roundTrips_iff (text : Text) :
    RoundTrips text ↔
      ∀ block ∈ (ofText standard text).blocks, block.content = [] → block.name ∈ quoteNames := by
  have hcodeFences := codeFences_markdown standard_opensBlocks text
  simp only [RoundTrips, headings_standard, listItems_standard, quotes_standard, hcodeFences,
    HeadingCounts.mk.injEq, countFilled_eq_countNamed_iff, and_true]
  constructor
  · rintro ⟨⟨h1, h2, h3⟩, hlist⟩ block hblock hcontent
    obtain ⟨marker, hmem, -⟩ := (wellFormed_of_mem_blocks hblock).exists_marker
    -- Of the five groups of names four are counted by their content.
    rcases mem_names_of_mem_standard hmem with hname | hname | hname | hname | hname
    · exact absurd hcontent (h1 block hblock hname)
    · exact absurd hcontent (h2 block hblock hname)
    · exact absurd hcontent (h3 block hblock hname)
    · exact absurd hcontent (hlist block hblock hname)
    · exact hname
  · intro h
    have hfilled : ∀ names : List Text, (∀ name ∈ names, name ∉ quoteNames) →
        ∀ block ∈ (ofText standard text).blocks, block.name ∈ names → block.content ≠ [] :=
      fun names hnames block hblock hname hcontent =>
        hnames block.name hname (h block hblock hcontent)
    exact ⟨⟨hfilled _ (by decide), hfilled _ (by decide), hfilled _ (by decide)⟩,
      hfilled _ (by decide)⟩

/-- **The round trip under the standard table.** In the markdown of a text the
    headings of each level and the list items are the blocks with such a name and
    with content, the quotes are the blocks with such a name, and there is nothing
    else. So the documented round trip holds exactly when no title and no list
    line is blank between its parentheses. -/
theorem standard_roundTrip (text : Text) :
    (let blocks := (ofText standard text).blocks
     let s := Statistics.ofText (ofText standard text).markdown
     s.headings = ⟨countFilled (titleNames 1) blocks, countFilled (titleNames 2) blocks,
       countFilled (titleNames 3) blocks, 0, 0, 0⟩ ∧
     s.listItems = countFilled listNames blocks ∧
     s.quotes = countNamed quoteNames blocks ∧
     s.codeFences = 0) ∧
    (RoundTrips text ↔
      ∀ block ∈ (ofText standard text).blocks, block.content = [] → block.name ∈ quoteNames) := by
  refine ⟨⟨?_, ?_, ?_, ?_⟩, ?_⟩
  · exact headings_standard text
  · exact listItems_standard text
  · exact quotes_standard text
  · exact codeFences_markdown standard_opensBlocks text
  · exact roundTrips_iff text

/-- A title that is blank between its parentheses breaks the documented round
    trip. -/
theorem not_roundTrips_blank_title : ¬RoundTrips "AAA( )".toList := by
  rw [roundTrips_iff]
  decide

end Conversion
end Tagdown
