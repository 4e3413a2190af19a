/-
  Tagdown.Proofs.Document.Preview

  Previews of converted texts. A preview tells the kind of a line by its first characters, so
  the line of a block is shown as what its marker opens, whatever its content
  (`LineKind.classify_block`); only the list marker `+` is shown as text. The kinds that a
  preview shows are therefore those that the statistics count, but for the items of that marker
  (`Conversion.preview_markdown_shows_blocks`).
-/

import Tagdown.Proofs.Document.Agreement

namespace Tagdown

/-! ## Kinds of lines -/

namespace LineKind

variable {kind : LineKind} {marker : Text}

/-- The human name of a kind. -/
def name : LineKind → Text
  | heading level => "Heading ".toList ++ Text.ofNat level
  | listItem => "List item".toList
  | quote => "Quote".toList
  | plain => "Plain".toList

/-- The kind in which a preview shows the blocks of a marker that opens `kind`. Previews know
    the list markers `-` and `*` only. -/
def shownAs (marker : Text) (kind : LineKind) : LineKind :=
  if marker = ['+'] then plain else kind

/-- A marker is described by the name of what it opens. -/
theorem describe_eq_name (h : Tag.Opens kind marker) : Tag.describe marker = kind.name := by
  cases h with
  | @heading level hlow hhigh =>
    -- Hashes alone are no mark of a list or a quote, so they are told by their number.
    have hne : ∀ c ≠ '#', List.replicate level '#' ≠ [c] := fun c hc heq =>
      hc (List.eq_of_mem_replicate (heq ▸ List.mem_singleton_self c))
    have hnil : List.replicate level '#' ≠ [] := Tag.Opens.ne_nil (.heading hlow hhigh)
    have hall : (List.replicate level '#').all (· == '#') = true := by simp
    have hlength : (List.replicate level '#').length = level := List.length_replicate
    rw [Tag.describe, if_neg (by simp [hne]), if_neg (hne '>' (by decide)),
      if_pos ⟨hnil, hlength.symm ▸ hhigh, hall⟩, hlength]
    rfl
  | listItem hbullet => rcases hbullet with rfl | rfl | rfl <;> rfl
  | quote => rfl

/-- The line of a block is shown by its marker alone. -/
theorem classify_block (h : Tag.Opens kind marker) (content : Text) :
    classify (marker ++ ' ' :: content) = shownAs marker kind := by
  cases h with
  | @heading level hlow hhigh =>
    obtain ⟨more, rfl⟩ := Nat.exists_eq_add_of_le' hlow
    have hplus : List.replicate (more + 1) '#' ≠ ['+'] := by simp [List.replicate_succ]
    rw [shownAs, if_neg hplus, List.replicate_succ, List.cons_append, classify]
    simp
  | listItem hbullet => rcases hbullet with rfl | rfl | rfl <;> rfl
  | quote => rfl

/-- Headings and quotes are shown as what they are. -/
theorem shownAs_eq_iff {shown : LineKind} (h : Tag.Opens kind marker) (hplain : shown ≠ plain)
    (hitem : shown ≠ listItem) : shownAs marker kind = shown ↔ kind = shown := by
  rw [shownAs]
  split
  · rename_i hplus
    rw [h.eq_listItem_iff.mpr (.inr (.inr hplus))]
    exact iff_of_false hplain.symm hitem.symm
  · rfl

theorem shownAs_eq_listItem_iff :
    shownAs marker kind = listItem ↔ kind = listItem ∧ marker ≠ ['+'] := by
  rw [shownAs]
  split
  · rename_i hplus
    exact iff_of_false (by decide) fun h => h.2 hplus
  · rename_i hplus
    exact (and_iff_left hplus).symm

end LineKind

/-! ## Lines of a preview -/

/-- Where of two properties just one comes with a third, they are counted together. -/
theorem countP_add_countP {α : Type} {p q r : α → Prop} [DecidablePred p] [DecidablePred q]
    [DecidablePred r] {xs : List α} (h : ∀ x ∈ xs, (r x ↔ p x ∨ q x) ∧ ¬(p x ∧ q x)) :
    xs.countP p + xs.countP q = xs.countP r := by
  induction xs with
  | nil => rfl
  | cons x xs ih =>
    rw [List.forall_mem_cons] at h
    have hrest := ih h.2
    simp only [List.countP_cons, decide_eq_true_eq, h.1.1]
    by_cases hp : p x
    · have hq : ¬q x := fun hq => h.1.2 ⟨hp, hq⟩
      simp only [hp, hq, if_true, if_false, true_or]
      omega
    · simp only [hp, if_false, false_or]
      omega

/-- A preview with room for all lines shows each of them. -/
theorem Preview.lines_ofText_joinLines {ts : List Text} {limit : Nat} (hne : ts ≠ [])
    (hfeed : ∀ t ∈ ts, '\n' ∉ t) (hlimit : ts.length ≤ limit) :
    (ofText (Text.joinLines ts) limit).lines = ts.map fun t => ⟨t, .classify t⟩ := by
  rw [ofText, Text.lines_joinLines hne hfeed, List.take_of_length_le hlimit]

namespace Conversion

variable {table : TagTable} {text : Text} {limit : Nat} {block : Block} {kind : LineKind}
  {marker : Text}

theorem OpensAs.marker?_eq_some_iff (h : OpensAs table block kind marker) {m : Text} :
    table.marker? block.name = some m ↔ marker = m := by
  rw [TagTable.marker?_eq_some_iff, h.mem_iff, eq_comm]

theorem OpensAs.classify_markdown (h : OpensAs table block kind marker) :
    LineKind.classify block.markdown = .shownAs marker kind := by
  rw [h.markdown_eq, LineKind.classify_block h.opens]

/-- The preview of converted text that has room for all blocks. -/
theorem lines_preview_markdown (hopens : table.OpensBlocks) (hne : (ofText table text).blocks ≠ [])
    (hlimit : (ofText table text).blocks.length ≤ limit) :
    (Preview.ofText (ofText table text).markdown limit).lines =
      (ofText table text).blocks.map fun block => ⟨block.markdown, .classify block.markdown⟩ := by
  have hfeed : ∀ line ∈ (ofText table text).blocks.map (·.markdown), '\n' ∉ line :=
    fun line hline => (isFlush_of_mem_map_markdown hopens line hline).1
  rw [markdown, Preview.lines_ofText_joinLines (by simpa using hne) hfeed (by simpa using hlimit),
    List.map_map]
  rfl

/-- Without blocks there is at most one empty line, which is text. -/
theorem countP_kind_preview_markdown (hopens : table.OpensBlocks)
    (hlimit : (ofText table text).blocks.length ≤ limit) (hkind : kind ≠ .plain) :
    (Preview.ofText (ofText table text).markdown limit).lines.countP (·.kind = kind) =
      (ofText table text).blocks.countP fun block => LineKind.classify block.markdown = kind := by
  by_cases hne : (ofText table text).blocks = []
  · rw [markdown, hne, List.countP_nil, List.countP_eq_zero]
    intro line hline
    -- The markdown is the empty text, whose only line is empty.
    obtain ⟨empty, hempty, rfl⟩ := List.mem_map.mp hline
    obtain rfl := List.mem_singleton.mp (List.mem_of_mem_take hempty)
    exact mt of_decide_eq_true hkind.symm
  · rw [lines_preview_markdown hopens hne hlimit, List.countP_map]
    rfl

/-- The blocks that a preview shows in some kind, by their markers. -/
theorem countP_classify_markdown (hopens : table.OpensBlocks) {p : Block → Prop} [DecidablePred p]
    (h : ∀ block ∈ (ofText table text).blocks, ∀ marker opened, OpensAs table block opened marker →
      (LineKind.shownAs marker opened = kind ↔ p block)) :
    ((ofText table text).blocks.countP fun block => LineKind.classify block.markdown = kind) =
      (ofText table text).blocks.countP p := by
  apply List.countP_congr
  intro block hblock
  obtain ⟨opened, marker, hopensAs⟩ := exists_opensAs hopens hblock
  rw [decide_eq_true_eq, decide_eq_true_eq, hopensAs.classify_markdown]
  exact h block hblock marker opened hopensAs

/-! ## Kinds that are shown and kinds that are counted -/

theorem headings_preview_markdown (hopens : table.OpensBlocks)
    (hcontent : ∀ block ∈ (ofText table text).blocks, block.content ≠ [])
    (hlimit : (ofText table text).blocks.length ≤ limit) {level : Nat} (hlow : 1 ≤ level)
    (hhigh : level ≤ 6) :
    (Preview.ofText (ofText table text).markdown limit).lines.countP (·.kind = .heading level) =
      (Statistics.ofText (ofText table text).markdown).headings.count level := by
  rw [headings_markdown hopens text hlow hhigh,
    countP_kind_preview_markdown hopens hlimit (by simp)]
  apply countP_classify_markdown hopens
  intro block hblock marker kind h
  rw [LineKind.shownAs_eq_iff h.opens (by simp) (by simp), h.opens.eq_heading_iff hlow hhigh,
    h.mem_iff, eq_comm, and_iff_left (hcontent block hblock)]

theorem quotes_preview_markdown (hopens : table.OpensBlocks)
    (hlimit : (ofText table text).blocks.length ≤ limit) :
    (Preview.ofText (ofText table text).markdown limit).lines.countP (·.kind = .quote) =
      (Statistics.ofText (ofText table text).markdown).quotes := by
  rw [quotes_markdown hopens text, countP_kind_preview_markdown hopens hlimit (by simp)]
  apply countP_classify_markdown hopens
  intro block hblock marker kind h
  rw [LineKind.shownAs_eq_iff h.opens (by simp) (by simp), h.opens.eq_quote_iff, h.mem_iff, eq_comm]

/-- The list items that are counted are those that are shown and those of the marker `+`. -/
theorem listItems_preview_markdown (hopens : table.OpensBlocks)
    (hcontent : ∀ block ∈ (ofText table text).blocks, block.content ≠ [])
    (hlimit : (ofText table text).blocks.length ≤ limit) :
    (Preview.ofText (ofText table text).markdown limit).lines.countP (·.kind = .listItem) +
        (ofText table text).blocks.countP (table.marker? ·.name = some ['+']) =
      (Statistics.ofText (ofText table text).markdown).listItems := by
  rw [listItems_markdown hopens text, countP_kind_preview_markdown hopens hlimit (by simp)]
  apply countP_add_countP
  intro block hblock
  obtain ⟨kind, marker, h⟩ := exists_opensAs hopens hblock
  have hitem := h.opens.eq_listItem_iff
  -- A block of a list marker is shown as an item or has the marker `+`, and not both.
  rw [h.classify_markdown, LineKind.shownAs_eq_listItem_iff, h.marker?_eq_some_iff,
    and_iff_left (hcontent block hblock)]
  simp only [h.mem_iff, eq_comm (b := marker), ← hitem]
  tauto

/-- With room for all blocks, each block is shown in the line of its number, as it is written and
    in the kind `shown` makes of its marker and of what that opens. -/
def ShowsBlocks (shown : Text → LineKind → LineKind) (table : TagTable) (text : Text)
    (limit : Nat) : Prop :=
  ∀ (i : Nat) (block : Block), (ofText table text).blocks[i]? = some block →
    ∃ marker kind, table.marker? block.name = some marker ∧ Tag.Opens kind marker ∧
      Tag.describe marker = kind.name ∧
      (Preview.ofText (ofText table text).markdown limit).lines[i]? =
        some ⟨block.markdown, shown marker kind⟩

theorem showsBlocks (hopens : table.OpensBlocks)
    (hlimit : (ofText table text).blocks.length ≤ limit) :
    ShowsBlocks LineKind.shownAs table text limit := by
  intro i block hblock
  have hmem := List.mem_of_getElem? hblock
  obtain ⟨kind, marker, hopensAs⟩ := exists_opensAs hopens hmem
  refine ⟨marker, kind, hopensAs.marker?_eq_some_iff.mpr rfl, hopensAs.opens,
    LineKind.describe_eq_name hopensAs.opens, ?_⟩
  rw [lines_preview_markdown hopens (List.ne_nil_of_mem hmem) hlimit, List.getElem?_map, hblock,
    Option.map_some, hopensAs.classify_markdown]

/-- **A preview shows what the statistics count.** If every marker of the table opens a block, every
    block of a text has content and there is room for all of them, then each block is shown in the
    line of its number, as it is written and in the kind that its marker opens and is described as;
    but a block of the list marker `+` is shown as text. So as many headings of each level and as
    many quotes are shown as are counted, and as many list items without those of that marker. -/
theorem preview_markdown_shows_blocks (hopens : table.OpensBlocks)
    (hcontent : ∀ block ∈ (ofText table text).blocks, block.content ≠ [])
    (hlimit : (ofText table text).blocks.length ≤ limit) :
    let shown := (Preview.ofText (ofText table text).markdown limit).lines
    let s := Statistics.ofText (ofText table text).markdown
    ShowsBlocks (fun marker kind => if marker = ['+'] then .plain else kind) table text limit ∧
    (∀ level, 1 ≤ level → level ≤ 6 →
      shown.countP (·.kind = .heading level) = s.headings.count level) ∧
    shown.countP (·.kind = .listItem) +
      (ofText table text).blocks.countP (table.marker? ·.name = some ['+']) = s.listItems ∧
    shown.countP (·.kind = .quote) = s.quotes :=
  ⟨showsBlocks hopens hlimit,
    fun _ hlow hhigh => headings_preview_markdown hopens hcontent hlimit hlow hhigh,
    listItems_preview_markdown hopens hcontent hlimit, quotes_preview_markdown hopens hlimit⟩

/-- A table with two of the list markers. -/
def twoBullets : TagTable where
  tags := [⟨"Title".toList, "##".toList⟩, ⟨"Item".toList, "-".toList⟩, ⟨"More".toList, "+".toList⟩]
  nodup_names := by decide
  valid := by decide

theorem twoBullets_opensBlocks : twoBullets.OpensBlocks :=
  TagTable.opensBlocks_iff.mpr (by decide)

/-- Two list items and a heading, whose contents look like other blocks. -/
theorem preview_markdown_shows_two_bullets :
    let text := "More(# a)\nItem(> b)\nTitle(+ c)".toList
    let shown := (Preview.ofText (ofText twoBullets text).markdown 3).lines
    let s := Statistics.ofText (ofText twoBullets text).markdown
    twoBullets.OpensBlocks ∧ (∀ block ∈ (ofText twoBullets text).blocks, block.content ≠ []) ∧
      (ofText twoBullets text).blocks.length ≤ 3 ∧
      ShowsBlocks (fun marker kind => if marker = ['+'] then .plain else kind) twoBullets text 3 ∧
      shown.countP (·.kind = .heading 2) = s.headings.count 2 ∧
      shown.countP (·.kind = .listItem) + 1 = s.listItems ∧
      shown.countP (·.kind = .quote) = s.quotes := by
  intro text shown s
  have hcontent : ∀ block ∈ (ofText twoBullets text).blocks, block.content ≠ [] := by decide
  have hlimit : (ofText twoBullets text).blocks.length ≤ 3 := by decide
  obtain ⟨hshows, hheadings, hitems, hquotes⟩ :=
    preview_markdown_shows_blocks twoBullets_opensBlocks hcontent hlimit
  exact ⟨twoBullets_opensBlocks, hcontent, hlimit, hshows, hheadings 2 (by decide) (by decide),
    hitems, hquotes⟩

/-- An item of the list marker `+` is counted, but it is not shown as a list item. -/
theorem plus_item_is_shown_as_text :
    let text := "More(x)".toList
    twoBullets.OpensBlocks ∧ (∀ block ∈ (ofText twoBullets text).blocks, block.content ≠ []) ∧
      (ofText twoBullets text).blocks.length ≤ 1 ∧
      ¬ShowsBlocks (fun _ kind => kind) twoBullets text 1 ∧
      (Preview.ofText (ofText twoBullets text).markdown 1).lines.countP (·.kind = .listItem) ≠
        (Statistics.ofText (ofText twoBullets text).markdown).listItems := by
  intro text
  refine ⟨twoBullets_opensBlocks, by decide, by decide, ?_, by decide⟩
  intro hshows
  obtain ⟨marker, kind, hmarker, hopens, -, hshown⟩ :=
    hshows 0 ⟨"More".toList, "x".toList, "+ x".toList⟩ (by decide)
  -- The line is shown as text, and no marker opens text.
  have hline : (Preview.ofText (ofText twoBullets text).markdown 1).lines[0]? =
      some ⟨"+ x".toList, .plain⟩ := by
    decide
  rw [hline, Option.some.injEq, PreviewLine.mk.injEq] at hshown
  have hplain : LineKind.plain = kind := hshown.2
  rw [← hplain] at hopens
  cases hopens

end Conversion
end Tagdown
