/-
  Tagdown.Proofs.Display.Preview

  Previews hide nothing that they do not count. A preview is the first lines of a text, and it
  says how many lines follow them (`Preview.lines_add_remaining`). Shown without colours it has
  six lines of its own above them, and a note below them if lines are left out
  (`Display.lines_preview_off`). So a preview with room for all lines can be read back: its text
  begins in the seventh line (`Display.preview_shows_first_lines`).
-/

import Tagdown.Display.Preview
import Tagdown.Proofs.Display.Lines
import Tagdown.Proofs.Text.Printable

namespace Tagdown

variable {t path : Text} {limit more : Nat}

/-! ## The lines of a preview -/

namespace Preview

theorem map_text_lines (t : Text) (limit : Nat) :
    (ofText t limit).lines.map (·.text) = (Text.lines t).take limit := by
  rw [ofText, List.map_map]
  exact List.map_id _

theorem length_lines (t : Text) (limit : Nat) :
    (ofText t limit).lines.length = min limit (Text.lines t).length := by
  rw [ofText, List.length_map, List.length_take]

/-- Every line is shown or counted. -/
theorem lines_add_remaining (t : Text) (limit : Nat) :
    (ofText t limit).lines.length + (ofText t limit).remaining = (Text.lines t).length := by
  have hremaining : (ofText t limit).remaining = (Text.lines t).length - limit := rfl
  rw [length_lines, hremaining]
  omega

theorem kind_eq_classify {line : PreviewLine} (h : line ∈ (ofText t limit).lines) :
    line.kind = .classify line.text := by
  obtain ⟨text, -, rfl⟩ := List.mem_map.mp h
  rfl

/-- A larger limit shows more lines behind the same ones. -/
theorem lines_isPrefix (t : Text) (h : limit ≤ more) :
    (ofText t limit).lines <+: (ofText t more).lines :=
  (List.take_prefix_take_left h).map _

theorem no_feed_of_mem_lines {line : PreviewLine} (h : line ∈ (ofText t limit).lines) :
    '\n' ∉ line.text := by
  have htext : line.text ∈ (ofText t limit).lines.map (·.text) := List.mem_map_of_mem h
  rw [map_text_lines] at htext
  exact Text.no_feed_of_mem_lines (List.mem_of_mem_take htext)

end Preview

/-! ## The preview on the screen -/

namespace Display

theorem isPrintable_kilobytes (bytes : Nat) : Text.IsPrintable (kilobytes bytes) :=
  (Binary64.isPrintable_toFixed 2 _).append (by decide)

/-- Only the path could break the lines above the text. -/
theorem no_feed_previewHead (hpath : '\n' ∉ path) (bytes : Nat) :
    ∀ line ∈ previewHead false path bytes, '\n' ∉ line := by
  have hsize : '\n' ∉ kilobytes bytes := (isPrintable_kilobytes bytes).not_mem (by decide)
  simp only [previewHead, Style.paint_off, List.forall_mem_cons]
  exact ⟨by decide, List.not_mem_append (by decide) hpath,
    List.not_mem_append (by decide) hsize, by decide, by decide, by decide,
    List.forall_mem_nil _⟩

theorem no_feed_previewFoot (remaining : Nat) :
    ∀ line ∈ previewFoot false remaining, '\n' ∉ line := by
  have hnumber : '\n' ∉ Text.ofNat remaining :=
    (Text.isPrintable_ofNat remaining).not_mem (by decide)
  unfold previewFoot
  split
  · exact List.forall_mem_nil _
  · simp only [Style.paint_off, List.forall_mem_cons]
    exact ⟨by decide,
      List.not_mem_append (List.not_mem_append (by decide) hnumber) (by decide),
      List.forall_mem_nil _⟩

/-- The lines of a preview are those that it was made of: none of them is broken in two. -/
theorem lines_preview_off (hpath : '\n' ∉ path) (bytes : Nat) {p : Preview}
    (hlines : ∀ line ∈ p.lines, '\n' ∉ line.text) :
    Text.lines (preview false path bytes p) =
      previewHead false path bytes ++ p.lines.map (·.text) ++ previewFoot false p.remaining := by
  have hne : previewHead false path bytes ++ p.lines.map (·.text) ++
      previewFoot false p.remaining ≠ [] := by
    simp [previewHead]
  have htexts : ∀ line ∈ p.lines.map (·.text), '\n' ∉ line := by
    intro line hline
    obtain ⟨shown, hshown, rfl⟩ := List.mem_map.mp hline
    exact hlines shown hshown
  simp only [preview, paintSome_off]
  refine Text.lines_joinLines hne ?_
  rw [List.forall_mem_append, List.forall_mem_append]
  exact ⟨⟨no_feed_previewHead hpath bytes, htexts⟩, no_feed_previewFoot p.remaining⟩

/-- The note below the lines tells how many are left out, if any are. -/
theorem previewFoot_off (remaining : Nat) :
    previewFoot false remaining =
      if 0 < remaining then
        [[], "... and ".toList ++ Text.ofNat remaining ++ " more lines".toList]
      else [] := by
  cases remaining with
  | zero => rfl
  | succ n => rw [previewFoot, if_neg (Nat.succ_ne_zero n), if_pos n.succ_pos, Style.paint_off]

/-- **A preview shows the first lines of a text and counts the rest.** As many lines as there is
    room for are shown, from the first on, each as it is written and in the kind that it opens
    with, and those that are left out are counted. A larger limit only adds lines. Without colours
    the lines stand behind six others, and an empty line and a note follow exactly if lines are
    left out. So with room for all lines the text is read back from the seventh line on. -/
theorem preview_shows_first_lines (t : Text) (limit : Nat) :
    let p := Preview.ofText t limit
    (p.lines.length = min limit (Text.lines t).length ∧
      p.lines.map (·.text) = (Text.lines t).take limit ∧
      (∀ line ∈ p.lines, line.kind = .classify line.text) ∧
      p.lines.length + p.remaining = (Text.lines t).length) ∧
    (∀ more, limit ≤ more → p.lines <+: (Preview.ofText t more).lines) ∧
    ∀ path bytes, '\n' ∉ path →
      let shown := Text.lines (preview false path bytes p)
      shown.take 6 =
        ["File Information:".toList, "   Path: ".toList ++ path,
          "   Size: ".toList ++ kilobytes bytes, [], "Content Preview:".toList,
          List.replicate 50 '-'] ∧
      shown.drop 6 = p.lines.map (·.text) ++
        (if 0 < p.remaining then
          [[], "... and ".toList ++ Text.ofNat p.remaining ++ " more lines".toList]
        else []) ∧
      ((Text.lines t).length ≤ limit → Text.joinLines (shown.drop 6) = t) := by
  intro p
  refine ⟨⟨Preview.length_lines t limit, Preview.map_text_lines t limit,
    fun line hline => Preview.kind_eq_classify hline, Preview.lines_add_remaining t limit⟩,
    fun more hmore => Preview.lines_isPrefix t hmore, fun path bytes hpath => ?_⟩
  have hlines : Text.lines (preview false path bytes p) =
      previewHead false path bytes ++ (p.lines.map (·.text) ++ previewFoot false p.remaining) := by
    rw [lines_preview_off hpath bytes fun line => Preview.no_feed_of_mem_lines, List.append_assoc]
  have hhead : (previewHead false path bytes).length = 6 := rfl
  rw [hlines]
  intro shown
  have htake : shown.take 6 = previewHead false path bytes := List.take_left' hhead
  have hdrop : shown.drop 6 = p.lines.map (·.text) ++ previewFoot false p.remaining :=
    List.drop_left' hhead
  rw [htake, hdrop]
  refine ⟨rfl, by rw [previewFoot_off], fun hroom => ?_⟩
  -- With room for all lines none is left out, so nothing stands below them.
  have hremaining : p.remaining = 0 := Nat.sub_eq_zero_of_le hroom
  rw [hremaining, Preview.map_text_lines, List.take_of_length_le hroom, previewFoot, if_pos rfl,
    List.append_nil, Text.joinLines_lines]

/-- Two lines of a text that ends in a line feed, and the whole of it with room for more. -/
theorem preview_shows_first_lines_of_list :
    let t := "- a\n\n# b\n".toList
    let p := Preview.ofText t 2
    let whole := Text.lines (preview false "a.md".toList 9 (Preview.ofText t 7))
    p.lines <+: (Preview.ofText t 7).lines ∧ '\n' ∉ "a.md".toList ∧
      (Text.lines (preview false "a.md".toList 9 p)).drop 6 =
        ["- a".toList, [], [], "... and 2 more lines".toList] ∧
      Text.joinLines (whole.drop 6) = t := by
  intro t p whole
  have hpath : '\n' ∉ "a.md".toList := by decide
  obtain ⟨-, hinitial, hshown⟩ := preview_shows_first_lines t 2
  obtain ⟨-, -, hwhole⟩ := preview_shows_first_lines t 7
  refine ⟨hinitial 7 (by decide), hpath, ?_, (hwhole "a.md".toList 9 hpath).2.2 (by decide)⟩
  rw [(hshown "a.md".toList 9 hpath).2.1]
  decide

end Display
end Tagdown
