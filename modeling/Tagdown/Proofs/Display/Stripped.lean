/-
  Tagdown.Proofs.Display.Stripped

  What is shown, without the sequences that switch styles (`Style.strip`). A text shows another
  one (`Style.Shows`) if the other one is what is left of it, whatever follows. Bare texts show
  themselves, painted ones show what was painted, and a line shows what is left of it, since no
  sequence goes on behind a line feed. What is put together from such pieces shows what is put
  together from what they show; so all that is shown with colours shows what it is without.
-/

import Mathlib.Data.List.Forall2
import Tagdown.Display.Guide
import Tagdown.Proofs.Display.Lines
import Tagdown.Proofs.Document.Bare
import Tagdown.Proofs.Matches
import Tagdown.Proofs.Tag.Alias

namespace Tagdown
namespace Style

open Text (IsBare)

/-! ## Sequences -/

/-- The character may stand between the bracket and the letter of a sequence. -/
def isParameter (c : Char) : Bool :=
  c.isDigit || c == ';'

/-- What follows a sequence that switches styles at the start of the text. -/
def afterSequence? : Text → Option Text
  | '\x1b' :: '[' :: rest =>
    match rest.dropWhile isParameter with
    | 'm' :: rest => some rest
    | _ => none
  | _ => none

theorem afterSequence?_length_lt {t rest : Text} (h : afterSequence? t = some rest) :
    rest.length < t.length := by
  unfold afterSequence? at h
  split at h
  · rename_i parameters
    split at h
    · rename_i hdrop
      cases h
      have hle := (List.dropWhile_suffix isParameter (l := parameters)).length_le
      rw [hdrop] at hle
      simp only [List.length_cons] at hle ⊢
      omega
    · cases h
  · cases h

/-- The sequences that switch styles: an escape character and a bracket, digits and semicolons,
    and the letter `m`. -/
def sequence : Pattern :=
  ⟨afterSequence?, afterSequence?_length_lt⟩

/-- The text without the sequences that switch styles. -/
def strip (t : Text) : Text :=
  sequence.erase t

variable {t u plain other : Text} {ts plains : List Text}

@[simp] theorem strip_nil : strip [] = [] := by
  rw [strip, Pattern.erase]

theorem sequence_rest?_of_ne {c : Char} (hc : c ≠ escape) (rest : Text) :
    sequence.rest? (c :: rest) = none := by
  show afterSequence? (c :: rest) = none
  unfold afterSequence?
  split
  · rename_i heq
    exact absurd (List.cons.inj heq).1 hc
  · rfl

/-- A line feed stands in no sequence. -/
theorem stopsBefore_feed (rest : Text) : sequence.StopsBefore ('\n' :: rest) := by
  intro t
  show afterSequence? (t ++ '\n' :: rest) = (afterSequence? t).map (· ++ '\n' :: rest)
  by_cases hopen : ∃ parameters, t = '\x1b' :: '[' :: parameters
  · -- A sequence has begun. It has no line feed, so it ends in the first text or not at all.
    obtain ⟨parameters, rfl⟩ := hopen
    simp only [List.cons_append, afterSequence?]
    rw [List.dropWhile_append]
    cases hdrop : parameters.dropWhile isParameter with
    | nil => rfl
    | cons c behind =>
      by_cases hc : c = 'm'
      · subst hc
        rfl
      · simp [hc]
  · have hnone : afterSequence? t = none := by
      unfold afterSequence?
      split
      · exact absurd ⟨_, rfl⟩ hopen
      · rfl
    rw [hnone]
    unfold afterSequence?
    split
    · rename_i parameters heq
      -- The escape character and the bracket would both stand in the first text.
      match t, heq with
      | [], heq => cases heq
      | [_], heq => cases heq
      | _ :: _ :: _, heq =>
        cases heq
        exact absurd ⟨_, rfl⟩ hopen
    · rfl

/-! ## What a text shows -/

/-- Without its sequences the text is `plain`, and none of them goes on behind it. -/
def Shows (t plain : Text) : Prop :=
  ∀ rest, strip (t ++ rest) = plain ++ strip rest

theorem Shows.strip_eq (h : Shows t plain) : strip t = plain := by
  simpa using h []

theorem Shows.append (ht : Shows t plain) (hu : Shows u other) : Shows (t ++ u) (plain ++ other) := by
  intro rest
  rw [List.append_assoc, ht, hu, List.append_assoc]

theorem shows_of_isBare (h : IsBare t) : Shows t t := by
  intro rest
  apply Pattern.erase_append_of_none
  intro c hc
  exact sequence_rest?_of_ne fun heq => h (heq ▸ hc)

theorem Shows.cons (h : Shows t plain) {c : Char} (hc : c ≠ escape) : Shows (c :: t) (c :: plain) :=
  (shows_of_isBare (IsBare.cons List.not_mem_nil hc)).append h

/-- Whatever stands in a line, the next one is shown as if it stood alone. -/
theorem shows_line (t : Text) : Shows (t ++ ['\n']) (strip t ++ ['\n']) := by
  have hfeed : ∀ rest, strip ('\n' :: rest) = '\n' :: strip rest := fun rest =>
    Pattern.erase_of_none (sequence_rest?_of_ne (by decide) rest)
  intro rest
  have hsplit : strip (t ++ '\n' :: rest) = strip t ++ strip ('\n' :: rest) :=
    (stopsBefore_feed rest).erase_append t
  rw [List.append_assoc, List.append_assoc, List.singleton_append, List.singleton_append, hsplit, hfeed]

theorem Shows.line (h : Shows t plain) : Shows (t ++ ['\n']) (plain ++ ['\n']) :=
  h.append (shows_of_isBare (by decide))

/-! ## Painted texts -/

theorem shows_opening (s : Style) : Shows s.opening [] := by
  -- What opens a style is one sequence, whatever follows it.
  have hopening : ∀ rest, sequence.rest? (s.opening ++ rest) = some rest := by
    intro rest
    cases s with
    | bold | dim => rfl
    | coloured c | boldColoured c => cases c <;> rfl
  intro rest
  exact Pattern.erase_of_some (hopening rest)

theorem shows_reset : Shows reset [] :=
  fun _ => Pattern.erase_of_some rfl

theorem reopen_of_isBare (again : Text) (h : IsBare t) : reopen again t = t := by
  fun_induction reopen again t with
  | case1 => rfl
  | case2 rest ih => exact absurd List.mem_cons_self h
  | case3 c rest _ ih => rw [ih (h.of_subset (List.subset_cons_self c rest))]

/-- With colours or without, a bare text is shown as it is. -/
theorem shows_paint (on : Bool) (s : Style) (h : IsBare t) : Shows (paint on s t) t := by
  cases on with
  | false => exact shows_of_isBare h
  | true =>
    have hpaint : paint true s t = s.opening ++ t ++ reset := by
      rw [paint, if_pos rfl, reopen_of_isBare s.opening h]
    have hshows := ((shows_opening s).append (shows_of_isBare h)).append shows_reset
    rwa [List.nil_append, List.append_nil, ← hpaint] at hshows

/-! ## Lines -/

theorem shows_joinLines (h : List.Forall₂ Shows ts plains) :
    Shows (Text.joinLines ts) (Text.joinLines plains) := by
  induction h with
  | nil => exact shows_of_isBare (by decide)
  | @cons t plain ts plains ht hts ih =>
    cases hts with
    | nil => simpa [Text.joinLines] using ht
    | cons _ _ =>
      -- The line feed between two lines is shown as it is.
      rw [Text.joinLines_cons_cons, Text.joinLines_cons_cons]
      exact ht.append (ih.cons (by decide))

theorem forall₂_shows_map {α : Type} {f g : α → Text} {xs : List α} (h : ∀ x ∈ xs, Shows (f x) (g x)) :
    List.Forall₂ Shows (xs.map f) (xs.map g) :=
  List.forall₂_map_left_iff.mpr (List.forall₂_map_right_iff.mpr (List.forall₂_same.mpr h))

theorem forall₂_shows_of_isBare (h : ∀ t ∈ ts, IsBare t) : List.Forall₂ Shows ts ts :=
  List.forall₂_same.mpr fun t ht => shows_of_isBare (h t ht)

/-- If each line is shown as it is, so is the text. -/
theorem shows_lines {f : Text → Text} (hf : ∀ line, IsBare line → Shows (f line) line) (h : IsBare t) :
    Shows (Text.joinLines ((Text.lines t).map f)) t := by
  have hlines := shows_joinLines (forall₂_shows_map (f := f) (g := id)
    fun line hline => hf line (h.of_subset (Text.subset_of_mem_lines hline)))
  rwa [List.map_id, Text.joinLines_lines] at hlines

end Style

/-! ## What is shown on a terminal -/

namespace Display

open Style (Shows paint shows_paint shows_of_isBare)
open Text (IsBare)

variable {t : Text}

theorem shows_paintSome (on : Bool) (style : Option Style) (h : IsBare t) :
    Shows (paintSome on style t) t := by
  cases style with
  | none => exact shows_of_isBare h
  | some style => exact shows_paint on style h

theorem shows_markdown (on : Bool) (h : IsBare t) : Shows (markdown on t) t :=
  Style.shows_lines (fun _ => shows_paintSome on _) h

theorem shows_report (on : Bool) (h : IsBare t) : Shows (report on t) t := by
  apply Style.shows_lines _ h
  intro line hline
  split
  · exact shows_paint on .bold hline
  · exact shows_of_isBare hline

theorem isBare_hint {fault : LineFault} (h : fault.IsBare) : IsBare (hint fault) := by
  have hknown := h.known
  cases fault with
  | malformed line =>
    show IsBare "   Expected format: Title1(Your Content) or AAA(Your Content)".toList
    decide
  | unknownName name known =>
    exact (show IsBare "   Supported: ".toList by decide).append
      (Text.isBare_intercalate (by decide) hknown)

theorem shows_diagnostic (on : Bool) {d : Diagnostic} (h : d.fault.IsBare) :
    Shows (diagnostic on d) (diagnostic false d) := by
  have hhead : IsBare ("Line ".toList ++ Text.ofNat d.lineNumber ++ ": ".toList ++ d.fault.headline) :=
    (((show IsBare "Line ".toList by decide).append (Text.isBare_ofNat _)).append (by decide)).append
      h.headline
  exact (shows_paint on _ hhead).append ((shows_paint on _ (isBare_hint h)).cons (by decide))

theorem isBare_kilobytes (bytes : Nat) : IsBare (kilobytes bytes) :=
  (Binary64.isBare_toFixed 2 _).append (by decide)

theorem shows_previewHead (on : Bool) {path : Text} (h : IsBare path) (bytes : Nat) :
    List.Forall₂ Shows (previewHead on path bytes) (previewHead false path bytes) := by
  refine .cons (shows_paint on _ (by decide)) (.cons ?path (.cons ?size ?rest))
  case path => exact (shows_of_isBare (by decide)).append (shows_paint on _ h)
  case size => exact (shows_of_isBare (by decide)).append (shows_paint on _ (isBare_kilobytes bytes))
  case rest =>
    exact .cons (shows_of_isBare (by decide)) (.cons (shows_paint on _ (by decide))
      (.cons (shows_of_isBare (by decide)) .nil))

theorem shows_previewFoot (on : Bool) (remaining : Nat) :
    List.Forall₂ Shows (previewFoot on remaining) (previewFoot false remaining) := by
  have hmore : IsBare ("... and ".toList ++ Text.ofNat remaining ++ " more lines".toList) :=
    ((show IsBare "... and ".toList by decide).append (Text.isBare_ofNat _)).append (by decide)
  unfold previewFoot
  split
  · exact .nil
  · exact .cons (shows_of_isBare (by decide)) (.cons (shows_paint on _ hmore) .nil)

theorem shows_preview (on : Bool) {path : Text} (hpath : IsBare path) (bytes : Nat) {p : Preview}
    (hlines : ∀ line ∈ p.lines, IsBare line.text) :
    Shows (preview on path bytes p) (preview false path bytes p) := by
  apply Style.shows_joinLines
  have hmiddle : List.Forall₂ Shows
      (p.lines.map fun line => paintSome on (previewStyle? line.kind) line.text)
      (p.lines.map fun line => paintSome false (previewStyle? line.kind) line.text) := by
    apply Style.forall₂_shows_map
    intro line hline
    rw [paintSome_off]
    exact shows_paintSome on _ (hlines line hline)
  exact List.rel_append (List.rel_append (shows_previewHead on hpath bytes) hmiddle)
    (shows_previewFoot on p.remaining)

end Display

/-! ## The guide -/

/-- The texts of a group have no escape character. -/
structure AliasGroup.IsBare (group : AliasGroup) : Prop where
  marker : Text.IsBare group.marker
  names : ∀ name ∈ group.names, Text.IsBare name

theorem TagTable.isBare_of_mem_aliases {table : TagTable} (h : table.IsBare) :
    ∀ group ∈ table.aliases, group.IsBare := by
  intro group hgroup
  have htag : ∀ {name}, name ∈ group.names → ⟨name, group.marker⟩ ∈ table.tags :=
    (mem_names_iff_of_mem_aliases hgroup).mp
  -- A group has some name, so its marker is one of the table.
  obtain ⟨name, hname⟩ := List.exists_mem_of_ne_nil _ (names_ne_nil_of_mem_aliases hgroup)
  exact ⟨h _ (htag hname), fun name hname => isBare_name (htag hname)⟩

namespace Display

open Style (Shows paint shows_paint shows_of_isBare)
open Text (IsBare)

theorem isBare_describe {marker : Text} (h : IsBare marker) : IsBare (Tag.describe marker) := by
  unfold Tag.describe
  split
  · decide
  split
  · decide
  split
  · exact (show IsBare "Heading ".toList by decide).append (Text.isBare_ofNat _)
  · exact h

theorem shows_guideRow (on : Bool) {group : AliasGroup} (h : group.IsBare) :
    Shows (guideRow on group) (guideRow false group) := by
  have hnames : IsBare ("   ".toList ++
      Text.padEnd 24 (List.intercalate ", ".toList group.names)) :=
    (show IsBare "   ".toList by decide).append
      ((Text.isBare_intercalate (by decide) h.names).padEnd 24)
  have hsample := shows_paint on (.coloured .green)
    (h.marker.append (by decide : IsBare " text".toList))
  have hkind := shows_paint on .dim
    (((isBare_describe h.marker).cons (by decide : '(' ≠ Style.escape)).append
      (by decide : IsBare [')']))
  exact ((shows_of_isBare hnames).append (hsample.cons (by decide))).append (hkind.cons (by decide))

theorem isBare_of_guideExample? {group : AliasGroup} (h : group.IsBare) {line : Text}
    (hline : guideExample? group = some line) : IsBare line := by
  obtain ⟨name, hname, rfl⟩ := Option.map_eq_some_iff.mp hline
  have hbare := h.names name (List.mem_of_mem_head? hname)
  exact (show IsBare "   ".toList by decide).append
    ((hbare.append (by decide : IsBare "(Example".toList)).append (by decide))

theorem shows_guide (on : Bool) {table : TagTable} (h : table.IsBare) :
    Shows (guide on table) (guide false table) := by
  have hgroups := TagTable.isBare_of_mem_aliases h
  have hexamples : ∀ line ∈ table.aliases.filterMap guideExample?, IsBare line := by
    intro line hline
    obtain ⟨group, hgroup, hline⟩ := List.mem_filterMap.mp hline
    exact isBare_of_guideExample? (hgroups group hgroup) hline
  apply Style.shows_joinLines
  refine List.rel_append (List.rel_append ?head ?rows) ?foot
  case head =>
    exact .cons (shows_paint on _ (by decide)) (Style.forall₂_shows_of_isBare (by decide))
  case rows => exact Style.forall₂_shows_map fun group hgroup => shows_guideRow on (hgroups group hgroup)
  case foot =>
    split
    · exact .nil
    · exact .cons (shows_of_isBare (by decide)) (.cons (shows_paint on _ (by decide))
        (Style.forall₂_shows_of_isBare hexamples))

end Display
end Tagdown
