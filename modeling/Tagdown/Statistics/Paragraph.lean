/-
  Tagdown.Statistics.Paragraph

  Paragraphs: the pieces of a text between its breaks that hold more than
  padding. A break reaches from a line feed over blanks to the last line feed
  that is reached that way.

  Main statement: `afterLastFeed?_length_lt`, a break takes characters.
-/

import Tagdown.Text.Blank

namespace Tagdown
namespace Paragraph

/-- What follows the last line feed among the blanks that open the text. -/
def afterLastFeed? : Text → Option Text
  | [] => none
  | c :: rest =>
    if Text.isBlank c then
      match afterLastFeed? rest with
      | some after => some after
      | none => if c = '\n' then some rest else none
    else none

theorem afterLastFeed?_length_lt {t after : Text} (h : afterLastFeed? t = some after) :
    after.length < t.length := by
  induction t generalizing after with
  | nil => simp [afterLastFeed?] at h
  | cons c rest ih =>
    unfold afterLastFeed? at h
    split at h
    · split at h
      · rename_i later hl
        have := ih hl
        simp only [Option.some.injEq] at h
        subst h
        simp only [List.length_cons]
        omega
      · split at h
        · simp only [Option.some.injEq] at h
          simp [h]
        · simp at h
    · simp at h

/-- What follows a break that starts with the character `c`. -/
def afterBreak? (c : Char) (rest : Text) : Option Text :=
  if c = '\n' then afterLastFeed? rest else none

theorem afterBreak?_length_lt {c : Char} {rest after : Text}
    (h : afterBreak? c rest = some after) : after.length < rest.length := by
  unfold afterBreak? at h
  split at h
  · exact afterLastFeed?_length_lt h
  · simp at h

/-- The pieces of a text between its breaks. -/
def pieces : Text → List Text
  | [] => [[]]
  | c :: rest =>
    match _h : afterBreak? c rest with
    | some after => [] :: pieces after
    | none => (pieces rest).modifyHead (c :: ·)
termination_by t => t.length
decreasing_by
  · have := afterBreak?_length_lt _h
    simp only [List.length_cons]
    omega
  · simp

/-- The text holds more than padding. -/
def isSolid (t : Text) : Bool :=
  !(Text.trimLine t).isEmpty

/-- The number of paragraphs of a text. -/
def count (t : Text) : Nat :=
  (pieces t).countP isSolid

end Paragraph
end Tagdown
