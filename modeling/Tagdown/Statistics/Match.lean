/-
  Tagdown.Statistics.Match

  Counting of matches that do not overlap, from left to right, and the two
  patterns that are counted: links `[label](target)` and images, which are
  links with an exclamation mark in front.
-/

import Tagdown.Text.Basic

namespace Tagdown

/-- A pattern: what is left of a text after a match at its start. A match takes
    at least one character. -/
structure Pattern where
  rest? : Text → Option Text
  length_lt : ∀ {t rest}, rest? t = some rest → rest.length < t.length

namespace Pattern

/-- The number of matches, each found as far to the left as possible and
    searched for after the one before. -/
def count (p : Pattern) : Text → Nat
  | [] => 0
  | c :: rest =>
    match h : p.rest? (c :: rest) with
    | some after => p.count after + 1
    | none => p.count rest
termination_by t => t.length
decreasing_by
  · exact p.length_lt h
  · simp

/-- What follows a link at the start of the text. The label ends at the first
    closing bracket and the target at the first closing parenthesis. -/
def afterLink? : Text → Option Text
  | '[' :: rest =>
    match Text.after? ']' rest with
    | some ('(' :: rest) => Text.after? ')' rest
    | _ => none
  | _ => none

theorem afterLink?_length_lt {t rest : Text} (h : afterLink? t = some rest) :
    rest.length < t.length := by
  unfold afterLink? at h
  split at h
  · rename_i label
    split at h
    · rename_i target ht
      have h1 := Text.after?_length_lt h
      have h2 := Text.after?_length_lt ht
      simp only [List.length_cons] at h2 ⊢
      omega
    · simp at h
  · simp at h

/-- The pattern of a link. -/
def link : Pattern :=
  ⟨afterLink?, afterLink?_length_lt⟩

/-- What follows an image at the start of the text. -/
def afterImage? : Text → Option Text
  | '!' :: rest => afterLink? rest
  | _ => none

theorem afterImage?_length_lt {t rest : Text} (h : afterImage? t = some rest) :
    rest.length < t.length := by
  unfold afterImage? at h
  split at h
  · have := afterLink?_length_lt h
    simp only [List.length_cons]
    omega
  · simp at h

/-- The pattern of an image. -/
def image : Pattern :=
  ⟨afterImage?, afterImage?_length_lt⟩

end Pattern
end Tagdown
