/-
  Tagdown.Proofs.World.Restyled

  Two scripts that do the same in a machine, but for the styles of what they write
  (`Machine.Restyles`): they end alike, leave the same files and show the same. What they write
  to files has no escape characters. Scripts that are put together from such pairs are such a
  pair again (`Restyles.bind`), so two runs of a program are compared piece by piece.
-/

import Tagdown.Proofs.Display.Stripped
import Tagdown.Proofs.World.Effect
import Tagdown.Proofs.World.FileTree

namespace Tagdown

open Text (IsBare)

/-! ## Texts that show the same -/

/-- The two texts show the same. -/
def Style.SameShown (t u : Text) : Prop :=
  ∃ plain, Shows t plain ∧ Shows u plain

namespace Style.SameShown

variable {t t' u u' : Text}

theorem of_isBare (h : IsBare t) : SameShown t t :=
  ⟨t, shows_of_isBare h, shows_of_isBare h⟩

theorem append (ht : SameShown t t') (hu : SameShown u u') : SameShown (t ++ u) (t' ++ u') := by
  obtain ⟨plain, h, h'⟩ := ht
  obtain ⟨other, hu, hu'⟩ := hu
  exact ⟨plain ++ other, h.append hu, h'.append hu'⟩

/-- A line shows what it shows, whatever stands in it. -/
theorem line (t : Text) : SameShown (t ++ ['\n']) (t ++ ['\n']) :=
  ⟨_, shows_line t, shows_line t⟩

/-- Two texts that show the same do so as lines. -/
theorem of_shows {plain : Text} (h : Shows t plain) (h' : Shows u plain) :
    SameShown (t ++ ['\n']) (u ++ ['\n']) :=
  ⟨_, h.line, h'.line⟩

theorem strip_eq (h : SameShown t u) : strip t = strip u := by
  obtain ⟨plain, ht, hu⟩ := h
  rw [ht.strip_eq, hu.strip_eq]

end Style.SameShown

/-- A reported step is written without escape characters. -/
theorem Machine.isBare_traceLine (t : Text) : IsBare (traceLine t) := by
  have hkept : ∀ {c : Char} {p : ControlSequence.Place} {suspended : Bool},
      p.keeps suspended c = true → c ≠ Style.escape := by
    rintro c p suspended hkeeps rfl
    cases p <;> cases suspended <;> exact absurd hkeeps (by decide)
  -- What is kept of a character depends on the place in a sequence, so all places at once.
  have hclean : ∀ (t : Text) (p : ControlSequence.Place) (suspended : Bool),
      IsBare (ControlSequence.cleanFrom p suspended t) := by
    intro t
    induction t with
    | nil => exact fun _ _ => List.not_mem_nil
    | cons c rest ih =>
      intro p suspended
      rw [ControlSequence.cleanFrom]
      split
      · rename_i hkeeps
        exact (ih _ _).cons (hkept hkeeps)
      · exact ih _ _
  exact hclean _ _ _

/-! ## Files that are written -/

namespace FileTree

/-- Every file was there before with the same bytes, or holds a text without escape characters. -/
def BareSince (before after : FileTree) : Prop :=
  ∀ place bytes, after.get? place = some (.file bytes) →
    before.get? place = some (.file bytes) ∨ ∃ t, IsBare t ∧ bytes = encodeText t

variable {before mid after : FileTree}

theorem BareSince.refl (files : FileTree) : files.BareSince files :=
  fun _ _ => .inl

theorem BareSince.trans (h : before.BareSince mid) (h' : mid.BareSince after) :
    before.BareSince after := by
  intro place bytes hplace
  rcases h' place bytes hplace with hmid | hbare
  · exact h place bytes hmid
  · exact .inr hbare

theorem bareSince_of_write {path content : Text} (hcontent : IsBare content)
    (h : before.write path (encodeText content) = .ok after) : before.BareSince after := by
  obtain ⟨target, -, -, hget⟩ := get?_of_write h
  intro place bytes hplace
  rw [hget] at hplace
  split at hplace
  · cases hplace
    exact .inr ⟨content, hcontent, rfl⟩
  · exact .inl hplace

end FileTree

/-! ## Effects and scripts -/

open Style (SameShown)

/-- The two effects are the same, but for the styles of what is written. -/
structure Effect.Restyles {α : Type} (before : FileTree) (e e' : Effect α) : Prop where
  ending : e.ending = e'.ending
  out : SameShown e.out e'.out
  err : SameShown e.err e'.err
  files : e.files = e'.files
  bare : before.BareSince e.files

theorem Style.sameShown_nil : SameShown [] [] :=
  .of_isBare List.not_mem_nil

namespace Machine

open Script (printLine complain report fail forEach)
open Style (sameShown_nil)

/-- The two scripts do the same in the machine, but for the styles of what they write. -/
def Restyles {α : Type} (m : Machine) (s s' : Script α) : Prop :=
  Effect.Restyles m.files (m.perform s) (m.perform s')

variable {α β γ : Type} {m : Machine} {s s' : Script α} {f f' : α → Script β}

/-- Scripts that do the same go on to do the same if what follows them does. -/
theorem Restyles.bind (h : m.Restyles s s')
    (hf : ∀ a, (m.perform s).ending = .ok a →
      (m.withFiles (m.perform s).files).Restyles (f a) (f' a)) :
    m.Restyles (s >>= f) (s' >>= f') := by
  have hending := h.ending
  cases hend : (m.perform s).ending with
  | error code =>
    -- Neither script goes on, so what would follow is not compared.
    have hs : m.perform (s >>= f) =
        ⟨.error code, (m.perform s).out, (m.perform s).err, (m.perform s).files⟩ :=
      perform_bind_of_error (by rw [← hend])
    have hs' : m.perform (s' >>= f') =
        ⟨.error code, (m.perform s').out, (m.perform s').err, (m.perform s').files⟩ :=
      perform_bind_of_error (by rw [← hend, hending])
    rw [Restyles, hs, hs']
    exact ⟨rfl, h.out, h.err, h.files, h.bare⟩
  | ok a =>
    have hs : m.perform (s >>= f) = ((m.withFiles (m.perform s).files).perform (f a)).after
        (m.perform s).out (m.perform s).err :=
      perform_bind_of_ok (by rw [← hend])
    have hs' : m.perform (s' >>= f') = ((m.withFiles (m.perform s).files).perform (f' a)).after
        (m.perform s').out (m.perform s').err :=
      perform_bind_of_ok (by rw [← hend, hending, h.files])
    have hnext := hf a hend
    rw [Restyles, hs, hs']
    exact ⟨hnext.ending, h.out.append hnext.out, h.err.append hnext.err, hnext.files,
      h.bare.trans hnext.bare⟩

/-- A script that only finds something out. -/
theorem restyles_answer {a : α} (h : m.perform s = ⟨.ok a, [], [], m.files⟩) : m.Restyles s s := by
  rw [Restyles, h]
  exact ⟨rfl, sameShown_nil, sameShown_nil, rfl, .refl m.files⟩

theorem restyles_pure (m : Machine) (a : α) : m.Restyles (pure a) (pure a) :=
  restyles_answer (perform_pure m a)

theorem restyles_report (m : Machine) (source : StepSource) (t : Text) :
    m.Restyles (report source t) (report source t) := by
  have htrace : IsBare (m.traceText source t) := by
    unfold traceText
    split
    · exact isBare_traceLine t
    · exact List.not_mem_nil
  rw [Restyles, perform_report]
  exact ⟨rfl, sameShown_nil, .of_isBare htrace, rfl, .refl m.files⟩

theorem restyles_printLine (m : Machine) {t t' : Text} (h : SameShown (t ++ ['\n']) (t' ++ ['\n'])) :
    m.Restyles (printLine t) (printLine t') := by
  rw [Restyles, perform_printLine, perform_printLine]
  exact ⟨rfl, h, sameShown_nil, rfl, .refl m.files⟩

theorem restyles_complain (m : Machine) {t t' : Text} (h : SameShown (t ++ ['\n']) (t' ++ ['\n'])) :
    m.Restyles (complain t) (complain t') := by
  rw [Restyles, perform_complain, perform_complain]
  exact ⟨rfl, sameShown_nil, h, rfl, .refl m.files⟩

theorem restyles_fail (m : Machine) (t : Text) : m.Restyles (fail t : Script α) (fail t) := by
  rw [Restyles, perform_fail]
  exact ⟨rfl, sameShown_nil, .line t, rfl, .refl m.files⟩

/-- Scripts for the items of a list, one after the other. -/
theorem restyles_forEach {g g' : γ → Script Unit} (items : List γ)
    (h : ∀ c ∈ items, ∀ m : Machine, m.Restyles (g c) (g' c)) (m : Machine) :
    m.Restyles (forEach g items) (forEach g' items) := by
  induction items generalizing m with
  | nil => exact restyles_pure m ()
  | cons c rest ih =>
    rw [List.forall_mem_cons] at h
    exact (h.1 m).bind fun _ _ => ih h.2 _

/-- A bare text that is written to a file, if it can be. -/
theorem restyles_writeFile (m : Machine) (path : Text) {content : Text} (h : IsBare content) :
    m.Restyles (.writeFile path content .done) (.writeFile path content .done) := by
  rw [Restyles, perform]
  cases hwrite : m.files.write path (encodeText content) with
  | error fault => exact ⟨rfl, sameShown_nil, sameShown_nil, rfl, .refl m.files⟩
  | ok later => exact ⟨rfl, sameShown_nil, sameShown_nil, rfl, FileTree.bareSince_of_write h hwrite⟩

end Machine
end Tagdown
