/-
  Tagdown.Proofs.World.Effect

  The effect of a script in a machine: how it ends, what it writes and the files it
  leaves. Scripts that follow each other have effects that follow each other
  (`Machine.perform_bind`), so the effect of a program is put together from those of its
  parts, and a run is the effect of its script (`Machine.run_eq`).
-/

import Tagdown.World.Machine

namespace Tagdown

variable {α β : Type}

/-- What a script does in a machine. -/
structure Effect (α : Type) where
  /-- The value at the end, or the code of an exit before it. -/
  ending : Except Nat α
  out : Text
  err : Text
  files : FileTree

namespace Effect

/-- The effect of a script that wrote `out` and `err` before. -/
def after (out err : Text) (e : Effect α) : Effect α :=
  { e with out := out ++ e.out, err := err ++ e.err }

@[simp] theorem after_ending (out err : Text) (e : Effect α) : (e.after out err).ending = e.ending :=
  rfl

@[simp] theorem after_out (out err : Text) (e : Effect α) : (e.after out err).out = out ++ e.out :=
  rfl

@[simp] theorem after_err (out err : Text) (e : Effect α) : (e.after out err).err = err ++ e.err :=
  rfl

@[simp] theorem after_files (out err : Text) (e : Effect α) : (e.after out err).files = e.files :=
  rfl

@[simp] theorem after_nil (e : Effect α) : e.after [] [] = e :=
  rfl

@[simp] theorem after_after (out err out' err' : Text) (e : Effect α) :
    (e.after out err).after out' err' = e.after (out' ++ out) (err' ++ err) := by
  simp only [after, List.append_assoc]

/-- The effect, and behind its value that of the script that goes on. -/
def andThen (e : Effect α) (f : α → FileTree → Effect β) : Effect β :=
  match e.ending with
  | .ok a => (f a e.files).after e.out e.err
  | .error code => { e with ending := .error code }

theorem andThen_after (out err : Text) (e : Effect α) (f : α → FileTree → Effect β) :
    (e.after out err).andThen f = (e.andThen f).after out err := by
  rw [andThen, andThen, after_ending]
  cases e.ending with
  | error code => rfl
  | ok a => exact (after_after _ _ _ _ _).symm

/-- The code that a run with this effect exits with. -/
def code (e : Effect Unit) : Nat :=
  match e.ending with
  | .ok () => 0
  | .error code => code

end Effect

namespace Machine

open Script (forEach printLine complain report fail)

variable {m : Machine} {s : Script α} {f : α → Script β}

/-- What the machine writes of a reported step. -/
def traceText (m : Machine) (source : StepSource) (t : Text) : Text :=
  if m.traced source t then traceLine t else []

/-- The machine with other files. -/
def withFiles (m : Machine) (files : FileTree) : Machine :=
  { m with files := files }

/-- The effect of a script. -/
def perform (m : Machine) : Script α → Effect α
  | .done a => ⟨.ok a, [], [], m.files⟩
  | .exit code => ⟨.error code, [], [], m.files⟩
  | .out t next => (m.perform next).after t []
  | .err t next => (m.perform next).after [] t
  | .trace source t next => (m.perform next).after [] (m.traceText source t)
  | .readFile path next => m.perform (next (m.files.read path >>= decodeText))
  | .readInput next => m.perform (next (decodeText m.input))
  | .isFile path next => m.perform (next (m.files.isFile path))
  | .fileSize path next => m.perform (next ((m.files.read path).map ByteArray.size))
  | .writeFile path content next =>
    match m.files.write path (encodeText content) with
    | .ok files => (m.withFiles files).perform (next (.ok ()))
    | .error fault => m.perform (next (.error fault))
  | .now next => m.perform (next m.clock)
  | .isTerminal next => m.perform (next m.terminal)
  | .isStyled next => m.perform (next m.styled)

/-! ## Scripts that follow each other -/

theorem perform_bind (m : Machine) (s : Script α) (f : α → Script β) :
    m.perform (s.bind f) = (m.perform s).andThen fun a files => (m.withFiles files).perform (f a) := by
  induction s generalizing m with
  | done a => rfl
  | exit code => rfl
  | out t next ih => rw [Script.bind, perform, ih, perform, Effect.andThen_after]
  | err t next ih => rw [Script.bind, perform, ih, perform, Effect.andThen_after]
  | trace source t next ih => rw [Script.bind, perform, ih, perform, Effect.andThen_after]
  | readFile path next ih => exact ih _ m
  | readInput next ih => exact ih _ m
  | isFile path next ih => exact ih _ m
  | fileSize path next ih => exact ih _ m
  | writeFile path content next ih =>
    -- The script goes on in the files that the write leaves, so the machine has to vary.
    simp only [Script.bind, perform]
    cases m.files.write path (encodeText content) with
    | error fault => exact ih _ m
    | ok files => exact ih _ (m.withFiles files)
  | now next ih => exact ih _ m
  | isTerminal next ih => exact ih _ m
  | isStyled next ih => exact ih _ m

theorem perform_bind_of_ok {a : α} {out err : Text} {files : FileTree}
    (h : m.perform s = ⟨.ok a, out, err, files⟩) :
    m.perform (s >>= f) = ((m.withFiles files).perform (f a)).after out err := by
  show m.perform (s.bind f) = _
  rw [perform_bind, h]
  rfl

/-- A script that leaves the files as they are only writes in front of the next one. -/
theorem perform_bind_of_same {a : α} {out err : Text}
    (h : m.perform s = ⟨.ok a, out, err, m.files⟩) :
    m.perform (s >>= f) = (m.perform (f a)).after out err :=
  perform_bind_of_ok h

theorem perform_bind_of_error {code : Nat} {out err : Text} {files : FileTree}
    (h : m.perform s = ⟨.error code, out, err, files⟩) :
    m.perform (s >>= f) = ⟨.error code, out, err, files⟩ := by
  show m.perform (s.bind f) = _
  rw [perform_bind, h]
  rfl

@[simp] theorem perform_pure (m : Machine) (a : α) : m.perform (pure a) = ⟨.ok a, [], [], m.files⟩ :=
  rfl

@[simp] theorem perform_printLine (m : Machine) (t : Text) :
    m.perform (printLine t) = ⟨.ok (), t ++ ['\n'], [], m.files⟩ := by
  simp [printLine, perform, Effect.after]

@[simp] theorem perform_complain (m : Machine) (t : Text) :
    m.perform (complain t) = ⟨.ok (), [], t ++ ['\n'], m.files⟩ := by
  simp [complain, perform, Effect.after]

@[simp] theorem perform_report (m : Machine) (source : StepSource) (t : Text) :
    m.perform (report source t) = ⟨.ok (), [], m.traceText source t, m.files⟩ := by
  simp [report, perform, Effect.after]

@[simp] theorem perform_fail (m : Machine) (t : Text) :
    m.perform (fail t : Script α) = ⟨.error 1, [], t ++ ['\n'], m.files⟩ := by
  simp [fail, perform, Effect.after]

/-- A list is gone through in order. What is written for its items adds up. -/
theorem perform_forEach {γ : Type} {f : γ → Script Unit} {written : γ → Text} (items : List γ)
    (h : ∀ c ∈ items, m.perform (f c) = ⟨.ok (), [], written c, m.files⟩) :
    m.perform (forEach f items) = ⟨.ok (), [], items.flatMap written, m.files⟩ := by
  induction items with
  | nil => rfl
  | cons c rest ih =>
    have hrest := ih fun d hd => h d (List.mem_cons_of_mem c hd)
    have hstep := perform_bind_of_ok (f := fun _ => forEach f rest) (h c List.mem_cons_self)
    exact hstep.trans (congrArg (Effect.after [] (written c)) hrest)

/-! ## Logs -/

/-- The text is what the machine writes of some reported steps. -/
def IsLog (m : Machine) (t : Text) : Prop :=
  ∃ steps : List (StepSource × Text), t = steps.flatMap fun (source, step) => m.traceText source step

theorem isLog_traceText (m : Machine) (source : StepSource) (t : Text) :
    m.IsLog (m.traceText source t) :=
  ⟨[(source, t)], by simp⟩

theorem isLog_flatMap (m : Machine) (source : StepSource) (steps : List Text) :
    m.IsLog (steps.flatMap (m.traceText source)) :=
  ⟨steps.map (source, ·), by simp [List.flatMap_map]⟩

theorem IsLog.append {t u : Text} (ht : m.IsLog t) (hu : m.IsLog u) : m.IsLog (t ++ u) := by
  obtain ⟨steps, rfl⟩ := ht
  obtain ⟨more, rfl⟩ := hu
  exact ⟨steps ++ more, List.flatMap_append.symm⟩

/-- Where no step is traced, nothing is written of them. -/
theorem IsLog.eq_nil {t : Text} (h : m.IsLog t) (hquiet : ∀ source step, m.traced source step = false) :
    t = [] := by
  obtain ⟨steps, rfl⟩ := h
  simp [traceText, hquiet]

/-! ## Runs -/

theorem runFrom_eq (m : Machine) (out err : Text) (s : Script Unit) :
    m.runFrom out err s =
      ⟨(m.perform s).code, out ++ (m.perform s).out, err ++ (m.perform s).err, (m.perform s).files⟩ := by
  induction s generalizing m out err with
  | done a => simp [runFrom, perform, Effect.code]
  | exit code => simp [runFrom, perform, Effect.code]
  | out t next ih => simp [runFrom, perform, ih, Effect.code]
  | err t next ih => simp [runFrom, perform, ih, Effect.code]
  | trace source t next ih =>
    rw [runFrom, ih, perform]
    by_cases h : m.traced source t <;> simp [traceText, h, Effect.code]
  | readFile path next ih => exact ih _ m out err
  | readInput next ih => exact ih _ m out err
  | isFile path next ih => exact ih _ m out err
  | fileSize path next ih => exact ih _ m out err
  | writeFile path content next ih =>
    -- As above, the run goes on in the machine with the new files.
    simp only [runFrom, perform]
    cases m.files.write path (encodeText content) with
    | error fault => exact ih _ m out err
    | ok files => exact ih _ (m.withFiles files) out err
  | now next ih => exact ih _ m out err
  | isTerminal next ih => exact ih _ m out err
  | isStyled next ih => exact ih _ m out err

/-- A run leaves the effect of its script. -/
theorem run_eq (m : Machine) (s : Script Unit) :
    m.run s = ⟨(m.perform s).code, (m.perform s).out, (m.perform s).err, (m.perform s).files⟩ :=
  runFrom_eq m [] [] s

@[simp] theorem run_err (m : Machine) (s : Script Unit) : (m.run s).err = (m.perform s).err :=
  congrArg Outcome.err (m.run_eq s)

end Machine
end Tagdown
