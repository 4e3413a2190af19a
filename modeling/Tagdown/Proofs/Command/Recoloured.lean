/-
  Tagdown.Proofs.Command.Recoloured

  Command lines that differ in the choice of colours only: the second has `--color always` in
  places where the first has `--color never` (`Recoloured`). What is read of them is alike at
  every step (`Reading.Alike`), so where the first is accepted the second is too, and asks for
  the same with other colours (`Invocation.read_recoloured`).
-/

import Mathlib.Data.List.Forall2
import Tagdown.Proofs.Command.Arguments

namespace Tagdown

/-- The second command line has `--color always` for some of the `--color never` of the first,
    as one word or as two. What follows two dashes is no option and stays as it is. -/
inductive Recoloured : List Text → List Text → Prop where
  | nil : Recoloured [] []
  | word {t : Text} {words words' : List Text} :
      t ≠ "--".toList → Recoloured words words' → Recoloured (t :: words) (t :: words')
  | operands (words : List Text) : Recoloured ("--".toList :: words) ("--".toList :: words)
  | apart {words words' : List Text} : Recoloured words words' →
      Recoloured ("--color".toList :: "never".toList :: words)
        ("--color".toList :: "always".toList :: words')
  | joined {words words' : List Text} : Recoloured words words' →
      Recoloured ("--color=never".toList :: words) ("--color=always".toList :: words')

/-! ## Steps that go along -/

section Follows

variable {ε α α' β β' : Type} {R : α → α' → Prop} {S : β → β' → Prop}

/-- Where the first step succeeds the second does too, with a related value. -/
def Follows (R : α → α' → Prop) (x : Except ε α) (y : Except ε α') : Prop :=
  ∀ a, x = .ok a → ∃ a', y = .ok a' ∧ R a a'

theorem Follows.ok {a : α} {a' : α'} (h : R a a') : Follows R (.ok a : Except ε α) (.ok a') := by
  intro b hb
  cases hb
  exact ⟨a', rfl, h⟩

theorem Follows.error (e : ε) (y : Except ε α') : Follows R (.error e) y :=
  nofun

theorem Follows.bind {x : Except ε α} {y : Except ε α'} {f : α → Except ε β} {g : α' → Except ε β'}
    (h : Follows R x y) (hf : ∀ a a', x = .ok a → R a a' → Follows S (f a) (g a')) :
    Follows S (x >>= f) (y >>= g) := by
  intro b hb
  obtain ⟨a, ha, hb⟩ := exists_of_bind_eq_ok hb
  obtain ⟨a', ha', hR⟩ := h a ha
  obtain ⟨b', hb', hS⟩ := hf a a' ha hR b hb
  exact ⟨b', by rw [ha']; exact hb', hS⟩

end Follows

/-! ## Readings that are alike -/

/-- The values are the same or, of the option for colours, `never` and `always`. -/
inductive CliOption.Recolours : CliOption → Text → Text → Prop where
  | same (o : CliOption) (value : Text) : Recolours o value value
  | switched : Recolours .color "never".toList "always".toList

theorem CliOption.Recolours.valueFault?_eq {o : CliOption} {value value' : Text}
    (h : o.Recolours value value') : o.valueFault? value = o.valueFault? value' := by
  cases h <;> rfl

theorem CliOption.Recolours.eq {o : CliOption} {value value' : Text} (h : o.Recolours value value')
    (ho : o ≠ .color) : value = value' := by
  cases h with
  | same => rfl
  | switched => exact absurd rfl ho

theorem CliOption.Recolours.or {o : CliOption} {first first' second second' : Option Text}
    (h : Option.Rel o.Recolours first first') (h' : Option.Rel o.Recolours second second') :
    Option.Rel o.Recolours (first.or second) (first'.or second') := by
  cases h with
  | none => exact h'
  | some hvalue => exact .some hvalue

namespace Reading

variable {r r' : Reading} {level : Level} {o : CliOption} {t value value' : Text}

/-- One option that is given in both. -/
inductive GivenAlike : CliOption × Text → CliOption × Text → Prop where
  | mk {o : CliOption} {value value' : Text} :
      o.Recolours value value' → GivenAlike (o, value) (o, value')

/-- The same option is in front in both, if there is one. -/
inductive PendingAlike : Option (CliOption × Option Text) → Option (CliOption × Option Text) → Prop where
  | none : PendingAlike none none
  | waiting (o : CliOption) : PendingAlike (some (o, .none)) (some (o, .none))
  | value {o : CliOption} {value value' : Text} :
      o.Recolours value value' → PendingAlike (some (o, some value)) (some (o, some value'))

/-- The readings differ in the values of the option for colours only. -/
structure Alike (r r' : Reading) : Prop where
  given : List.Forall₂ GivenAlike r.given r'.given
  input : r.input = r'.input
  pending : PendingAlike r.pending r'.pending
  escaped : r.escaped = r'.escaped

theorem alike_start : Alike start start :=
  ⟨.nil, rfl, .none, rfl⟩

/-- One more option is given in both. -/
theorem Alike.give (h : Alike r r') (hvalue : o.Recolours value value') :
    Alike { r with given := r.given ++ [(o, value)] } { r' with given := r'.given ++ [(o, value')] } :=
  ⟨List.rel_append h.given (.cons ⟨hvalue⟩ .nil), h.input, h.pending, h.escaped⟩

theorem Alike.withPending (h : Alike r r') {pending pending' : Option (CliOption × Option Text)}
    (hpending : PendingAlike pending pending') :
    Alike { r with pending := pending } { r' with pending := pending' } :=
  ⟨h.given, h.input, hpending, h.escaped⟩

theorem Alike.has_eq (h : Alike r r') (o : CliOption) : r.has o = r'.has o := by
  have hany : ∀ {xs ys : List (CliOption × Text)}, List.Forall₂ GivenAlike xs ys →
      xs.any (·.1 == o) = ys.any (·.1 == o) := by
    intro xs ys hxs
    induction hxs with
    | nil => rfl
    | cons hab _ ih =>
      obtain ⟨hvalue⟩ := hab
      rw [List.any_cons, List.any_cons, ih]
  exact hany h.given

theorem Alike.value? (h : Alike r r') (o : CliOption) :
    Option.Rel o.Recolours (r.value? o) (r'.value? o) := by
  have hfind : ∀ {xs ys : List (CliOption × Text)}, List.Forall₂ GivenAlike xs ys →
      Option.Rel o.Recolours ((xs.find? (·.1 == o)).map (·.2)) ((ys.find? (·.1 == o)).map (·.2)) := by
    intro xs ys hxs
    induction hxs with
    | nil => exact .none
    | cons hab _ ih =>
      obtain @⟨a, value, value', hvalue⟩ := hab
      rw [List.find?_cons, List.find?_cons]
      by_cases hao : a = o
      · subst hao
        simpa using Option.Rel.some hvalue
      · rw [beq_eq_false_iff_ne.mpr hao]
        exact ih
  exact hfind h.given

/-- Every other option has the same value in both. -/
theorem Alike.value?_eq (h : Alike r r') (ho : o ≠ .color) : r.value? o = r'.value? o := by
  have hrel := h.value? o
  generalize r.value? o = found at hrel ⊢
  generalize r'.value? o = found' at hrel ⊢
  cases hrel with
  | none => rfl
  | some hvalue => rw [hvalue.eq ho]

/-! ## One word -/

theorem Alike.add (h : Alike r r') (hvalue : o.Recolours value value') :
    Follows Alike (r.add o value) (r'.add o value') := by
  rw [Reading.add, Reading.add, h.has_eq o, hvalue.valueFault?_eq]
  split
  · exact .error _ _
  · split
    · exact .error _ _
    · exact .ok (h.give hvalue)

theorem Alike.settle (h : Alike r r') : Follows Alike r.settle r'.settle := by
  have hclear := h.withPending .none
  obtain ⟨given, input, pending, escaped⟩ := r
  obtain ⟨given', input', pending', escaped'⟩ := r'
  cases h.pending with
  | none => exact .ok h
  | waiting o => exact .error _ _
  | value hvalue => exact hclear.add hvalue

theorem Alike.addOption (h : Alike r r') {value value' : Option Text}
    (hvalue : Option.Rel o.Recolours value value') :
    Follows Alike (r.addOption o value) (r'.addOption o value') := by
  unfold Reading.addOption
  split
  · refine h.settle.bind fun s s' _ hs => ?_
    cases hvalue with
    | none => exact .ok (hs.withPending (.waiting o))
    | some hvalue => exact hs.add hvalue
  · cases hvalue with
    | some hvalue => exact .error _ _
    | none =>
      refine h.settle.bind fun s s' _ hs => ?_
      cases o with
      | help | version => exact .error _ _
      | _ => exact hs.add (.same _ [])

theorem Alike.addOperand (h : Alike r r') (level : Level) (t : Text) :
    Follows Alike (r.addOperand level t) (r'.addOperand level t) := by
  unfold Reading.addOperand
  rw [h.input]
  split
  · refine h.settle.bind fun s s' _ hs => ?_
    exact .ok ⟨hs.given, rfl, hs.pending, hs.escaped⟩
  · split <;> exact .error _ _

/-- An operand is the value of the option in front if that still wants one. -/
def addPlain (r : Reading) (level : Level) (t : Text) : Except Refusal Reading :=
  match r.pending with
  | some (o, none) => .ok { r with pending := some (o, some t) }
  | _ => r.addOperand level t

/-- What becomes of a word in front of two dashes. -/
theorem addWord_eq (level : Level) (t : Text) (hescaped : r.escaped = false) :
    r.addWord level t =
      match Word.ofText t with
      | .escape => .ok { r with escaped := true }
      | .long name value =>
        match level.long? name with
        | some o => r.addOption o value
        | none => .error (.unknownArgument t)
      | .short letter rest =>
        match level.short? letter with
        | some o => r.addOption o (if o.takesValue then Word.attached rest else none)
        | none => .error (.unknownArgument t)
      | .operand t => r.addPlain level t := by
  rw [addWord, if_neg (by simp [hescaped])]
  cases Word.ofText t with
  | escape | long | short => rfl
  | operand t =>
    unfold addPlain
    split <;> simp_all

theorem Alike.addPlain (h : Alike r r') (level : Level) (t : Text) :
    Follows Alike (r.addPlain level t) (r'.addPlain level t) := by
  have hoperand := h.addOperand level t
  obtain ⟨given, input, pending, escaped⟩ := r
  obtain ⟨given', input', pending', escaped'⟩ := r'
  cases h.pending with
  | none => exact hoperand
  | waiting o => exact .ok (h.withPending (.value (.same o t)))
  | value hvalue => exact hoperand

theorem Alike.addWord (h : Alike r r') (level : Level) (t : Text) :
    Follows Alike (r.addWord level t) (r'.addWord level t) := by
  have hsame : ∀ (o : CliOption) (value : Option Text), Option.Rel o.Recolours value value := by
    intro o value
    cases value with
    | none => exact .none
    | some value => exact .some (.same o value)
  cases hescaped : r.escaped with
  | true =>
    rw [Reading.addWord, if_pos hescaped, Reading.addWord, if_pos (h.escaped.symm.trans hescaped)]
    exact h.addOperand level t
  | false =>
    -- Both readings look up the same word at the same level, so they take the same branch.
    rw [addWord_eq level t hescaped, addWord_eq level t (h.escaped.symm.trans hescaped)]
    cases Word.ofText t with
    | escape => exact .ok ⟨h.given, h.input, h.pending, rfl⟩
    | long name value =>
      dsimp only
      cases level.long? name with
      | none => exact .error _ _
      | some o => exact h.addOption (hsame o value)
    | short letter rest =>
      dsimp only
      cases level.short? letter with
      | none => exact .error _ _
      | some o => exact h.addOption (hsame o _)
    | operand t => exact h.addPlain level t

theorem Alike.finish (h : Alike r r') (level : Level) (hasCommand : Bool) :
    Follows Alike (r.finish level hasCommand) (r'.finish level hasCommand) := by
  refine h.settle.bind fun s s' _ hs => ?_
  have hempty : s.given.isEmpty = s'.given.isEmpty := by
    rw [Bool.eq_iff_iff, List.isEmpty_iff_length_eq_zero, List.isEmpty_iff_length_eq_zero,
      hs.given.length_eq]
  -- All that the checks look at is the same in both readings.
  rw [hempty, hs.has_eq, hs.has_eq, hs.input]
  split
  · exact .error _ _
  split
  · exact .error _ _
  split
  · exact .error _ _
  · exact .ok hs

/-! ## All words -/

variable {words words' : List Text}

theorem Alike.ofWords_same (h : Alike r r') (level : Level) (words : List Text) :
    Follows Alike (ofWords level r words) (ofWords level r' words) := by
  induction words generalizing r r' with
  | nil => exact h.finish level false
  | cons t words ih => exact (h.addWord level t).bind fun s s' _ hs => ih hs

/-- The option for colours is one of every level. -/
theorem addWord_color (level : Level) (hescaped : r.escaped = false) {value : Option Text}
    (hword : Word.ofText t = .long "color".toList value) :
    r.addWord level t = r.addOption .color value := by
  have hname : level.long? "color".toList = some .color := by cases level <;> rfl
  rw [addWord_eq level t hescaped, hword]
  dsimp only
  rw [hname]

theorem ofText_color : Word.ofText "--color".toList = .long "color".toList none :=
  rfl

/-- The option for colours waits for its value, which the next word is. -/
theorem addWord_color_value (level : Level) {s : Reading} (hescaped : r.escaped = false)
    (hsettle : r.settle = .ok s) {value : Text} (hvalue : Word.ofText value = .operand value) :
    (r.addWord level "--color".toList >>= fun open' => open'.addWord level value) =
      .ok { s with pending := some (.color, some value) } := by
  have hopen : r.addOption .color none = r.settle >>= fun s => .ok { s with pending := some (.color, none) } :=
    rfl
  have hread : ∀ {w : Reading}, w.escaped = false → w.pending = some (.color, none) →
      w.addWord level value = .ok { w with pending := some (.color, some value) } := by
    intro w hw hpending
    rw [addWord_eq level value hw, hvalue]
    dsimp only
    rw [Reading.addPlain, hpending]
  have hs : s.escaped = false := (keeps_settle hsettle).escaped.trans hescaped
  rw [addWord_color level hescaped ofText_color, hopen, hsettle]
  exact hread hs rfl

theorem Alike.addApart (h : Alike r r') (level : Level) (hescaped : r.escaped = false) :
    Follows Alike
      (r.addWord level "--color".toList >>= fun s => s.addWord level "never".toList)
      (r'.addWord level "--color".toList >>= fun s => s.addWord level "always".toList) := by
  intro a ha
  obtain ⟨waiting, hwaiting, -⟩ := exists_of_bind_eq_ok ha
  rw [addWord_color level hescaped ofText_color] at hwaiting
  obtain ⟨s, hsettle, -⟩ := exists_of_bind_eq_ok hwaiting
  obtain ⟨s', hsettle', hs⟩ := h.settle s hsettle
  rw [addWord_color_value level hescaped hsettle rfl] at ha
  cases ha
  exact ⟨_, addWord_color_value level (h.escaped.symm.trans hescaped) hsettle' rfl,
    hs.withPending (.value .switched)⟩

theorem escaped_addApart {s : Reading}
    (h : (r.addWord level "--color".toList >>= fun s => s.addWord level "never".toList) = .ok s)
    (hescaped : r.escaped = false) : s.escaped = false := by
  obtain ⟨waiting, hwaiting, h⟩ := exists_of_bind_eq_ok h
  rw [escaped_addWord h (by decide), escaped_addWord hwaiting (by decide), hescaped]

theorem Alike.addJoined (h : Alike r r') (level : Level) (hescaped : r.escaped = false) :
    Follows Alike (r.addWord level "--color=never".toList)
      (r'.addWord level "--color=always".toList) := by
  have hnever : Word.ofText "--color=never".toList = .long "color".toList (some "never".toList) := rfl
  have halways : Word.ofText "--color=always".toList = .long "color".toList (some "always".toList) := rfl
  rw [addWord_color level hescaped hnever, addWord_color level (h.escaped.symm.trans hescaped) halways]
  exact h.addOption (.some .switched)

theorem ofWords_cons_cons (level : Level) (r : Reading) (t u : Text) (words : List Text) :
    Reading.ofWords level r (t :: u :: words) =
      (r.addWord level t >>= fun s => s.addWord level u) >>= fun s => Reading.ofWords level s words := by
  rw [Reading.ofWords]
  cases r.addWord level t <;> rfl

theorem Alike.ofWords (h : Alike r r') (level : Level) (hescaped : r.escaped = false)
    (hwords : Recoloured words words') :
    Follows Alike (ofWords level r words) (ofWords level r' words') := by
  -- Behind two dashes the option would be an operand, so none may have been read yet.
  induction hwords generalizing r r' with
  | nil => exact h.finish level false
  | word ht _ ih =>
    refine (h.addWord level _).bind fun s s' hs halike => ih halike ?_
    exact (escaped_addWord hs ht).trans hescaped
  | operands words => exact h.ofWords_same level _
  | apart _ ih =>
    rw [ofWords_cons_cons, ofWords_cons_cons]
    refine (h.addApart level hescaped).bind fun s s' hs halike => ih halike ?_
    exact escaped_addApart hs hescaped
  | joined _ ih =>
    refine (h.addJoined level hescaped).bind fun s s' hs halike => ih halike ?_
    exact (escaped_addWord hs (by decide)).trans hescaped

/-! ## Two levels -/

theorem Alike.expectsCommand_eq (h : Alike r r') : r.expectsCommand = r'.expectsCommand := by
  obtain ⟨given, input, pending, escaped⟩ := r
  obtain ⟨given', input', pending', escaped'⟩ := r'
  obtain rfl : escaped = escaped' := h.escaped
  cases h.pending <;> rfl

/-- The same command is read in both, if there is one. -/
inductive CommandsAlike : Option (Level × Reading) → Option (Level × Reading) → Prop where
  | none : CommandsAlike none none
  | some {level : Level} {r r' : Reading} :
      Alike r r' → CommandsAlike (some (level, r)) (some (level, r'))

/-- What is read of a whole command line. -/
def LinesAlike (a b : Reading × Option (Level × Reading)) : Prop :=
  Alike a.1 b.1 ∧ CommandsAlike a.2 b.2

/-- A word in front of the command either names it or is read like any other. -/
theorem Alike.ofLine_cons (h : Alike r r') (t : Text)
    (hcommand : ∀ level, Follows Alike (Reading.ofWords level start words)
      (Reading.ofWords level start words'))
    (hrest : ∀ s s', r.addWord .top t = .ok s → Alike s s' →
      Follows LinesAlike (ofLine s words) (ofLine s' words')) :
    Follows LinesAlike (ofLine r (t :: words)) (ofLine r' (t :: words')) := by
  rw [ofLine, ofLine, ← h.expectsCommand_eq]
  split
  · exact .error _ _
  -- Both expect a command or neither does, so both take the word in the same way.
  cases (if r.expectsCommand then Level.ofName? t else none) with
  | none => exact (h.addWord .top t).bind hrest
  | some level =>
    refine (hcommand level).bind fun command command' _ hcommand => ?_
    exact (h.finish .top true).bind fun s s' _ hs => .ok ⟨hs, .some hcommand⟩

theorem Alike.ofLine_same (h : Alike r r') (words : List Text) :
    Follows LinesAlike (ofLine r words) (ofLine r' words) := by
  induction words generalizing r r' with
  | nil => exact (h.finish .top false).bind fun s s' _ hs => .ok ⟨hs, .none⟩
  | cons t words ih =>
    exact h.ofLine_cons t (fun level => alike_start.ofWords_same level words) fun _ _ _ hs => ih hs

theorem ofLine_cons_of_option (r : Reading) (hname : Level.isCommandName t = false) (words : List Text) :
    ofLine r (t :: words) = r.addWord .top t >>= fun s => ofLine s words := by
  rw [Level.isCommandName, Bool.or_eq_false_iff] at hname
  have hnone : Level.ofName? t = none := by simpa using hname.1
  rw [ofLine, if_neg (by simpa using fun _ => hname.2), hnone, ite_self]

theorem Alike.ofLine (h : Alike r r') (hescaped : r.escaped = false) (hwords : Recoloured words words') :
    Follows LinesAlike (ofLine r words) (ofLine r' words') := by
  induction hwords generalizing r r' with
  | nil => exact h.ofLine_same []
  | word ht hwords ih =>
    refine h.ofLine_cons _ (fun level => alike_start.ofWords level rfl hwords) fun s s' hs halike => ?_
    exact ih halike ((escaped_addWord hs ht).trans hescaped)
  | operands words => exact h.ofLine_same _
  | @apart words words' _ ih =>
    -- None of the two words is the name of a command.
    have hread : ∀ (r : Reading) (value : Text) (words : List Text),
        Level.isCommandName value = false → ofLine r ("--color".toList :: value :: words) =
          (r.addWord .top "--color".toList >>= fun s => s.addWord .top value) >>= (ofLine · words) := by
      intro r value words hvalue
      rw [ofLine_cons_of_option r (by decide)]
      cases r.addWord .top "--color".toList with
      | error refusal => rfl
      | ok s => exact ofLine_cons_of_option s hvalue words
    rw [hread r _ _ (by decide), hread r' _ _ (by decide)]
    exact (h.addApart .top hescaped).bind fun s s' hs halike =>
      ih halike (escaped_addApart hs hescaped)
  | joined _ ih =>
    rw [ofLine_cons_of_option r (by decide), ofLine_cons_of_option r' (by decide)]
    refine (h.addJoined .top hescaped).bind fun s s' hs halike => ih halike ?_
    exact (escaped_addWord hs (by decide)).trans hescaped

theorem Alike.toCommand_eq (h : Alike r r') (level : Level) : r.toCommand level = r'.toCommand level := by
  cases level <;> simp only [toCommand, h.input, h.has_eq, h.value?_eq (by decide : CliOption.output ≠ _),
    h.value?_eq (by decide : CliOption.format ≠ _), h.value?_eq (by decide : CliOption.lines ≠ _)]

end Reading

/-! ## Whole command lines -/

namespace Invocation

variable {words words' : List Text} {i : Invocation}

/-- The colours are the same, or the first has none and the second has them. -/
def Coloured (colour colour' : ColourChoice) : Prop :=
  colour' = colour ∨ colour = .never ∧ colour' = .always

theorem coloured_of_values {value value' : Option Text}
    (h : Option.Rel CliOption.color.Recolours value value') :
    Coloured ((value.bind ColourChoice.ofText?).getD .auto)
      ((value'.bind ColourChoice.ofText?).getD .auto) := by
  cases h with
  | none => exact .inl rfl
  | some hvalue =>
    cases hvalue with
    | same => exact .inl rfl
    | switched => exact .inr ⟨rfl, rfl⟩

theorem ofReadings_alike {a b : Reading × Option (Level × Reading)} (h : Reading.LinesAlike a b) :
    ∃ colour, Coloured (ofReadings a.1 a.2).colour colour ∧
      ofReadings b.1 b.2 = { ofReadings a.1 a.2 with colour := colour } := by
  obtain ⟨front, command⟩ := a
  obtain ⟨front', command'⟩ := b
  obtain ⟨hfront, hcommand⟩ := h
  have hback : Reading.Alike ((command.map (·.2)).getD .start) ((command'.map (·.2)).getD .start) := by
    cases hcommand with
    | none => exact Reading.alike_start
    | some hr => exact hr
  have hformats : (ofReadings front' command').listFormats = (ofReadings front command).listFormats := by
    rw [ofReadings, ofReadings, hfront.has_eq, hback.has_eq]
  have hconfig : (ofReadings front' command').config = (ofReadings front command).config := by
    have hne : CliOption.config ≠ .color := by decide
    simp only [ofReadings, hfront.value?_eq hne, hback.value?_eq hne]
  have hsame : (ofReadings front' command').command = (ofReadings front command).command := by
    cases hcommand with
    | none => rfl
    | @some level _ _ hr => exact (hr.toCommand_eq level).symm
  -- The option behind the command wins in both.
  have hcolour : Coloured (ofReadings front command).colour (ofReadings front' command').colour :=
    coloured_of_values (CliOption.Recolours.or (hback.value? .color) (hfront.value? .color))
  refine ⟨(ofReadings front' command').colour, hcolour, ?_⟩
  dsimp only
  rw [← hformats, ← hconfig, ← hsame]

theorem impliesConvert_recoloured (h : Recoloured words words') :
    impliesConvert words = impliesConvert words' := by
  cases h <;> rfl

theorem ofWords_recoloured (h : Recoloured words words') (hread : ofWords words = .ok i) :
    ∃ colour, Coloured i.colour colour ∧ ofWords words' = .ok { i with colour := colour } := by
  obtain ⟨a, ha, hi⟩ := exists_of_bind_eq_ok hread
  cases hi
  obtain ⟨b, hb, hab⟩ := Reading.alike_start.ofLine rfl h a ha
  obtain ⟨colour, hcolour, hsame⟩ := ofReadings_alike hab
  refine ⟨colour, hcolour, ?_⟩
  rw [ofWords, hb, ← hsame]
  rfl

/-- **Where the first command line is accepted, so is the second**, and it asks for the same, but
    for the colours. -/
theorem read_recoloured (h : Recoloured words words') (hread : read words = .ok i) :
    ∃ colour, Coloured i.colour colour ∧ read words' = .ok { i with colour := colour } := by
  -- Where the command `convert` is implied, it stands in front of both.
  rw [read, completed_eq] at hread ⊢
  rw [← impliesConvert_recoloured h]
  by_cases himplied : impliesConvert words = true
  · rw [if_pos himplied] at hread ⊢
    exact ofWords_recoloured (.word (by decide) h) hread
  · rw [if_neg himplied] at hread ⊢
    exact ofWords_recoloured h hread

end Invocation
end Tagdown
