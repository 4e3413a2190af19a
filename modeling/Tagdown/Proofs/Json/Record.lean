/-
  Tagdown.Proofs.Json.Record

  Values and records as they are written and read. `ReadsAs` says of a reader what
  it makes of a written value; a record whose fields are read as certain results is
  read as all of them, or as the first fault among them (`Record.read_ofFields`).
-/

import Tagdown.Proofs.Json.Number

namespace Tagdown
namespace Json

/-! ## Blanks -/

theorem skipBlank_of_head {t : Text} (h : ∀ c ∈ t.head?, isBlank c = false) : skipBlank t = t :=
  Text.dropWhile_eq_self_of_head h

theorem skipBlank_cons {c : Char} (hc : isBlank c = false) (t : Text) :
    skipBlank (c :: t) = c :: t :=
  skipBlank_of_head fun _ h => Option.some.inj h ▸ hc

@[simp] theorem skipBlank_space (t : Text) : skipBlank (' ' :: t) = skipBlank t :=
  rfl

@[simp] theorem skipBlank_feed (t : Text) : skipBlank ('\n' :: t) = skipBlank t :=
  rfl

@[simp] theorem skipBlank_replicate (count : Nat) (t : Text) :
    skipBlank (List.replicate count ' ' ++ t) = skipBlank t := by
  apply List.dropWhile_append_of_pos
  intro c hc
  rw [List.eq_of_mem_replicate hc]
  rfl

/-! ## Single values -/

/-- What a reader makes of a value can be turned into something else. -/
theorem ReadsAs.map {α β : Type} {reader : Text → Except Fault (α × Text)} {written : Text}
    {result : Except Fault α} (h : ReadsAs reader written result) (f : α → β) :
    ReadsAs (fun t => (reader t).map fun (a, rest) => (f a, rest)) written (result.map f) := by
  intro rest hrest
  show (reader _).map _ = _
  rw [h rest hrest]
  cases result <;> rfl

/-- A number starts with a digit or a minus sign. -/
theorem exists_written_eq_cons {n : NumberToken} (h : n.IsWellFormed) :
    ∃ c rest, n.written = c :: rest ∧ (c = '-' ∨ c.isDigit = true) := by
  obtain ⟨negative, whole, fraction, exponent⟩ := n
  cases negative with
  | true => exact ⟨'-', _, rfl, .inl rfl⟩
  | false =>
    obtain ⟨c, digits, rfl⟩ := List.exists_cons_of_ne_nil h.whole.ne_nil
    exact ⟨c, _, rfl, .inr (h.whole.all c List.mem_cons_self)⟩

theorem isBlank_of_isDigit {c : Char} (hc : c.isDigit = true) : isBlank c = false := by
  rw [Bool.eq_false_iff]
  intro hblank
  simp only [isBlank, Bool.or_eq_true, beq_iff_eq] at hblank
  obtain ((rfl | rfl) | rfl) | rfl := hblank <;> exact absurd hc (by decide)

theorem readsAs_number {n : NumberToken} (h : n.IsWellFormed) :
    ReadsAs readNumberValue n.written (.ok n) := by
  intro rest hrest
  obtain ⟨c, digits, hcons, hc⟩ := exists_written_eq_cons h
  have hblank : isBlank c = false := by
    rcases hc with rfl | hdigit
    · rfl
    · exact isBlank_of_isDigit hdigit
  have hread := readNumber_written h hrest .truncated
  rw [hcons, List.cons_append] at hread ⊢
  rw [readNumberValue, skipBlank_space, skipBlank_cons hblank]
  simp only [if_pos hc]
  exact hread

theorem readsAs_binary64 {n : NumberToken} (h : n.IsWellFormed) {x : Binary64}
    (hx : n.toBinary64? = some x) : ReadsAs readBinary64 n.written (.ok x) := by
  intro rest hrest
  rw [readBinary64, readsAs_number h rest hrest]
  simp only [Except.map, bind, Except.bind, hx, pure, Except.pure]

/-- What is written for a number that is not finite is no number. -/
theorem readsAs_null : ReadsAs readBinary64 "null".toList (.error .mismatched) := by
  intro rest hrest
  rfl

/-- A tenth is read back. -/
theorem readsAs_tenth {x : Binary64} (hx : x.IsTenth) :
    ReadsAs readBinary64 (ofBinary64 x) (.ok x) := by
  obtain ⟨k, hk, rfl⟩ := hx
  obtain ⟨n, hwell, hwritten, hvalue⟩ := exists_ofBinary64_tenth_eq hk
  exact hwritten ▸ readsAs_binary64 hwell hvalue

/-- A finite number is read back as some number, and what is not finite as a mismatch. -/
theorem exists_readsAs {x : Binary64} (hx : x.IsWellFormed) :
    ∃ result, ReadsAs readBinary64 (ofBinary64 x) result ∧
      if x.isFinite then ∃ y, result = .ok y else result = .error .mismatched := by
  by_cases hfinite : x.isFinite = true
  · obtain ⟨n, hwell, hwritten, hvalue⟩ := exists_ofBinary64_eq hx hfinite
    obtain ⟨y, hy⟩ := Option.isSome_iff_exists.mp hvalue
    refine ⟨.ok y, hwritten ▸ readsAs_binary64 hwell hy, ?_⟩
    rw [if_pos hfinite]
    exact ⟨y, rfl⟩
  · refine ⟨.error .mismatched, ?_, ?_⟩
    · rw [ofBinary64, if_neg hfinite]
      exact readsAs_null
    · rw [if_neg hfinite]

/-- Counts below the limit are read back. -/
theorem readsAs_count {n : Nat} (hn : n < wordLimit) : ReadsAs readCount (Text.ofNat n) (.ok n) := by
  intro rest hrest
  have hwell : NumberToken.IsWellFormed ⟨false, Text.ofNat n, none, none⟩ := by
    refine ⟨isDigits_ofNat n, fun hhead => ?_, by rintro _ ⟨⟩, by rintro _ ⟨⟩⟩
    rcases Nat.eq_zero_or_pos n with rfl | hpos
    · rfl
    · exact absurd hhead (Text.head?_ofNat_ne_zero (Nat.ne_of_gt hpos))
  have hwritten : NumberToken.written ⟨false, Text.ofNat n, none, none⟩ = Text.ofNat n := by
    simp only [NumberToken.written, Option.elim_none, List.append_nil]
    rfl
  have hcount : NumberToken.toCount? ⟨false, Text.ofNat n, none, none⟩ = some n := by
    rw [NumberToken.toCount?]
    dsimp only
    rw [Text.digitsValue_ofNat]
    exact if_pos ⟨rfl, rfl, rfl, hn⟩
  have hread := readsAs_number hwell rest hrest
  rw [hwritten] at hread
  rw [readCount, hread]
  simp only [Except.map, bind, Except.bind, hcount, pure, Except.pure]

/-! ## Strings -/

/-- The text has no character that is written differently in a string. -/
def IsPlain (t : Text) : Prop :=
  ∀ c ∈ t, c ≠ '"' ∧ c ≠ '\\' ∧ 0x20 ≤ c.toNat

instance (t : Text) : Decidable (IsPlain t) :=
  List.decidableBAll (fun c => c ≠ '"' ∧ c ≠ '\\' ∧ 0x20 ≤ c.toNat) t

theorem isPlain_append {t u : Text} : IsPlain (t ++ u) ↔ IsPlain t ∧ IsPlain u :=
  List.forall_mem_append

theorem isPlain_cons {c : Char} {t : Text} :
    IsPlain (c :: t) ↔ (c ≠ '"' ∧ c ≠ '\\' ∧ 0x20 ≤ c.toNat) ∧ IsPlain t :=
  List.forall_mem_cons

theorem isPlain_of_isDigit {t : Text} (h : ∀ c ∈ t, c.isDigit = true) : IsPlain t := by
  intro c hc
  have hdigit := h c hc
  refine ⟨?_, ?_, ?_⟩
  · rintro rfl
    exact absurd hdigit (by decide)
  · rintro rfl
    exact absurd hdigit (by decide)
  · simp only [Char.isDigit, Bool.and_eq_true, decide_eq_true_eq] at hdigit
    have hlow : 48 ≤ c.toNat := hdigit.1
    omega

theorem isPlain_ofNatPadded (width n : Nat) : IsPlain (Text.ofNatPadded width n) :=
  isPlain_of_isDigit ((isDigits_ofNat n).replicate_append _).all

theorem stringStep_plain {c : Char} (hc : c ≠ '"' ∧ c ≠ '\\' ∧ 0x20 ≤ c.toNat) (rest : Text) :
    stringStep (c :: rest) = .ok (.char c rest) := by
  obtain ⟨hquote, hescape, hlarge⟩ := hc
  rw [stringStep, if_neg (Nat.not_lt.mpr hlarge)]
  · exact hquote
  · exact fun _ h => absurd h hescape
  · exact fun _ _ h => absurd h hescape
  · exact fun h => absurd h hescape

theorem stringBody_plain {t : Text} (ht : IsPlain t) (rest : Text) {fuel : Nat}
    (hfuel : t.length < fuel) : stringBody fuel (t ++ '"' :: rest) = .ok (t, rest) := by
  induction t generalizing fuel with
  | nil =>
    obtain ⟨fuel, rfl⟩ := Nat.exists_eq_succ_of_ne_zero (Nat.ne_of_gt hfuel)
    rfl
  | cons c t ih =>
    obtain ⟨fuel, rfl⟩ := Nat.exists_eq_succ_of_ne_zero (Nat.ne_of_gt (Nat.zero_lt_of_lt hfuel))
    obtain ⟨hc, ht⟩ := List.forall_mem_cons.mp ht
    rw [List.cons_append, stringBody, stringStep_plain hc]
    simp only [bind, Except.bind, ih ht (Nat.lt_of_succ_lt_succ hfuel), pure, Except.pure]

/-- A plain string is read back behind its opening quote. -/
theorem readString_plain {t : Text} (ht : IsPlain t) (rest : Text) :
    readString (t ++ '"' :: rest) = .ok (t, rest) := by
  apply stringBody_plain ht
  rw [List.length_append]
  omega

theorem readsAs_text {t : Text} (ht : IsPlain t) : ReadsAs readText (quoted t) (.ok t) := by
  intro rest hrest
  have hread := readString_plain ht rest
  rw [readText, skipBlank_space, quoted, List.cons_append, List.cons_append, List.append_assoc,
    skipBlank_cons rfl]
  exact hread

/-! ## Objects -/

/-- A field of an object on its line. -/
def fieldLine (level : Nat) : Text × Text → Text
  | (name, value) => List.replicate (2 * (level + 1)) ' ' ++ quoted name ++ ": ".toList ++ value

/-- The fields of an object that are still to come, each on its line, and its end. -/
def fieldLines (level : Nat) (first : Bool) : List (Text × Text) → Text
  | [] => '\n' :: (List.replicate (2 * level) ' ' ++ ['\x7d'])
  | field :: fields =>
    (if first then [] else [',']) ++ '\n' :: (fieldLine level field ++ fieldLines level false fields)

theorem intercalate_fieldLine (level : Nat) (field : Text × Text) (fields : List (Text × Text)) :
    List.intercalate ",\n".toList ((field :: fields).map (fieldLine level)) ++
        '\n' :: (List.replicate (2 * level) ' ' ++ ['\x7d']) =
      fieldLine level field ++ fieldLines level false fields := by
  induction fields generalizing field with
  | nil =>
    rw [List.map_singleton, List.intercalate_singleton]
    rfl
  | cons next fields ih =>
    rw [List.map_cons, List.map_cons, List.intercalate_cons_cons, ← List.map_cons,
      List.append_assoc, List.append_assoc, ih next]
    rfl

/-- A record is its opening brace and its fields. -/
theorem ofFields_eq {level : Nat} {fields : List (Text × Text)} (hne : fields ≠ []) :
    ofFields level fields = '\x7b' :: fieldLines level true fields := by
  obtain ⟨field, fields, rfl⟩ := List.exists_cons_of_ne_nil hne
  have hof : ofFields level (field :: fields) = "\x7b\n".toList ++
      List.intercalate ",\n".toList ((field :: fields).map (fieldLine level)) ++
        '\n' :: List.replicate (2 * level) ' ' ++ "\x7d".toList := rfl
  have hlines := intercalate_fieldLine level field fields
  rw [hof, List.append_assoc, List.append_assoc, List.cons_append]
  exact congrArg ("\x7b\n".toList ++ ·) hlines

/-- A field of a record stands in its text. -/
theorem infix_ofFields (level : Nat) {fields : List (Text × Text)} {name value : Text}
    (h : (name, value) ∈ fields) :
    quoted name ++ ": ".toList ++ value <:+: ofFields level fields := by
  have hlines : ∀ first, quoted name ++ ": ".toList ++ value <:+: fieldLines level first fields := by
    induction fields with
    | nil => exact absurd h List.not_mem_nil
    | cons field fields ih =>
      -- The lines of the other fields come without a comma of their own, so `first` varies.
      intro first
      have hline : fieldLine level field <:+: fieldLines level first (field :: fields) :=
        ⟨(if first then [] else [',']) ++ ['\n'], fieldLines level false fields, by
          simp only [fieldLines, List.append_assoc, List.cons_append, List.nil_append]⟩
      rcases List.mem_cons.mp h with rfl | hmem
      · refine List.IsInfix.trans ⟨List.replicate (2 * (level + 1)) ' ', [], ?_⟩ hline
        simp only [fieldLine, List.append_assoc, List.append_nil]
      · refine (ih hmem false).trans ⟨(if first then [] else [',']) ++ '\n' :: fieldLine level field, [], ?_⟩
        simp only [fieldLines, List.append_assoc, List.append_nil, List.cons_append]
  rw [ofFields_eq (List.ne_nil_of_mem h)]
  exact (hlines true).trans (List.suffix_cons _ _).isInfix

theorem endsValue_fieldLines (level : Nat) (fields : List (Text × Text)) (rest : Text) :
    EndsValue (fieldLines level false fields ++ rest) := by
  cases fields with
  | nil => exact .feed _
  | cons field fields => exact .comma _

theorem keyStep_fieldLines_nil (level : Nat) (first : Bool) (rest : Text) :
    keyStep first (fieldLines level first [] ++ rest) = .ok (.close rest) := by
  have hskip : skipBlank (fieldLines level first [] ++ rest) = '\x7d' :: rest := by
    rw [fieldLines, List.cons_append, List.append_assoc, skipBlank_feed, skipBlank_replicate]
    rfl
  rw [keyStep, hskip]
  rfl

theorem keyStep_fieldLines_cons (level : Nat) (first : Bool) (name value : Text)
    (fields : List (Text × Text)) (rest : Text) :
    keyStep first (fieldLines level first ((name, value) :: fields) ++ rest) =
      .ok (.key (name ++ '"' :: ':' :: ' ' :: (value ++ (fieldLines level false fields ++ rest)))) := by
  have htext : fieldLines level first ((name, value) :: fields) ++ rest =
      (if first then [] else [',']) ++ '\n' :: (List.replicate (2 * (level + 1)) ' ' ++
        '"' :: (name ++ '"' :: ':' :: ' ' :: (value ++ (fieldLines level false fields ++ rest)))) := by
    simp only [fieldLines, fieldLine, quoted, List.append_assoc, List.cons_append]
    rfl
  have hskip : ∀ t : Text, skipBlank ('\n' :: (List.replicate (2 * (level + 1)) ' ' ++ '"' :: t)) =
      '"' :: t := by
    intro t
    rw [skipBlank_feed, skipBlank_replicate, skipBlank_cons rfl]
  rw [htext]
  cases first with
  | true =>
    rw [if_pos rfl, List.nil_append, keyStep, hskip]
    rfl
  | false =>
    rw [if_neg Bool.false_ne_true, List.singleton_append, keyStep, skipBlank_cons rfl]
    simp only [if_neg Bool.false_ne_true, hskip]

namespace Record

variable {α : Type} (r : Record α)

/-- From the given number on, the fields are read as their results. -/
def Reads : Nat → List (Text × Except Fault α) → Prop
  | _, [] => True
  | i, (written, result) :: fields => ReadsAs (r.readField i) written result ∧ Reads (i + 1) fields

/-- One field is read, and its value is put in its place. -/
theorem readFields_cons {level : Nat} {first : Bool} {name written : Text} {i : Nat}
    {fields : List (Text × Text)} {filled : List (Option α)} {result : Except Fault α}
    (hplain : IsPlain name) (hname : r.names.idxOf? name = some i) (hempty : filled[i]? = some none)
    (hread : ReadsAs (r.readField i) written result) (fuel : Nat) (rest : Text) :
    r.readFields (fuel + 1) first filled (fieldLines level first ((name, written) :: fields) ++ rest) =
      result >>= fun value =>
        r.readFields fuel false (filled.set i (some value)) (fieldLines level false fields ++ rest) := by
  have hvalue := hread _ (endsValue_fieldLines level fields rest)
  have hcolon : ∀ t : Text, readColon (':' :: t) = .ok t := fun _ => rfl
  rw [readFields, keyStep_fieldLines_cons]
  simp only [bind, Except.bind, readString_plain hplain, hname, hempty, hcolon, hvalue]
  cases result with
  | error fault => rfl
  | ok value => rfl

theorem idxOf?_append_cons {before : List Text} {name : Text} (h : name ∉ before)
    (after : List Text) : (before ++ name :: after).idxOf? name = some before.length := by
  induction before with
  | nil => rw [List.nil_append, List.idxOf?_cons, if_pos (beq_self_eq_true name)]; rfl
  | cons other before ih =>
    rw [List.mem_cons, not_or] at h
    have hne : ¬ (other == name) = true := fun heq => h.1 (beq_iff_eq.mp heq).symm
    rw [List.cons_append, List.idxOf?_cons, if_neg hne, ih h.2]
    rfl

/-- The names of a record can be told apart and are written as they are. -/
structure IsNamed : Prop where
  nodup : r.names.Nodup
  plain : ∀ name ∈ r.names, IsPlain name

variable {r}

/-- The fields that are still to come are read in order, and their values are put behind
    those that were read before. -/
theorem readFields_fieldLines (hr : r.IsNamed) (level : Nat) {fuel : Nat} (first : Bool)
    {before after : List Text} {done : List α} {fields : List (Text × Except Fault α)}
    (hnames : r.names = before ++ after) (hdone : done.length = before.length)
    (hafter : after.length = fields.length) (hreads : r.Reads before.length fields)
    (hfuel : fields.length < fuel) (rest : Text) :
    r.readFields fuel first (done.map some ++ after.map fun _ => none)
        (fieldLines level first (after.zip (fields.map Prod.fst)) ++ rest) =
      (fields.mapM Prod.snd).map fun values => ((done ++ values).map some, rest) := by
  induction fields generalizing before after done first fuel with
  | nil =>
    obtain ⟨fuel, rfl⟩ := Nat.exists_eq_succ_of_ne_zero (Nat.ne_of_gt hfuel)
    obtain rfl := List.eq_nil_of_length_eq_zero hafter
    rw [List.zip_nil_left, readFields, keyStep_fieldLines_nil]
    simp only [bind, Except.bind, pure, Except.pure, List.mapM_nil, Except.map, List.map_nil,
      List.append_nil]
  | cons field fields ih =>
    obtain ⟨fuel, rfl⟩ := Nat.exists_eq_succ_of_ne_zero (Nat.ne_of_gt (Nat.zero_lt_of_lt hfuel))
    obtain ⟨written, result⟩ := field
    obtain ⟨name, after, rfl⟩ := List.exists_cons_of_length_eq_add_one hafter
    obtain ⟨hread, hreads⟩ := hreads
    -- The next name is in the place that is the first not filled, and only there.
    have hmem : name ∈ r.names := hnames ▸ List.mem_append_right before List.mem_cons_self
    have hfresh : name ∉ before := by
      have hnodup := hnames ▸ hr.nodup
      exact fun h => (List.nodup_append.mp hnodup).2.2 name h name List.mem_cons_self rfl
    have hindex : r.names.idxOf? name = some before.length := by
      rw [hnames, idxOf?_append_cons hfresh]
    have hlength : (done.map some).length = before.length := by
      rw [List.length_map, hdone]
    have hempty : (done.map some ++ (name :: after).map fun _ => (none : Option α))[before.length]? =
        some none := by
      rw [List.getElem?_append_right (Nat.le_of_eq hlength), hlength, Nat.sub_self]
      rfl
    have hzip : (name :: after).zip (((written, result) :: fields).map Prod.fst) =
        (name, written) :: after.zip (fields.map Prod.fst) := rfl
    rw [hzip, readFields_cons r (hr.plain name hmem) hindex hempty hread, List.mapM_cons]
    cases result with
    | error fault => rfl
    | ok value =>
      -- With its value the place is filled, so the induction goes on behind it.
      have hset : (done.map some ++ (name :: after).map fun _ => none).set before.length (some value) =
          (done ++ [value]).map some ++ after.map fun _ => none := by
        rw [List.set_append_right _ _ (Nat.le_of_eq hlength), hlength, Nat.sub_self, List.map_append,
          List.append_assoc]
        rfl
      have hnames' : r.names = (before ++ [name]) ++ after := by
        rw [hnames, List.append_assoc]
        rfl
      have hdone' : (done ++ [value]).length = (before ++ [name]).length := by
        rw [List.length_append, List.length_append, hdone]
        rfl
      have hreads' : r.Reads (before ++ [name]).length fields := by
        rwa [List.length_append]
      have hrest := ih false hnames' hdone' (Nat.succ.inj hafter) hreads' (Nat.lt_of_succ_lt_succ hfuel)
      show r.readFields fuel false _ _ = _
      rw [hset, hrest]
      cases fields.mapM Prod.snd with
      | error fault => rfl
      | ok values =>
        show Except.ok (((done ++ [value]) ++ values).map some, rest) = _
        rw [List.append_assoc]
        rfl

theorem complete_map_some (values : List α) : complete (values.map some) = .ok values := by
  induction values with
  | nil => rfl
  | cons value values ih =>
    show (complete (values.map some)).map (value :: ·) = _
    rw [ih]
    rfl

theorem length_le_fieldLines (level : Nat) (first : Bool) (fields : List (Text × Text)) :
    fields.length ≤ (fieldLines level first fields).length := by
  induction fields generalizing first with
  | nil => exact Nat.zero_le _
  | cons field fields ih =>
    rw [fieldLines, List.length_append, List.length_cons, List.length_cons, List.length_append]
    have := ih false
    omega

/-- A record is read as the results of its fields: as all of them, or as the first fault. -/
theorem read_ofFields (hr : r.IsNamed) (level : Nat) {fields : List (Text × Except Fault α)}
    (hne : fields ≠ []) (hlength : r.names.length = fields.length) (hreads : r.Reads 0 fields)
    (rest : Text) :
    r.read (ofFields level (r.names.zip (fields.map Prod.fst)) ++ rest) =
      (fields.mapM Prod.snd).map fun values => (values, rest) := by
  have hzip : (r.names.zip (fields.map Prod.fst)).length = fields.length := by
    rw [List.length_zip, List.length_map, hlength, Nat.min_self]
  have hne' : r.names.zip (fields.map Prod.fst) ≠ [] := by
    rw [← List.length_pos_iff, hzip]
    exact List.length_pos_iff.mpr hne
  -- Each field is written in at least one character, so the reader has fuel for all of them.
  have hfuel : fields.length <
      (fieldLines level true (r.names.zip (fields.map Prod.fst)) ++ rest).length + 1 := by
    have := length_le_fieldLines level true (r.names.zip (fields.map Prod.fst))
    rw [List.length_append]
    omega
  have hdone : ([] : List α).length = ([] : List Text).length := rfl
  have hfields := readFields_fieldLines hr level true (List.nil_append r.names).symm hdone hlength
    hreads hfuel rest
  rw [List.map_nil, List.nil_append] at hfields
  rw [ofFields_eq hne', List.cons_append, read, skipBlank_cons rfl]
  show r.readObject _ = _
  rw [readObject, hfields]
  cases fields.mapM Prod.snd with
  | error fault => rfl
  | ok values =>
    -- No field is missing.
    show (do return (← complete (values.map some), rest)) = _
    rw [complete_map_some]
    rfl

/-- A blank in front of a record is passed over. -/
theorem read_space (t : Text) : r.read (' ' :: t) = r.read t :=
  rfl

end Record

end Json
end Tagdown
