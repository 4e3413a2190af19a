/-
  Tagdown.Proofs.Report.RoundTrip

  The report for programs is read back as what was written: counts below the limit
  of 64 bits, ratios that are tenths, and the timestamp (`json_round_trip`). A ratio
  that is not finite is written too, but not read back.

  The two ratios enter only through what their texts are read as, so one lemma about
  the document (`read_write`) serves both cases.
-/

import Tagdown.Proofs.Json.Record
import Tagdown.Report.Format

namespace Tagdown

open Json (ReadsAs EndsValue IsPlain Fault)

/-! ## Timestamps -/

/-- A timestamp needs no escapes. -/
theorem Instant.isPlain_timestamp (i : Instant) : IsPlain i.timestamp := by
  have hyear : IsPlain (yearText i.date.year) := by
    have hdigits := Json.isPlain_ofNatPadded 4 i.date.year.natAbs
    unfold yearText
    dsimp only
    split
    · exact hdigits
    · split
      · exact Json.isPlain_cons.mpr ⟨by decide, hdigits⟩
      · exact Json.isPlain_cons.mpr ⟨by decide, hdigits⟩
  simp only [timestamp, Json.isPlain_append, Json.isPlain_cons, Json.isPlain_ofNatPadded, hyear]
  decide

/-- All the counts of statistics. -/
def Statistics.counts (s : Statistics) : List Nat :=
  [s.words, s.paragraphs, s.links, s.images, s.listItems, s.quotes, s.codeFences] ++
    s.headings.toList

namespace ReportDocument

/-! ## Fields -/

theorem isNamed_headingRecord : headingRecord.IsNamed :=
  ⟨by decide, by decide⟩

theorem isNamed_statisticsRecord : statisticsRecord.IsNamed :=
  ⟨by decide, by decide⟩

theorem isNamed_documentRecord : documentRecord.IsNamed :=
  ⟨by decide, by decide⟩

/-- The heading counts are read back. -/
theorem readsAs_headings {h : HeadingCounts} (hcounts : ∀ n ∈ h.toList, n < wordLimit) :
    ReadsAs readHeadings (writeHeadings h) (.ok h) := by
  intro rest hrest
  simp only [HeadingCounts.toList, List.forall_mem_cons] at hcounts
  obtain ⟨h1, h2, h3, h4, h5, h6, -⟩ := hcounts
  have hreads : headingRecord.Reads 0 (h.toList.map fun n => (Text.ofNat n, .ok n)) :=
    ⟨Json.readsAs_count h1, Json.readsAs_count h2, Json.readsAs_count h3, Json.readsAs_count h4,
      Json.readsAs_count h5, Json.readsAs_count h6, trivial⟩
  have hread : headingRecord.read (writeHeadings h ++ rest) = .ok (h.toList, rest) :=
    Json.Record.read_ofFields isNamed_headingRecord 2 (List.cons_ne_nil _ _) rfl hreads rest
  rw [readHeadings, Json.Record.read_space, hread]
  rfl

theorem readsAs_countField {field : Nat} (hheadings : field ≠ 2) (hratio : field < 8) {n : Nat}
    (hn : n < wordLimit) : ReadsAs (statisticsRecord.readField field) (Text.ofNat n) (.ok (.count n)) := by
  intro rest hrest
  show readValue field _ = _
  rw [readValue, if_neg hheadings, if_pos hratio]
  exact (Json.readsAs_count hn).map Value.count rest hrest

theorem readsAs_headingsField {h : HeadingCounts} (hcounts : ∀ n ∈ h.toList, n < wordLimit) :
    ReadsAs (statisticsRecord.readField 2) (writeHeadings h) (.ok (.headings h)) := by
  intro rest hrest
  show readValue 2 _ = _
  rw [readValue, if_pos rfl]
  exact (readsAs_headings hcounts).map Value.headings rest hrest

theorem readsAs_ratioField {field : Nat} (hratio : 8 ≤ field) {written : Text}
    {result : Except Fault Binary64} (h : ReadsAs Json.readBinary64 written result) :
    ReadsAs (statisticsRecord.readField field) written (result.map .ratio) := by
  intro rest hrest
  show readValue field _ = _
  rw [readValue, if_neg (by omega), if_neg (by omega)]
  exact h.map Value.ratio rest hrest

/-- The statistics are read back with whatever their ratios are read as; the first ratio
    that is a fault is the fault of them all. -/
theorem readsAs_statistics {s : Statistics} (hcounts : ∀ n ∈ s.counts, n < wordLimit)
    {plain formatting : Except Fault Binary64}
    (hplain : ReadsAs Json.readBinary64 (Json.ofBinary64 s.plainRatio) plain)
    (hformatting : ReadsAs Json.readBinary64 (Json.ofBinary64 s.formattingRatio) formatting) :
    ReadsAs readStatistics (writeStatistics s) (do
      let p ← plain
      let f ← formatting
      return { s with plainRatio := p, formattingRatio := f }) := by
  intro rest hrest
  simp only [Statistics.counts, List.forall_mem_append, List.forall_mem_cons] at hcounts
  obtain ⟨⟨hwords, hparagraphs, hlinks, himages, hitems, hquotes, hfences, -⟩, hheadings⟩ := hcounts
  have hreads : statisticsRecord.Reads 0
      [(Text.ofNat s.words, .ok (.count s.words)),
       (Text.ofNat s.paragraphs, .ok (.count s.paragraphs)),
       (writeHeadings s.headings, .ok (.headings s.headings)),
       (Text.ofNat s.links, .ok (.count s.links)),
       (Text.ofNat s.images, .ok (.count s.images)),
       (Text.ofNat s.listItems, .ok (.count s.listItems)),
       (Text.ofNat s.quotes, .ok (.count s.quotes)),
       (Text.ofNat s.codeFences, .ok (.count s.codeFences)),
       (Json.ofBinary64 s.plainRatio, plain.map .ratio),
       (Json.ofBinary64 s.formattingRatio, formatting.map .ratio)] :=
    ⟨readsAs_countField (by decide) (by decide) hwords,
      readsAs_countField (by decide) (by decide) hparagraphs, readsAs_headingsField hheadings,
      readsAs_countField (by decide) (by decide) hlinks,
      readsAs_countField (by decide) (by decide) himages,
      readsAs_countField (by decide) (by decide) hitems,
      readsAs_countField (by decide) (by decide) hquotes,
      readsAs_countField (by decide) (by decide) hfences,
      readsAs_ratioField (by decide) hplain, readsAs_ratioField (by decide) hformatting, trivial⟩
  have hread := Json.Record.read_ofFields isNamed_statisticsRecord 1 (List.cons_ne_nil _ _) rfl hreads
    rest
  rw [readStatistics, Json.Record.read_space]
  refine Eq.trans (congrArg (· >>= _) hread) ?_
  -- The record stops at the first value that is a fault.
  cases plain <;> cases formatting <;> rfl

theorem readsAs_statisticsPart {written : Text} {result : Except Fault Statistics}
    (h : ReadsAs readStatistics written result) :
    ReadsAs (documentRecord.readField 0) written (result.map .inl) := by
  intro rest hrest
  show readPart 0 _ = _
  rw [readPart, if_pos rfl]
  exact h.map Sum.inl rest hrest

theorem readsAs_timestampPart {timestamp : Text} (h : IsPlain timestamp) :
    ReadsAs (documentRecord.readField 1) (Json.quoted timestamp) (.ok (.inr timestamp)) := by
  intro rest hrest
  show readPart 1 _ = _
  rw [readPart, if_neg Nat.one_ne_zero]
  exact (Json.readsAs_text h).map Sum.inr rest hrest

/-- The document is read back with whatever its statistics are read as. -/
theorem read_write (d : ReportDocument) (hplain : IsPlain d.timestamp) {result : Except Fault Statistics}
    (hstatistics : ReadsAs readStatistics (writeStatistics d.statistics) result) :
    read (write d) = result.map fun s => { d with statistics := s } := by
  have hreads : documentRecord.Reads 0
      [(writeStatistics d.statistics, result.map .inl), (Json.quoted d.timestamp, .ok (.inr d.timestamp))] :=
    ⟨readsAs_statisticsPart hstatistics, readsAs_timestampPart hplain, trivial⟩
  have hread := Json.Record.read_ofFields isNamed_documentRecord 0 (List.cons_ne_nil _ _) rfl hreads []
  rw [List.append_nil] at hread
  rw [read]
  refine Eq.trans (congrArg (· >>= _) hread) ?_
  cases result <;> rfl

/-! ## The ratios in the text -/

theorem infix_write {d : ReportDocument} {t : Text} (h : t <:+: writeStatistics d.statistics) :
    t <:+: write d := by
  have hanalysis : ("analysis".toList, writeStatistics d.statistics) ∈
      fieldNames.zip [writeStatistics d.statistics, Json.quoted d.timestamp] := List.mem_cons_self
  exact (h.trans (List.suffix_append _ _).isInfix).trans (Json.infix_ofFields 0 hanalysis)

/-- Both ratios stand in the text under their names. -/
theorem ratio_infix_write (d : ReportDocument) :
    Json.quoted "plainTextRatio".toList ++ ": ".toList ++ Json.ofBinary64 d.statistics.plainRatio <:+:
        write d ∧
      Json.quoted "formattingRatio".toList ++ ": ".toList ++
        Json.ofBinary64 d.statistics.formattingRatio <:+: write d :=
  ⟨infix_write (Json.infix_ofFields 1 (List.mem_of_getElem? (i := 8) rfl)),
    infix_write (Json.infix_ofFields 1 (List.mem_of_getElem? (i := 9) rfl))⟩

/-- What is not finite is written as null. -/
theorem ofBinary64_of_not_finite {x : Binary64} (hx : x.isFinite = false) :
    Json.ofBinary64 x = "null".toList :=
  if_neg (Bool.eq_false_iff.mp hx)

/-! ## The round trip -/

/-- The report of any statistics is written. If the ratios are tenths, it is read back as the
    statistics and the timestamp. If a ratio is not finite, it stands as null in the text, and
    the text is read as having the wrong content. -/
theorem json_round_trip (s : Statistics) (now : Instant) (hcounts : ∀ n ∈ s.counts, n < wordLimit) :
    ∃ text, ReportFormat.json.render s now = .ok text ∧
      (s.plainRatio.IsTenth → s.formattingRatio.IsTenth →
        read text = .ok ⟨s, now.timestamp⟩) ∧
      (s.plainRatio.IsWellFormed → s.formattingRatio.IsWellFormed →
        s.plainRatio.isFinite = false ∨ s.formattingRatio.isFinite = false →
          read text = .error .mismatched) ∧
      (s.plainRatio.isFinite = false → "\"plainTextRatio\": null".toList <:+: text) ∧
      (s.formattingRatio.isFinite = false → "\"formattingRatio\": null".toList <:+: text) := by
  obtain ⟨hplainText, hformattingText⟩ := ratio_infix_write ⟨s, now.timestamp⟩
  refine ⟨write ⟨s, now.timestamp⟩, rfl, fun hplain hformatting => ?_,
    fun hplain hformatting hinfinite => ?_, fun hplain => ?_, fun hformatting => ?_⟩
  · exact read_write ⟨s, now.timestamp⟩ now.isPlain_timestamp
      (readsAs_statistics hcounts (Json.readsAs_tenth hplain) (Json.readsAs_tenth hformatting))
  · obtain ⟨plain, hreadPlain, hplain⟩ := Json.exists_readsAs hplain
    obtain ⟨formatting, hreadFormatting, hformatting⟩ := Json.exists_readsAs hformatting
    have hread := read_write ⟨s, now.timestamp⟩ now.isPlain_timestamp
      (readsAs_statistics hcounts hreadPlain hreadFormatting)
    rw [hread]
    by_cases hfinite : s.plainRatio.isFinite = true
    · -- The plain ratio is read, so the other one is the fault.
      have hother : ¬ s.formattingRatio.isFinite = true := by
        rcases hinfinite with h | h
        · exact absurd hfinite (Bool.eq_false_iff.mp h)
        · exact Bool.eq_false_iff.mp h
      rw [if_pos hfinite] at hplain
      rw [if_neg hother] at hformatting
      obtain ⟨y, rfl⟩ := hplain
      rw [hformatting]
      rfl
    · rw [if_neg hfinite] at hplain
      rw [hplain]
      rfl
  · rw [ofBinary64_of_not_finite hplain] at hplainText
    exact hplainText
  · rw [ofBinary64_of_not_finite hformatting] at hformattingText
    exact hformattingText

/-- Statistics with the largest count and the given ratios. -/
def sampleStatistics (plain formatting : Binary64) : Statistics :=
  { words := wordLimit - 1, headings := ⟨1, 2, 3, 0, 0, 0⟩, links := 1, images := 0, listItems := 4,
    quotes := 1, codeFences := 2, paragraphs := 7, plainRatio := plain, formattingRatio := formatting }

theorem json_round_trip_largest_count :
    (∃ text, ReportFormat.json.render
        (sampleStatistics (.ofRatio false 875 10) (.ofRatio false 125 10)) ⟨0, 0⟩ = .ok text ∧
      read text = .ok ⟨sampleStatistics (.ofRatio false 875 10) (.ofRatio false 125 10),
        "1970-01-01T00:00:00.000Z".toList⟩) ∧
    ∃ text, ReportFormat.json.render (sampleStatistics .zero .nan) ⟨0, 0⟩ = .ok text ∧
      read text = .error .mismatched := by
  have htimestamp : (⟨0, 0⟩ : Instant).timestamp = "1970-01-01T00:00:00.000Z".toList := by decide
  have hcounts : ∀ x y, ∀ n ∈ (sampleStatistics x y).counts, n < wordLimit := fun _ _ =>
    (by decide : ∀ n ∈ [wordLimit - 1, 7, 1, 0, 4, 1, 2, 1, 2, 3, 0, 0, 0], n < wordLimit)
  constructor
  · have htenth : ∀ k ≤ 1000, (Binary64.ofRatio false k 10).IsTenth := fun k hk => ⟨k, hk, rfl⟩
    have hsample : ∀ x y : Binary64, x.IsTenth → y.IsTenth →
        ∃ text, ReportFormat.json.render (sampleStatistics x y) ⟨0, 0⟩ = .ok text ∧
          read text = .ok ⟨sampleStatistics x y, "1970-01-01T00:00:00.000Z".toList⟩ := by
      intro x y hx hy
      obtain ⟨text, hrender, htenths, -⟩ := json_round_trip (sampleStatistics x y) ⟨0, 0⟩ (hcounts x y)
      rw [htimestamp] at htenths
      exact ⟨text, hrender, htenths hx hy⟩
    exact hsample _ _ (htenth 875 (by decide)) (htenth 125 (by decide))
  · obtain ⟨text, hrender, -, hinfinite, -⟩ := json_round_trip (sampleStatistics .zero .nan) ⟨0, 0⟩
      (hcounts .zero .nan)
    have hzero : Binary64.zero.IsWellFormed := ⟨⟨by decide, fun h => absurd rfl h⟩, by decide⟩
    exact ⟨text, hrender, hinfinite hzero trivial (.inr rfl)⟩

end ReportDocument
end Tagdown
