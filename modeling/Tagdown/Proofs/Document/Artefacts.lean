/-
  Tagdown.Proofs.Document.Artefacts

  What editors leave in a text and conversion does not see: the way line breaks
  are written, a byte order mark in front of the text, padding around a line.

  A conversion depends on a segment only through what is recognized in it
  (`ofSegments_congr`), so padding of the first segment changes nothing
  (`ofText_append_of_padding`), and neither does another way to write the same
  segments.
-/

import Mathlib.Data.List.Forall2
import Tagdown.Proofs.Document.Accounting
import Tagdown.Proofs.Text.LineBreaks

namespace Tagdown
namespace Conversion

variable {table : TagTable}

theorem ofSegment_congr {a b : Text} (h : Block.recognize table a = Block.recognize table b)
    (number : Nat) : ofSegment table number a = ofSegment table number b := by
  rw [ofSegment, ofSegment, h]

/-- Segments that stand for the same, one by one, give the same conversion. -/
theorem ofSegments_congr {xs ys : List Text}
    (h : List.Forall₂ (fun a b => Block.recognize table a = Block.recognize table b) xs ys)
    (first : Nat) : ofSegments table first xs = ofSegments table first ys := by
  induction h generalizing first with
  | nil => rfl
  | cons hsegment _ ih =>
    rw [ofSegments_cons, ofSegments_cons, ofSegment_congr hsegment, ih]

/-- Padding that breaks no line changes nothing in front of a text: it belongs to the
    first segment and is trimmed there. -/
theorem ofText_append_of_padding {lead : Text} (hlead : ∀ c ∈ lead, Text.isPadding c = true)
    (hunbroken : Text.IsUnbroken lead) (text : Text) :
    ofText table (lead ++ text) = ofText table text := by
  obtain ⟨segment, segs, hsegs⟩ := List.exists_cons_of_ne_nil (Text.segments_ne_nil text)
  have hfirst : Block.recognize table (lead ++ segment) = Block.recognize table segment :=
    Block.recognize_append_of_padding hlead table segment
  rw [ofText, ofText, Text.segments_append_of_isUnbroken hunbroken, hsegs, List.modifyHead_cons]
  exact ofSegments_congr (.cons hfirst (List.forall₂_same.mpr fun _ _ => rfl)) 1

/-- **Artefacts of editors change no conversion.** A text has the same conversion,
    line numbers and faults included, when each of its line breaks is written as a
    line feed and when a byte order mark is put in front of it. Any line stands for
    the same with any padding around it. -/
theorem ofText_ignores_artefacts (table : TagTable) :
    (∀ text, ofText table (Text.unifyBreaks text) = ofText table text) ∧
    (∀ text, ofText table (Text.byteOrderMark :: text) = ofText table text) ∧
    ∀ lead line trail : Text, (∀ c ∈ lead, Text.isPadding c = true) →
      (∀ c ∈ trail, Text.isPadding c = true) →
        Block.recognize table (lead ++ line ++ trail) = Block.recognize table line := by
  refine ⟨fun text => ?_, fun text => ?_, fun lead line trail hlead htrail => ?_⟩
  · rw [ofText, ofText, Text.segments_unifyBreaks]
  · have hmark : ∀ c ∈ [Text.byteOrderMark], Text.isPadding c = true :=
      List.all_eq_true.mp (by decide)
    have hunbroken : Text.IsUnbroken [Text.byteOrderMark] := by
      unfold Text.IsUnbroken
      decide
    exact ofText_append_of_padding hmark hunbroken text
  · exact Block.recognize_pad hlead htrail table line

/-- A byte order mark and a no-break space in front of a malformed line, a line feed
    and a tabulator behind it. -/
theorem ofText_ignores_artefacts_malformed :
    (∀ c ∈ "\uFEFF\u00A0".toList, Text.isPadding c = true) ∧
    (∀ c ∈ "\n\t".toList, Text.isPadding c = true) ∧
    Block.recognize .standard ("\uFEFF\u00A0".toList ++ "oops".toList ++ "\n\t".toList) =
      .error (.malformed "oops".toList) := by
  have hlead : ∀ c ∈ "\uFEFF\u00A0".toList, Text.isPadding c = true :=
    List.all_eq_true.mp (by decide)
  have htrail : ∀ c ∈ "\n\t".toList, Text.isPadding c = true := List.all_eq_true.mp (by decide)
  refine ⟨hlead, htrail, ?_⟩
  exact ((ofText_ignores_artefacts .standard).2.2 _ "oops".toList _ hlead htrail).trans (by decide)

example :
    ofText .standard (Text.unifyBreaks "AAA(a)\r\n\r\r\noops\nDDD(b)".toList) =
      ofText .standard "AAA(a)\n\n\noops\nDDD(b)".toList := by
  decide

end Conversion
end Tagdown
