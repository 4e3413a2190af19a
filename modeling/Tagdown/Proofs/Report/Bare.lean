/-
  Tagdown.Proofs.Report.Bare

  The report for programs has no escape characters, whatever it is about. It is made of fixed
  words and of numbers: nothing of the text that is counted stands in it.
-/

import Tagdown.Proofs.Report.RoundTrip
import Tagdown.Proofs.Text.Bare

namespace Tagdown

open Text (IsBare isBare_ofNat)

namespace Json

theorem isBare_quoted {t : Text} (h : IsBare t) : IsBare (quoted t) :=
  (h.cons (by decide)).append (by decide)

theorem isBare_ofBinary64 (x : Binary64) : IsBare (ofBinary64 x) := by
  unfold ofBinary64
  split
  · exact NumberLayout.isBare_write numberLayout x
  · decide

/-- A record is bare if its names and its values are. -/
theorem isBare_ofFields (level : Nat) {names values : List Text} (hnames : ∀ name ∈ names, IsBare name)
    (hvalues : ∀ value ∈ values, IsBare value) : IsBare (ofFields level (names.zip values)) := by
  have hindent : ∀ k, IsBare (List.replicate (2 * k) ' ') := fun k => Text.isBare_replicate _ (by decide)
  refine IsBare.append (IsBare.append (IsBare.append (by decide)
    (Text.isBare_intercalate (by decide) fun line hline => ?_)) ((hindent level).cons (by decide))) (by decide)
  obtain ⟨⟨name, value⟩, hfield, rfl⟩ := List.mem_map.mp hline
  obtain ⟨hname, hvalue⟩ := List.of_mem_zip hfield
  exact (((hindent _).append (isBare_quoted (hnames name hname))).append (by decide)).append
    (hvalues value hvalue)

end Json

theorem Instant.isBare_timestamp (i : Instant) : IsBare i.timestamp :=
  fun hmem => absurd (i.isPlain_timestamp _ hmem).2.2 (by decide)

namespace ReportDocument

theorem isBare_writeHeadings (h : HeadingCounts) : IsBare (writeHeadings h) := by
  apply Json.isBare_ofFields 2 (by decide)
  intro value hvalue
  obtain ⟨n, -, rfl⟩ := List.mem_map.mp hvalue
  exact isBare_ofNat n

theorem isBare_writeStatistics (s : Statistics) : IsBare (writeStatistics s) := by
  apply Json.isBare_ofFields 1 (by decide)
  simp only [List.forall_mem_cons]
  exact ⟨isBare_ofNat _, isBare_ofNat _, isBare_writeHeadings _, isBare_ofNat _, isBare_ofNat _,
    isBare_ofNat _, isBare_ofNat _, isBare_ofNat _, Json.isBare_ofBinary64 _, Json.isBare_ofBinary64 _,
    List.forall_mem_nil _⟩

theorem isBare_write {d : ReportDocument} (h : IsBare d.timestamp) : IsBare (write d) := by
  apply Json.isBare_ofFields 0 (by decide)
  simp only [List.forall_mem_cons]
  exact ⟨isBare_writeStatistics _, Json.isBare_quoted h, List.forall_mem_nil _⟩

end ReportDocument
end Tagdown
