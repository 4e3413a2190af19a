/-
  Tagdown.Proofs.Text.Bare

  Texts without escape characters (`Text.IsBare`): a terminal does nothing with them but show
  them. What is cut out of a bare text is bare (`IsBare.of_subset`), so is what is put together
  from bare texts, and so is every number as it is written.
-/

import Tagdown.Display.Style
import Tagdown.Proofs.Text.Lines
import Tagdown.Proofs.Text.Printable

namespace Tagdown
namespace Text

/-- The text has no escape character. -/
def IsBare (t : Text) : Prop :=
  Style.escape ∉ t

instance (t : Text) : Decidable (IsBare t) :=
  inferInstanceAs (Decidable (¬ _))

variable {t u : Text} {ts : List Text} {c : Char}

theorem isBare_append : IsBare (t ++ u) ↔ IsBare t ∧ IsBare u := by
  rw [IsBare, List.mem_append, not_or]
  rfl

theorem IsBare.append (ht : IsBare t) (hu : IsBare u) : IsBare (t ++ u) :=
  isBare_append.mpr ⟨ht, hu⟩

theorem IsBare.cons (ht : IsBare t) (hc : c ≠ Style.escape) : IsBare (c :: t) :=
  List.not_mem_cons_of_ne_of_not_mem hc.symm ht

theorem IsPrintable.isBare (h : IsPrintable t) : IsBare t :=
  h.not_mem (by decide)

theorem IsBare.of_subset (h : IsBare t) (hsub : u ⊆ t) : IsBare u :=
  fun hmem => h (hsub hmem)

/-! ## Joined and filled up -/

theorem isBare_intercalate {sep : Text} (hsep : IsBare sep) (h : ∀ t ∈ ts, IsBare t) :
    IsBare (List.intercalate sep ts) :=
  not_mem_intercalate hsep h

theorem isBare_joinLines (h : ∀ t ∈ ts, IsBare t) : IsBare (joinLines ts) :=
  isBare_intercalate (by decide) h

theorem isBare_replicate (n : Nat) (hc : c ≠ Style.escape) : IsBare (List.replicate n c) :=
  fun hmem => hc (List.eq_of_mem_replicate hmem).symm

theorem IsBare.padEnd (h : IsBare t) (width : Nat) : IsBare (padEnd width t) :=
  h.append (isBare_replicate _ (by decide))

/-! ## Numerals -/

theorem isBare_ofNat (n : Nat) : IsBare (ofNat n) :=
  (isPrintable_ofNat n).isBare

theorem isBare_ofInt (i : Int) : IsBare (ofInt i) := by
  unfold ofInt
  split
  · exact (isBare_ofNat _).cons (by decide)
  · exact isBare_ofNat _

end Text

/-! ## Binary64 numbers -/

open Text (IsBare)

namespace Binary64

theorem isBare_sign : ∀ negative : Bool, IsBare (if negative then ['-'] else []) := by
  decide

theorem isBare_infinite :
    ∀ negative : Bool, IsBare (if negative then "-inf".toList else "inf".toList) := by
  decide

theorem isBare_toFixed (places : Nat) (x : Binary64) : IsBare (x.toFixed places) :=
  (isPrintable_toFixed places x).isBare

theorem isBare_shortest (tie : Tie) (mantissa unit : Nat) :
    IsBare (shortest tie mantissa unit).digits := by
  rw [shortest]
  dsimp only
  split
  · exact List.not_mem_nil
  · exact (Text.isBare_ofNat _).of_subset (List.rdropWhile_prefix _ _).subset

end Binary64

namespace NumberLayout

variable {d : Digits}

theorem isBare_positional (layout : NumberLayout) (h : IsBare d.digits) :
    IsBare (layout.positional d) := by
  have hzeros : ∀ n, IsBare (List.replicate n '0') := fun n => Text.isBare_replicate n (by decide)
  have hwhole : IsBare (if layout.pointZero then ".0".toList else []) := by
    cases layout.pointZero <;> decide
  simp only [positional]
  split
  · exact ((show IsBare "0.".toList by decide).append (hzeros _)).append h
  split
  · exact (h.append (hzeros _)).append hwhole
  · exact (h.of_subset (List.take_subset _ _)).append
      ((h.of_subset (List.drop_subset _ _)).cons (by decide))

theorem isBare_exponential (layout : NumberLayout) (h : IsBare d.digits) :
    IsBare (layout.exponential d) := by
  have hsign : IsBare (if layout.plusSign && 0 ≤ d.point - 1 then ['+'] else []) := by
    split <;> decide
  refine IsBare.append (IsBare.append ?mantissa (hsign.cons (by decide))) (Text.isBare_ofInt _)
  split
  · exact List.not_mem_nil
  · rename_i digit hdigits
    exact hdigits ▸ h
  · rename_i digit rest _ hdigits
    rw [hdigits] at h
    exact ((h.of_subset (List.subset_cons_self _ _)).cons (by decide)).cons
      fun heq => h (heq ▸ List.mem_cons_self)

/-- A number is written without escape characters, however it is laid out. -/
theorem isBare_write (layout : NumberLayout) (x : Binary64) : IsBare (layout.write x) := by
  cases x with
  | nan => exact (by decide : IsBare "NaN".toList)
  | infinite negative => exact Binary64.isBare_infinite negative
  | finite negative mantissa unit =>
    rw [write]
    dsimp only
    split
    · refine (Binary64.isBare_sign negative).append ?_
      cases layout.pointZero <;> decide
    · refine (Binary64.isBare_sign negative).append ?_
      have hdigits := Binary64.isBare_shortest layout.tie mantissa unit
      split
      · exact isBare_positional layout hdigits
      · exact isBare_exponential layout hdigits

end NumberLayout
end Tagdown
