/-
  Tagdown.Numeric.Power

  The powers of two and ten, and the sizes of machine words.
-/

namespace Tagdown

/-- A power of two. -/
def pow2 (n : Nat) : Nat :=
  Nat.pow 2 n

/-- A power of ten. -/
def pow10 (n : Nat) : Nat :=
  Nat.pow 10 n

theorem pow2_succ (n : Nat) : pow2 (n + 1) = pow2 n * 2 :=
  rfl

theorem pow10_succ (n : Nat) : pow10 (n + 1) = pow10 n * 10 :=
  rfl

theorem pow2_pos (n : Nat) : 0 < pow2 n :=
  Nat.pow_pos (by decide)

theorem pow10_pos (n : Nat) : 0 < pow10 n :=
  Nat.pow_pos (by decide)

/-- Counts of 64 bits stay below this. -/
def wordLimit : Nat :=
  pow2 64

end Tagdown
