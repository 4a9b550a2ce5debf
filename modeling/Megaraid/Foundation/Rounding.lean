import Mathlib.Tactic.Common

/-!
# Rounding to nearest

A quotient of natural numbers rounded to the nearest natural number, to the even one
of two that are equally near. `RoundsTo` says what that means, `roundHalfEven`
computes it.
-/

namespace Megaraid

/-- `k` is the number nearest to `n / d`, and the even one if two are. -/
structure RoundsTo (n d k : Nat) : Prop where
  below : 2 * n ≤ 2 * (d * k) + d
  above : 2 * (d * k) ≤ 2 * n + d
  tie : 2 * n = 2 * (d * k) + d ∨ 2 * (d * k) = 2 * n + d → k % 2 = 0

/-- The quotient rounded to nearest, ties to even. -/
def roundHalfEven (n d : Nat) : Nat :=
  if d < 2 * (n % d) ∨ 2 * (n % d) = d ∧ n / d % 2 = 1 then n / d + 1 else n / d

variable {m n d j k : Nat}

/-- Half-to-even rounding yields a nearest integer. -/
theorem roundsTo_roundHalfEven (n : Nat) (positive : 0 < d) :
    RoundsTo n d (roundHalfEven n d) := by
  have divided := Nat.div_add_mod n d
  have rest := Nat.mod_lt n positive
  have next : d * (n / d + 1) = d * (n / d) + d := Nat.mul_succ d (n / d)
  unfold roundHalfEven
  generalize n / d = quotient at divided next ⊢
  generalize n % d = remainder at divided rest ⊢
  split
  · constructor
    · omega
    · omega
    · omega
  · constructor
    · omega
    · omega
    · omega

/-- Rounding keeps the order. -/
theorem RoundsTo.mono (positive : 0 < d) (le : m ≤ n) (first : RoundsTo m d j)
    (second : RoundsTo n d k) : j ≤ k := by
  by_contra exceeds
  have apart : d * (k + 1) ≤ d * j := Nat.mul_le_mul_left d (by omega)
  have next : d * (k + 1) = d * k + d := Nat.mul_succ d k
  have low := first.above
  have high := second.below
  have level : d * j = d * (k + 1) := by omega
  have adjacent : j = k + 1 := Nat.eq_of_mul_eq_mul_left positive level
  have even := first.tie (by omega)
  have alsoEven := second.tie (by omega)
  omega

end Megaraid
