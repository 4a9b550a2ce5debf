import Mathlib.Data.Nat.Find
import Mathlib.Tactic.Common

/-!
# Giving up after failures in a row

A watchdog looks at one observation after another. It stops at the first final one,
and it gives up when the last `limit` were failures. A program decides this with a
counter that every success resets, which is `streak`; `stopsAt_iff` says that the
counter decides it.
-/

namespace Megaraid.Watchdog

variable {α : Type} (failed final : α → Prop) (limit : Nat)
  (observed : Nat → α)

/-- The watch ends with an observation: it is final, or the last `limit` were failures. -/
def StopsAt (n : Nat) : Prop :=
  final (observed n) ∨ limit ≤ n + 1 ∧ ∀ i, n + 1 - limit ≤ i → i ≤ n → failed (observed i)

/-- It ends with this observation and not before. -/
def FirstStop (n : Nat) : Prop :=
  StopsAt failed final limit observed n ∧ ∀ m < n, ¬StopsAt failed final limit observed m

variable [DecidablePred failed]

/-- The counter of failures before an observation, as a program keeps it. -/
def streak : Nat → Nat
  | 0 => 0
  | n + 1 => if failed (observed n) then streak n + 1 else 0

variable {failed final limit observed}

/-- The counter is at least `k` if the `k` observations before were failures. -/
theorem le_streak_iff {k n : Nat} :
    k ≤ streak failed observed n ↔ k ≤ n ∧ ∀ i, n - k ≤ i → i < n → failed (observed i) := by
  induction n generalizing k with
  | zero =>
      simp only [streak, Nat.not_lt_zero, false_implies, implies_true, and_true]
  | succ n ih =>
      rw [streak]
      split
      · rename_i now
        cases k with
        | zero => exact iff_of_true (Nat.zero_le _) ⟨Nat.zero_le _, fun i low high => by omega⟩
        | succ k =>
            rw [Nat.succ_le_succ_iff, ih]
            refine and_congr Nat.succ_le_succ_iff.symm ⟨fun before i low high => ?_, ?_⟩
            · rcases Nat.lt_or_ge i n with earlier | latest
              · exact before i (by omega) earlier
              · have last : i = n := by omega
                rwa [last]
            · exact fun all i low high => all i (by omega) (by omega)
      · rename_i now
        constructor
        · intro none
          have zero : k = 0 := Nat.le_zero.mp none
          rw [zero]
          exact ⟨Nat.zero_le _, fun i low high => by omega⟩
        · rintro ⟨within, all⟩
          by_contra some
          exact now (all n (by omega) (Nat.lt_succ_self n))

/-- What the counter decides. -/
theorem stopsAt_iff {n : Nat} (positive : 0 < limit) :
    StopsAt failed final limit observed n ↔
      final (observed n) ∨ failed (observed n) ∧ limit ≤ streak failed observed n + 1 := by
  have counted : failed (observed n) ∧ limit ≤ streak failed observed n + 1 ↔
      limit ≤ streak failed observed (n + 1) := by
    rw [streak]
    split
    · rename_i now
      exact and_iff_right now
    · rename_i now
      exact iff_of_false (fun both => now both.1) (by omega)
  rw [StopsAt, counted, le_streak_iff]
  simp only [Nat.lt_succ_iff]

omit [DecidablePred failed] in
/-- If the watch ends with an observation, it has a first end. -/
theorem exists_firstStop {n : Nat} (stops : StopsAt failed final limit observed n) :
    ∃ m ≤ n, FirstStop failed final limit observed m := by
  classical
  have somewhere : ∃ m, StopsAt failed final limit observed m := ⟨n, stops⟩
  exact ⟨Nat.find somewhere, Nat.find_min' somewhere stops, Nat.find_spec somewhere,
    fun m earlier => Nat.find_min somewhere earlier⟩

end Megaraid.Watchdog
