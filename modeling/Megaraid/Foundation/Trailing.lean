import Mathlib.Data.List.DropRight

/-!
# Runs at the end of a list

How many elements at the end of a list satisfy a condition in a row, and when
the most recent ones all do.
-/

namespace Megaraid

variable {α : Type}

/-- The number of elements at the end of the list that satisfy `p` in a row. -/
def trailing (p : α → Bool) (history : List α) : Nat := (history.rtakeWhile p).length

/-- The `n` last elements exist and satisfy `p`. -/
def LastAll (p : α → Bool) (n : Nat) (history : List α) : Prop :=
  ∃ earlier recent, history = earlier ++ recent ∧ recent.length = n ∧ ∀ x ∈ recent, p x

/-- One more that satisfies the predicate lengthens the trailing run. -/
theorem trailing_concat_pos {p : α → Bool} {x : α} (history : List α) (holds : p x) :
    trailing p (history ++ [x]) = trailing p history + 1 := by
  rw [trailing, List.rtakeWhile_concat_pos p history x holds, List.length_append]
  rfl

/-- One that fails the predicate ends the trailing run. -/
theorem trailing_concat_neg {p : α → Bool} {x : α} (history : List α) (fails : ¬p x) :
    trailing p (history ++ [x]) = 0 := by
  rw [trailing, List.rtakeWhile_concat_neg p history x fails]
  rfl

/-- Entries that all satisfy the predicate are part of the trailing run. -/
theorem trailing_append_of_forall {p : α → Bool} {recent : List α} (earlier : List α)
    (holds : ∀ x ∈ recent, p x) : recent.length ≤ trailing p (earlier ++ recent) := by
  induction recent using List.reverseRecOn with
  | nil => exact Nat.zero_le _
  | append_singleton recent x ih =>
      have before := ih fun y member => holds y (List.mem_append_left _ member)
      rw [← List.append_assoc, trailing_concat_pos _ (holds x (by simp)), List.length_append]
      exact Nat.succ_le_succ before

/-- The last `n` entries satisfy the predicate if and only if the trailing run is that long. -/
theorem lastAll_iff (p : α → Bool) (n : Nat) (history : List α) :
    LastAll p n history ↔ n ≤ trailing p history := by
  constructor
  · rintro ⟨earlier, recent, rfl, rfl, holds⟩
    exact trailing_append_of_forall earlier holds
  · intro enough
    let run := history.rtakeWhile p
    refine ⟨history.rdropWhile p ++ run.take (run.length - n), run.drop (run.length - n),
      ?_, ?_, ?_⟩
    · rw [List.append_assoc, List.take_append_drop, List.rdropWhile_append_rtakeWhile]
    · have counted : n ≤ run.length := enough
      rw [List.length_drop]
      omega
    · intro x member
      exact List.mem_rtakeWhile_imp (List.mem_of_mem_drop member)

end Megaraid
