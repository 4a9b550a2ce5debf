import Megaraid.Foundation.Traced

/-!
# Observing a program that is generic in its monad

The same text, run once with its interactions recorded and once without.
`Traced.Observed` says that the two runs agree on the value, that every event of
the recorded run has a property, and how many events there are at most. What
comes next has to be observed only for the value that was computed, so the
property may rest on values found before.
-/

namespace Megaraid.Traced

variable {W E α β : Type}

/-- The recorded run `x` of the computation `y`. -/
structure Observed (property : E → Prop) (count : Nat) (x : Traced W E α) (y : Id α) : Prop where
  value : ∀ w, x.value w = Id.run y
  events : ∀ w, ∀ event ∈ x.events w, property event
  few : ∀ w, (x.events w).length ≤ count

namespace Observed

variable {property : E → Prop} {count more : Nat} {x : Traced W E α} {y : Id α}

/-- A computation that does nothing observes nothing. -/
theorem pure (a : α) (count : Nat) :
    Observed property count (Pure.pure a : Traced W E α) (Pure.pure a) where
  value _ := rfl
  events w event member := by cases member
  few _ := Nat.zero_le count

/-- A larger count bounds the events as well. -/
theorem mono (observed : Observed property count x y) (enough : count ≤ more) :
    Observed property more x y where
  value := observed.value
  events := observed.events
  few w := Nat.le_trans (observed.few w) enough

/-- Counts add up when one computation follows the other. -/
theorem bind {f : α → Traced W E β} {g : α → Id β} (first : Observed property count x y)
    (second : Observed property more (f (Id.run y)) (g (Id.run y))) :
    Observed property (more + count) (x >>= f) (y >>= g) where
  value w := by rw [value_bind, first.value, second.value, Id.run_bind]
  events w event member := by
    rw [events_bind, first.value, List.mem_append] at member
    rcases member with early | late
    · exact first.events w event early
    · exact second.events _ event late
  few w := by
    rw [events_bind, first.value, List.length_append]
    rw [Nat.add_comm more count]
    exact Nat.add_le_add (first.few w) (second.few _)

/-- A pure step at the end is not observed. -/
theorem thenPure (observed : Observed property count x y) (f : α → β) :
    Observed property count (x >>= fun a => Pure.pure (f a)) (y >>= fun a => Pure.pure (f a)) :=
  (observed.bind (pure (f (Id.run y)) 0)).mono (Nat.le_of_eq (Nat.zero_add count))

/-- Branches that are taken together. -/
theorem ite {condition : Prop} [Decidable condition] {x' : Traced W E α} {y' : Id α}
    (whenTrue : condition → Observed property count x y)
    (whenFalse : ¬condition → Observed property count x' y') :
    Observed property count (if condition then x else x') (if condition then y else y') := by
  split
  · rename_i holds
    exact whenTrue holds
  · rename_i fails
    exact whenFalse fails

/-- The second condition is looked at only if the first one holds. -/
theorem andM {x x' : Traced W E Bool} {y y' : Id Bool} (first : Observed property count x y)
    (second : Id.run y = true → Observed property more x' y') :
    Observed property (more + count) (x <&&> x') (y <&&> y') := by
  refine first.bind ?_
  cases holds : Id.run y with
  | true => exact second holds
  | false => exact pure false more

end Observed

end Megaraid.Traced
