import Mathlib.Data.List.Forall2
import Megaraid.Foundation.Iterate

/-!
# Two computations side by side

`Traced.Simulates` relates two computations over related worlds. Started alike they
record related events one for one, return related values and leave related worlds.
There is a rule for each way a computation is put together, so that a simulation is
proved along the texts of the two programs.
-/

namespace Megaraid.Traced

variable {W V E F α β γ δ σ τ : Type} {worlds : W → V → Prop} {related : E → F → Prop}
  {returned : α → γ → Prop} {after : β → δ → Prop}

/-- What `x` does in a world is what `y` does in a related one, up to a relation on the
events and one on the values. -/
structure Simulates (worlds : W → V → Prop) (related : E → F → Prop) (returned : α → γ → Prop)
    (x : Traced W E α) (y : Traced V F γ) : Prop where
  events : ∀ w v, worlds w v → List.Forall₂ related (x.events w) (y.events v)
  value : ∀ w v, worlds w v → returned (x.value w) (y.value v)
  world : ∀ w v, worlds w v → worlds (x.world w) (y.world v)

namespace Simulates

/-- Two computations that do nothing. -/
theorem pure {a : α} {c : γ} (alike : returned a c) :
    Simulates worlds related returned (Pure.pure a) (Pure.pure c) where
  events _ _ _ := List.Forall₂.nil
  value _ _ _ := alike
  world _ _ together := together

/-- One after the other, whenever the first values are related. -/
theorem bind {x : Traced W E α} {y : Traced V F γ} {f : α → Traced W E β} {g : γ → Traced V F δ}
    (first : Simulates worlds related returned x y)
    (second : ∀ a c, returned a c → Simulates worlds related after (f a) (g c)) :
    Simulates worlds related after (x >>= f) (y >>= g) where
  events w v together := by
    have rest := second _ _ (first.value w v together)
    rw [events_bind, events_bind]
    exact List.rel_append (first.events w v together)
      (rest.events _ _ (first.world w v together))
  value w v together := by
    have rest := second _ _ (first.value w v together)
    exact rest.value _ _ (first.world w v together)
  world w v together := by
    have rest := second _ _ (first.value w v together)
    exact rest.world _ _ (first.world w v together)

/-- The first parts return the same. -/
theorem bind_eq {x : Traced W E α} {y : Traced V F α} {f : α → Traced W E β}
    {g : α → Traced V F δ} (first : Simulates worlds related Eq x y)
    (second : ∀ a, Simulates worlds related after (f a) (g a)) :
    Simulates worlds related after (x >>= f) (y >>= g) := by
  apply bind first
  intro a c same
  rw [same]
  exact second c

/-- Related values are mapped to related values. -/
theorem map {x : Traced W E α} {y : Traced V F γ} {f : α → β} {g : γ → δ}
    (alike : Simulates worlds related returned x y)
    (mapped : ∀ a c, returned a c → after (f a) (g c)) :
    Simulates worlds related after (f <$> x) (g <$> y) where
  events w v together := by
    rw [events_map, events_map]
    exact alike.events w v together
  value w v together := mapped _ _ (alike.value w v together)
  world := alike.world

/-- A weaker relation on the values follows. -/
theorem mono {looser : α → γ → Prop} {x : Traced W E α} {y : Traced V F γ}
    (alike : Simulates worlds related returned x y)
    (weaker : ∀ a c, returned a c → looser a c) : Simulates worlds related looser x y where
  events := alike.events
  value w v together := weaker _ _ (alike.value w v together)
  world := alike.world

/-- Related worlds give related answers. -/
theorem interact {answer : W → α × W} {answer' : V → γ × V} {event : α → E} {event' : γ → F}
    (answers : ∀ w v, worlds w v → returned (answer w).1 (answer' v).1 ∧
      worlds (answer w).2 (answer' v).2)
    (recorded : ∀ a c, returned a c → related (event a) (event' c)) :
    Simulates worlds related returned (Traced.interact answer event)
      (Traced.interact answer' event') where
  events w v together := .cons (recorded _ _ (answers w v together).1) .nil
  value w v together := (answers w v together).1
  world w v together := (answers w v together).2

/-- The same question to the same world. -/
theorem ask {answer : W → α × W} {event : α → E} {other : α → F}
    (recorded : ∀ a, related (event a) (other a)) :
    Simulates Eq related Eq (Traced.interact answer event) (Traced.interact answer other) := by
  apply interact
  · intro w v together
    rw [together]
    exact ⟨rfl, rfl⟩
  · intro a c same
    rw [same]
    exact recorded c

/-- One event on either side. -/
theorem record {event : E} {other : F} (recorded : related event other) :
    Simulates worlds related Eq (Traced.record event) (Traced.record other) where
  events _ _ _ := List.Forall₂.cons recorded List.Forall₂.nil
  value _ _ _ := rfl
  world _ _ together := together

/-- Branches that are taken together. -/
theorem ite {condition : Prop} [Decidable condition] {x x' : Traced W E α} {y y' : Traced V F γ}
    (whenTrue : condition → Simulates worlds related returned x y)
    (whenFalse : ¬condition → Simulates worlds related returned x' y') :
    Simulates worlds related returned (if condition then x else x')
      (if condition then y else y') := by
  split
  · rename_i holds
    exact whenTrue holds
  · rename_i fails
    exact whenFalse fails

/-- An unbounded loop, cut off after the same number of rounds. -/
theorem iterate {heads : σ → τ → Prop} {body : σ → Traced W E (σ ⊕ α)}
    {other : τ → Traced V F (τ ⊕ γ)}
    (round : ∀ s t, heads s t →
      Simulates worlds related (Sum.LiftRel heads returned) (body s) (other t))
    (rounds : Nat) {s : σ} {t : τ} (together : heads s t) :
    Simulates worlds related (Sum.LiftRel heads returned) (Traced.iterate body rounds s)
      (Traced.iterate other rounds t) := by
  induction rounds generalizing s t with
  | zero => exact pure (Sum.LiftRel.inl together)
  | succ rounds ih =>
      apply bind (round s t together)
      intro ended ended' alike
      cases alike with
      | inl next => exact ih next
      | inr result => exact pure (Sum.LiftRel.inr result)

/-- A computation simulates itself in the same world. -/
theorem refl {related : E → E → Prop} (reflexive : ∀ event, related event event)
    (x : Traced W E α) : Simulates Eq related Eq x x where
  events w v together := by
    rw [together]
    exact List.forall₂_same.mpr fun event _ => reflexive event
  value w v together := by rw [together]
  world w v together := by rw [together]

/-- What is read off related events is the same. -/
theorem map_eq {κ : Type} {x : Traced W E α} {y : Traced V F γ}
    (alike : Simulates worlds related returned x y) {read : E → κ} {other : F → κ}
    (same : ∀ e f, related e f → read e = other f) {w : W} {v : V} (together : worlds w v) :
    (x.events w).map read = (y.events v).map other := by
  rw [← List.forall₂_eq_eq_eq, List.forall₂_map_left_iff, List.forall₂_map_right_iff]
  exact (alike.events w v together).imp same

end Simulates

end Megaraid.Traced
