import Megaraid.Foundation.Replay

/-!
# The same run on answers that are put differently

A computation whose world is a stream takes its answers from the front of it, and
its record names them. Here every event of a record is retold, and with it the answer
that it names. `Traced.Retells` relates two computations of which the second one, given
the retold answers of the first, records the retold events and takes no answer more. It
is kept by sequencing, branching and iteration, and a computation that leaves nothing
to retell is related to itself.
-/

namespace Megaraid.Traced

variable {A E α β γ δ σ τ : Type}

/-- The answers of a run, each put the way its retold event names it. -/
def retold (answer? : E → Option A) (retell : E → E) (x : Traced (Stream' A) E α)
    (w : Stream' A) : List A :=
  ((x.events w).map retell).filterMap answer?

/-- On the retold answers of `x`, the computation `y` does what `x` did, as retold. -/
structure Retells (answer? : E → Option A) (retell : E → E) (alike : α → γ → Prop)
    (x : Traced (Stream' A) E α) (y : Traced (Stream' A) E γ) : Prop where
  events : ∀ w rest, y.events (x.retold answer? retell w ++ₛ rest) = (x.events w).map retell
  value : ∀ w rest, alike (x.value w) (y.value (x.retold answer? retell w ++ₛ rest))
  world : ∀ w rest, y.world (x.retold answer? retell w ++ₛ rest) = rest

namespace Retells

variable {answer? : E → Option A} {retell : E → E} {alike : α → γ → Prop}
  {after : β → δ → Prop}

/-- Two computations that do nothing. -/
theorem pure {a : α} {c : γ} (same : alike a c) :
    Retells answer? retell alike (Pure.pure a) (Pure.pure c) where
  events _ _ := rfl
  value _ _ := same
  world _ _ := rfl

/-- One after the other, on the answers that are left. -/
theorem bind {x : Traced (Stream' A) E α} {y : Traced (Stream' A) E γ}
    {f : α → Traced (Stream' A) E β} {g : γ → Traced (Stream' A) E δ}
    (first : Retells answer? retell alike x y)
    (second : ∀ a c, alike a c → Retells answer? retell after (f a) (g c)) :
    Retells answer? retell after (x >>= f) (y >>= g) := by
  have split : ∀ w rest, (x >>= f).retold answer? retell w ++ₛ rest =
      x.retold answer? retell w ++ₛ
        ((f (x.value w)).retold answer? retell (x.world w) ++ₛ rest) := by
    intro w rest
    rw [retold, events_bind, List.map_append, List.filterMap_append,
      Stream'.append_append_stream]
    rfl
  constructor <;> intro w rest <;> rw [split]
  · rw [events_bind, events_bind, List.map_append, first.events, first.world]
    rw [(second _ _ (first.value w _)).events]
  · rw [value_bind, value_bind, first.world]
    exact (second _ _ (first.value w _)).value _ _
  · rw [world_bind, first.world]
    exact (second _ _ (first.value w _)).world _ _

/-- The first parts return the same. -/
theorem bind_eq {x y : Traced (Stream' A) E α} {f : α → Traced (Stream' A) E β}
    {g : α → Traced (Stream' A) E δ} (first : Retells answer? retell Eq x y)
    (second : ∀ a, Retells answer? retell after (f a) (g a)) :
    Retells answer? retell after (x >>= f) (y >>= g) := by
  apply bind first
  intro a c same
  rw [same]
  exact second c

/-- Related values are mapped to related values. -/
theorem map {x : Traced (Stream' A) E α} {y : Traced (Stream' A) E γ} {f : α → β} {g : γ → δ}
    (retells : Retells answer? retell alike x y)
    (mapped : ∀ a c, alike a c → after (f a) (g c)) :
    Retells answer? retell after (f <$> x) (g <$> y) := by
  rw [map_eq_pure_bind, map_eq_pure_bind]
  exact bind retells fun a c same => pure (mapped a c same)

/-- Branches that are taken together. -/
theorem ite {condition : Prop} [Decidable condition] {x x' : Traced (Stream' A) E α}
    {y y' : Traced (Stream' A) E γ}
    (whenTrue : condition → Retells answer? retell alike x y)
    (whenFalse : ¬condition → Retells answer? retell alike x' y') :
    Retells answer? retell alike (if condition then x else x') (if condition then y else y') := by
  split
  · rename_i holds
    exact whenTrue holds
  · rename_i fails
    exact whenFalse fails

/-- An interaction that takes the next answer, whatever it is told instead. -/
theorem next {event : A → E} {alike : A → A → Prop}
    (told : ∀ a, ∃ b, retell (event a) = event b ∧ answer? (event b) = some b ∧ alike a b) :
    Retells answer? retell alike (Traced.interact (fun w => (w.head, w.tail)) event)
      (Traced.interact (fun w => (w.head, w.tail)) event) := by
  have front : ∀ w : Stream' A, ∃ b, retell (event w.head) = event b ∧ alike w.head b ∧
      (Traced.interact (fun w => (w.head, w.tail)) event).retold answer? retell w = [b] := by
    intro w
    obtain ⟨b, rewritten, named, same⟩ := told w.head
    refine ⟨b, rewritten, same, ?_⟩
    simp [retold, rewritten, named]
  constructor <;> intro w rest <;> obtain ⟨b, rewritten, same, one⟩ := front w <;> rw [one]
  · exact congrArg (fun event => [event]) rewritten.symm
  · exact same
  · rfl

/-- A computation that leaves nothing to retell. -/
theorem refl {x : Traced (Stream' A) E α} (replayable : Replayable answer? x)
    (kept : Emits (fun event => retell event = event) x) :
    Retells answer? retell Eq x x := by
  have record : ∀ w, (x.events w).map retell = x.events w := by
    intro w
    rw [List.map_congr_left (kept.holds w), List.map_id']
  have taken : ∀ w, x.retold answer? retell w = x.answers answer? w := by
    intro w
    rw [retold, record, answers]
  constructor <;> intro w rest <;> rw [taken]
  · rw [record, Traced.events, replayable.replay]
  · rw [Traced.value, Traced.value, replayable.replay, Traced.value]
  · rw [Traced.world, replayable.replay]

/-- An unbounded loop, cut off after the same number of rounds. -/
theorem iterate {heads : σ → τ → Prop} {body : σ → Traced (Stream' A) E (σ ⊕ α)}
    {other : τ → Traced (Stream' A) E (τ ⊕ γ)}
    (round : ∀ s t, heads s t →
      Retells answer? retell (Sum.LiftRel heads alike) (body s) (other t))
    (rounds : Nat) {s : σ} {t : τ} (together : heads s t) :
    Retells answer? retell (Sum.LiftRel heads alike) (Traced.iterate body rounds s)
      (Traced.iterate other rounds t) := by
  induction rounds generalizing s t with
  | zero => exact pure (Sum.LiftRel.inl together)
  | succ rounds ih =>
      apply bind (round s t together)
      intro ended ended' outcome
      cases outcome with
      | inl next => exact ih next
      | inr result => exact pure (Sum.LiftRel.inr result)

/-- The whole run on the retold answers, when the values are the same. -/
theorem run_eq {x y : Traced (Stream' A) E α} (retells : Retells answer? retell Eq x y)
    (w rest : Stream' A) :
    y (x.retold answer? retell w ++ₛ rest) = ⟨x.value w, (x.events w).map retell, rest⟩ := by
  calc y (x.retold answer? retell w ++ₛ rest)
      = ⟨y.value (x.retold answer? retell w ++ₛ rest),
          y.events (x.retold answer? retell w ++ₛ rest),
          y.world (x.retold answer? retell w ++ₛ rest)⟩ := rfl
    _ = ⟨x.value w, (x.events w).map retell, rest⟩ := by
      rw [← retells.value, retells.events, retells.world]

end Retells

end Megaraid.Traced
