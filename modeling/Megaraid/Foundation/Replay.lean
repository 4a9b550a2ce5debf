import Mathlib.Data.Stream.Init
import Megaraid.Foundation.Iterate

/-!
# Replaying a record against a stream of answers

A computation whose world is a stream takes its answers from the front of it.
`Traced.Replayable` says that the answers found in the record are the answers
taken, and that any stream beginning with them gives the same run; both are
kept by sequencing, branching and iteration. `Traced.Emits` is the companion for
properties of single events.
-/

namespace Megaraid.Traced

variable {A E α β σ : Type}

/-- Every event a computation records, in any world, has the property. -/
structure Emits {W : Type} (property : E → Prop) (x : Traced W E α) : Prop where
  holds : ∀ w, ∀ event ∈ x.events w, property event

namespace Emits

variable {W : Type} {property : E → Prop}

/-- A computation that does nothing emits nothing. -/
theorem pure (a : α) : Emits property (Pure.pure a : Traced W E α) := by
  refine ⟨fun w event member => ?_⟩
  cases member

/-- One computation after the other. -/
theorem bind {x : Traced W E α} {f : α → Traced W E β} (first : Emits property x)
    (second : ∀ a, Emits property (f a)) : Emits property (x >>= f) := by
  refine ⟨fun w event member => ?_⟩
  rw [events_bind, List.mem_append] at member
  rcases member with early | late
  · exact first.holds w event early
  · exact (second _).holds _ event late

/-- Events with a property have any weaker one. -/
theorem mono {other : E → Prop} {x : Traced W E α} (only : Emits property x)
    (weaker : ∀ event, property event → other event) : Emits other x :=
  ⟨fun w event member => weaker event (only.holds w event member)⟩

/-- Mapping the value leaves the events. -/
theorem map {x : Traced W E α} (f : α → β) (only : Emits property x) :
    Emits property (f <$> x) := by
  refine ⟨fun w event member => ?_⟩
  rw [events_map] at member
  exact only.holds w event member

/-- Every answer of the world gives an event with the property. -/
theorem interact {answer : W → α × W} {event : α → E} (holds : ∀ a, property (event a)) :
    Emits property (Traced.interact answer event) := by
  refine ⟨fun w emitted member => ?_⟩
  rw [events_interact, List.mem_singleton] at member
  exact member ▸ holds _

/-- A recorded event has to have the property. -/
theorem record {event : E} (holds : property event) :
    Emits property (Traced.record event : Traced W E Unit) := by
  refine ⟨fun w emitted member => ?_⟩
  rw [events_record, List.mem_singleton] at member
  exact member ▸ holds

/-- Both branches emit such events only. -/
theorem ite {condition : Prop} [Decidable condition] {x y : Traced W E α}
    (whenTrue : Emits property x) (whenFalse : Emits property y) :
    Emits property (if condition then x else y) := by
  split
  · exact whenTrue
  · exact whenFalse

/-- A loop over a list. -/
theorem forM {body : β → Traced W E Unit} (each : ∀ b, Emits property (body b))
    (items : List β) : Emits property (items.forM body) := by
  induction items with
  | nil => exact pure ()
  | cons item items ih => exact bind (each item) fun _ => ih

/-- If every round emits such events only, so does the loop. -/
theorem iterate {body : σ → Traced W E (σ ⊕ β)} (round : ∀ state, Emits property (body state))
    (rounds : Nat) (state : σ) : Emits property (Traced.iterate body rounds state) := by
  induction rounds generalizing state with
  | zero => exact pure _
  | succ rounds ih =>
      refine bind (round state) fun ended => ?_
      cases ended with
      | inl next => exact ih next
      | inr result => exact pure _

end Emits

/-- The answers that a run took, according to its record. -/
def answers (answer? : E → Option A) (x : Traced (Stream' A) E α) (w : Stream' A) : List A :=
  (x.events w).filterMap answer?

/-- The record of a run names the answers it took, and they determine the run. -/
structure Replayable (answer? : E → Option A) (x : Traced (Stream' A) E α) : Prop where
  taken : ∀ w, x.answers answer? w ++ₛ x.world w = w
  replay : ∀ w rest, x (x.answers answer? w ++ₛ rest) = ⟨x.value w, x.events w, rest⟩

namespace Replayable

variable {answer? : E → Option A}

/-- A computation that does nothing needs no answer. -/
theorem pure (a : α) : Replayable answer? (Pure.pure a : Traced (Stream' A) E α) :=
  ⟨fun _ => rfl, fun _ _ => rfl⟩

/-- One computation after the other, on the answers that are left. -/
theorem bind {x : Traced (Stream' A) E α} {f : α → Traced (Stream' A) E β}
    (first : Replayable answer? x) (second : ∀ a, Replayable answer? (f a)) :
    Replayable answer? (x >>= f) := by
  have split : ∀ w, (x >>= f).answers answer? w =
      x.answers answer? w ++ (f (x.value w)).answers answer? (x.world w) := by
    intro w
    rw [answers, events_bind, List.filterMap_append]
    rfl
  refine ⟨fun w => ?_, fun w rest => ?_⟩
  · rw [split, Stream'.append_append_stream, world_bind, (second _).taken, first.taken]
  · rw [split, Stream'.append_append_stream]
    simp only [Bind.bind, value, events, world]
    rw [first.replay]
    have next := (second (x.value w)).replay (x.world w) rest
    simp only [value, events, world] at next ⊢
    rw [next]

/-- An event that is no answer needs none. -/
theorem record {event : E} (silent : answer? event = none) :
    Replayable answer? (Traced.record event : Traced (Stream' A) E Unit) := by
  have none : ∀ w, (Traced.record event).answers answer? w = [] := by
    intro w
    simp [answers, silent]
  exact ⟨fun w => by rw [none]; rfl, fun w rest => by rw [none]; rfl⟩

/-- An interaction that takes no answer from the stream. -/
theorem consult {a : α} {event : α → E} (silent : answer? (event a) = none) :
    Replayable answer? (Traced.interact (fun w : Stream' A => (a, w)) event) := by
  have none : ∀ w : Stream' A,
      (Traced.interact (fun w => (a, w)) event).answers answer? w = [] := by
    intro w
    simp [answers, silent]
  exact ⟨fun w => by rw [none]; rfl, fun w rest => by rw [none]; rfl⟩

/-- An interaction that takes the next answer and records it. -/
theorem next {event : A → E} (recorded : ∀ a, answer? (event a) = some a) :
    Replayable answer? (Traced.interact (fun w => (w.head, w.tail)) event) := by
  have one : ∀ w, (Traced.interact (fun w => (w.head, w.tail)) event).answers answer? w =
      [w.head] := by
    intro w
    simp [answers, recorded]
  refine ⟨fun w => ?_, fun w rest => ?_⟩
  · rw [one, world_interact, Stream'.append_stream_head_tail]
  · rw [one]
    rfl

/-- Both branches can be replayed. -/
theorem ite {condition : Prop} [Decidable condition] {x y : Traced (Stream' A) E α}
    (whenTrue : Replayable answer? x) (whenFalse : Replayable answer? y) :
    Replayable answer? (if condition then x else y) := by
  split
  · exact whenTrue
  · exact whenFalse

/-- Mapping the value leaves the answers that are used. -/
theorem map {x : Traced (Stream' A) E α} (f : α → β) (replayable : Replayable answer? x) :
    Replayable answer? (f <$> x) := by
  rw [map_eq_pure_bind]
  exact bind replayable fun a => pure (f a)

end Replayable

end Megaraid.Traced
