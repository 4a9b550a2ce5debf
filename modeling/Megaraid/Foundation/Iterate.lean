import Megaraid.Foundation.Traced

/-!
# Unbounded loops

A loop body maps the state at the loop head to the next state or to a result.
`Traced.iterate` runs at most a given number of rounds; a run that has returned
no longer changes when it is given more rounds (`Traced.iterate_of_exit`), so
the result of the unbounded loop is the result of any sufficiently long bounded
run. Invariants of the loop head (`Traced.LoopInvariant`) relate the state to
everything recorded so far, and a returning run factors through the head of its
last round (`Traced.iterate_exit`).
-/

namespace Megaraid.Traced

variable {W E σ β : Type}

/-- Go on with the loop unless it has returned. -/
def resume (body : σ → Traced W E (σ ⊕ β)) : σ ⊕ β → Traced W E (σ ⊕ β)
  | .inl state => body state
  | .inr result => pure (.inr result)

/-- Run the body at most `rounds` times, from the given state at the loop head. -/
def iterate (body : σ → Traced W E (σ ⊕ β)) : Nat → σ → Traced W E (σ ⊕ β)
  | 0, state => pure (.inl state)
  | rounds + 1, state => body state >>= resume (iterate body rounds)

variable (body : σ → Traced W E (σ ⊕ β))

/-- One round is the body. -/
theorem iterate_one (state : σ) : iterate body 1 state = body state := by
  change body state >>= resume (fun next => pure (.inl next)) = body state
  have identity : resume (fun next => pure (.inl next)) =
      (pure : σ ⊕ β → Traced W E (σ ⊕ β)) := by
    funext ended
    cases ended <;> rfl
  rw [identity, bind_pure]

/-- One more round at the end of a bounded run. -/
theorem iterate_succ (rounds : Nat) (state : σ) :
    iterate body (rounds + 1) state = iterate body rounds state >>= resume body := by
  induction rounds generalizing state with
  | zero => exact iterate_one body state
  | succ rounds ih =>
      change body state >>= resume (iterate body (rounds + 1)) =
        (body state >>= resume (iterate body rounds)) >>= resume body
      rw [bind_assoc]
      congr 1
      funext ended
      cases ended with
      | inl next => exact ih next
      | inr result => rfl

variable {rounds : Nat} {state head : σ} {result : β} {w : W}

section Head

variable (reached : (iterate body rounds state).value w = .inl head)
include reached

/-- The last of several rounds decides the value. -/
theorem iterate_succ_value : (iterate body (rounds + 1) state).value w =
    (body head).value ((iterate body rounds state).world w) := by
  rw [iterate_succ, value_bind, reached, resume]

/-- The last of several rounds is recorded after the others. -/
theorem iterate_succ_events : (iterate body (rounds + 1) state).events w =
    (iterate body rounds state).events w ++
      (body head).events ((iterate body rounds state).world w) := by
  rw [iterate_succ, events_bind, reached, resume]

/-- The last of several rounds leaves the world behind. -/
theorem iterate_succ_world : (iterate body (rounds + 1) state).world w =
    (body head).world ((iterate body rounds state).world w) := by
  rw [iterate_succ, world_bind, reached, resume]

end Head

/-- A returned run is not changed by further rounds. -/
theorem iterate_of_exit (exited : (iterate body rounds state).value w = .inr result)
    {more : Nat} (le : rounds ≤ more) :
    iterate body more state w = iterate body rounds state w := by
  induction le with
  | refl => rfl
  | @step more _ ih =>
      have stays : (iterate body more state).value w = .inr result := by
        rw [← exited, value, ih, value]
      rw [← ih, iterate_succ]
      simp only [bind, stays, resume]
      simp only [value_pure, events_pure, List.append_nil, world_pure]
      rw [← stays]
      rfl

/-- A run that is at the loop head was there after every earlier round. -/
theorem iterate_head_of_le (reached : (iterate body rounds state).value w = .inl head)
    {fewer : Nat} (le : fewer ≤ rounds) :
    ∃ earlier, (iterate body fewer state).value w = .inl earlier := by
  cases ended : (iterate body fewer state).value w with
  | inl earlier => exact ⟨earlier, rfl⟩
  | inr result =>
      have stopped := iterate_of_exit body ended le
      rw [value, stopped, ← value, ended] at reached
      cases reached

/-- A returning run is a run to the head of its last round, then that round. -/
theorem iterate_exit (exited : (iterate body rounds state).value w = .inr result) :
    ∃ last head, last < rounds ∧ (iterate body last state).value w = .inl head ∧
      (body head).value ((iterate body last state).world w) = .inr result ∧
      iterate body rounds state w = iterate body (last + 1) state w := by
  induction rounds with
  | zero => cases exited
  | succ rounds ih =>
      cases ended : (iterate body rounds state).value w with
      | inl head =>
          refine ⟨rounds, head, Nat.lt_succ_self rounds, ended, ?_, rfl⟩
          rw [← iterate_succ_value body ended, exited]
      | inr earlier =>
          have same := iterate_of_exit body ended (Nat.le_succ rounds)
          have agrees : (iterate body rounds state).value w = .inr result := by
            rw [← exited, value, value, same]
          obtain ⟨last, head, below, reached, returned, cut⟩ := ih agrees
          exact ⟨last, head, Nat.lt_succ_of_lt below, reached, returned, same.trans cut⟩

/-- Every event of a run is one of a round that began at a loop head. -/
theorem iterate_mem_events {event : E} (member : event ∈ (iterate body rounds state).events w) :
    ∃ last head, last < rounds ∧ (iterate body last state).value w = .inl head ∧
      event ∈ (body head).events ((iterate body last state).world w) := by
  induction rounds with
  | zero => cases member
  | succ rounds ih =>
      cases ended : (iterate body rounds state).value w with
      | inl head =>
          rw [iterate_succ_events body ended, List.mem_append] at member
          rcases member with before | now
          · obtain ⟨last, earlier, below, reached, present⟩ := ih before
            exact ⟨last, earlier, Nat.lt_succ_of_lt below, reached, present⟩
          · exact ⟨rounds, head, Nat.lt_succ_self rounds, ended, now⟩
      | inr result =>
          have same := iterate_of_exit body ended (Nat.le_succ rounds)
          rw [events, same] at member
          obtain ⟨last, earlier, below, reached, present⟩ := ih member
          exact ⟨last, earlier, Nat.lt_succ_of_lt below, reached, present⟩

/-- A property of records that every round keeps. -/
theorem iterate_induction {property : List E → Prop} (initial : property [])
    (round : ∀ past state w, property past → property (past ++ (body state).events w)) :
    property ((iterate body rounds state).events w) := by
  induction rounds with
  | zero => exact initial
  | succ rounds ih =>
      cases ended : (iterate body rounds state).value w with
      | inl head =>
          rw [iterate_succ_events body ended]
          exact round _ head _ ih
      | inr result =>
          rw [events, iterate_of_exit body ended (Nat.le_succ rounds)]
          exact ih

/-- A relation between the state at the loop head, the events recorded so far
and the world, kept by every round that comes back to the head. -/
structure LoopInvariant (invariant : σ → List E → W → Prop) : Prop where
  step : ∀ state past w next, invariant state past w → (body state).value w = .inl next →
    invariant next (past ++ (body state).events w) ((body state).world w)

/-- An invariant that holds at the first head holds at every head reached. -/
theorem LoopInvariant.reached {invariant : σ → List E → W → Prop}
    (kept : LoopInvariant body invariant) (initial : invariant state [] w)
    (reached : (iterate body rounds state).value w = .inl head) :
    invariant head ((iterate body rounds state).events w)
      ((iterate body rounds state).world w) := by
  induction rounds generalizing head with
  | zero =>
      cases reached
      exact initial
  | succ rounds ih =>
      obtain ⟨prior, before⟩ := iterate_head_of_le body reached (Nat.le_succ rounds)
      rw [iterate_succ_events body before, iterate_succ_world body before]
      rw [iterate_succ_value body before] at reached
      exact kept.step prior _ _ head (ih before) reached

end Megaraid.Traced
