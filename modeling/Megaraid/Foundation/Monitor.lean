import Mathlib.Data.List.Induction
import Megaraid.Foundation.Replay

/-!
# A program logic for recorded interactions

A monitor follows a record of events: it keeps a state of its own, and its state
says which event may come next. `Monitor.Accepts` says that it objects to no
event of a record. `Traced.Triple` is the logic on top: from a monitor state of
which the precondition holds, in any world, a computation records only events
that the monitor allows, and the postcondition holds of its value and of the
monitor's state. There is one rule for each way of building a computation.
-/

namespace Megaraid

/-- An automaton that reads events and may forbid the next one. -/
structure Monitor (S E : Type) where
  allows : S → E → Prop
  step : S → E → S

namespace Monitor

variable {S E : Type} (monitor : Monitor S E)

/-- The state after a record. -/
def after (s : S) (events : List E) : S := events.foldl monitor.step s

/-- Every event of a record is allowed when it comes. -/
def Accepts : S → List E → Prop
  | _, [] => True
  | s, event :: events => monitor.allows s event ∧ Accepts (monitor.step s event) events

@[simp] theorem after_nil (s : S) : monitor.after s [] = s := rfl

@[simp] theorem after_cons (s : S) (event : E) (events : List E) :
    monitor.after s (event :: events) = monitor.after (monitor.step s event) events := rfl

@[simp] theorem after_append (s : S) (first second : List E) :
    monitor.after s (first ++ second) = monitor.after (monitor.after s first) second :=
  List.foldl_append

@[simp] theorem accepts_nil (s : S) : monitor.Accepts s [] := trivial

@[simp] theorem accepts_cons (s : S) (event : E) (events : List E) :
    monitor.Accepts s (event :: events) ↔
      monitor.allows s event ∧ monitor.Accepts (monitor.step s event) events := Iff.rfl

@[simp] theorem accepts_append (s : S) (first second : List E) :
    monitor.Accepts s (first ++ second) ↔
      monitor.Accepts s first ∧ monitor.Accepts (monitor.after s first) second := by
  induction first generalizing s with
  | nil => simp
  | cons event events ih => simp only [List.cons_append, accepts_cons, after_cons, ih, and_assoc]

variable {monitor}

/-- Wherever an accepted record is cut, the next event is allowed. -/
theorem Accepts.allows_at {s : S} {events before rest : List E} {event : E}
    (accepted : monitor.Accepts s events) (split : events = before ++ event :: rest) :
    monitor.allows (monitor.after s before) event := by
  rw [split, accepts_append, accepts_cons] at accepted
  exact accepted.2.1

/-- The front of an accepted record is accepted. -/
theorem Accepts.of_append {s : S} {first second : List E}
    (accepted : monitor.Accepts s (first ++ second)) : monitor.Accepts s first :=
  ((monitor.accepts_append s first second).mp accepted).1

/-- An invariant of the states holds after an accepted record. -/
theorem Accepts.invariant {s : S} {events : List E} (accepted : monitor.Accepts s events)
    (inv : List E → S → Prop) (initial : inv [] s)
    (kept : ∀ past state event, inv past state → monitor.allows state event →
      inv (past ++ [event]) (monitor.step state event)) :
    inv events (monitor.after s events) := by
  induction events using List.reverseRecOn with
  | nil => exact initial
  | append_singleton past event ih =>
      rw [accepts_append, accepts_cons] at accepted
      rw [after_append]
      exact kept past _ event (ih accepted.1) accepted.2.1

/-! ### Histories -/

/-- The monitor that remembers everything. -/
def history (allowed : List E → E → Prop) : Monitor (List E) E where
  allows := allowed
  step past event := past ++ [event]

/-- The history monitor remembers everything. -/
@[simp] theorem history_after (allowed : List E → E → Prop) (past events : List E) :
    (history allowed).after past events = past ++ events := by
  induction events generalizing past with
  | nil => exact (List.append_nil past).symm
  | cons event events ih =>
      rw [after_cons, ih]
      exact List.append_assoc past [event] events

end Monitor

namespace Traced

variable {S W E α β σ : Type} {monitor : Monitor S E}

/-- From `pre`, a computation records allowed events only and establishes `post`. -/
structure Triple (monitor : Monitor S E) (pre : S → Prop) (x : Traced W E α)
    (post : α → S → Prop) : Prop where
  holds : ∀ w s, pre s → monitor.Accepts s (x.events w) ∧
    post (x.value w) (monitor.after s (x.events w))

namespace Triple

variable {pre : S → Prop} {post : α → S → Prop} {x y : Traced W E α}

/-- A computation that does nothing establishes what held before. -/
theorem pure {a : α} (established : ∀ s, pre s → post a s) :
    Triple monitor pre (Pure.pure a : Traced W E α) post :=
  ⟨fun _ s holds => ⟨trivial, established s holds⟩⟩

/-- One computation after the other, through what holds in between. -/
theorem bind {f : α → Traced W E β} {mid : α → S → Prop} {last : β → S → Prop}
    (first : Triple monitor pre x mid) (second : ∀ a, Triple monitor (mid a) (f a) last) :
    Triple monitor pre (x >>= f) last := by
  refine ⟨fun w s holds => ?_⟩
  obtain ⟨early, between⟩ := first.holds w s holds
  obtain ⟨late, established⟩ := (second _).holds _ _ between
  rw [events_bind, Monitor.accepts_append, Monitor.after_append]
  exact ⟨⟨early, late⟩, established⟩

/-- The postcondition of a mapped computation is about the mapped value. -/
theorem map {f : α → β} {last : β → S → Prop}
    (triple : Triple monitor pre x fun a => last (f a)) : Triple monitor pre (f <$> x) last := by
  refine ⟨fun w s holds => ?_⟩
  rw [events_map]
  exact triple.holds w s holds

/-- One question to the world is one event. -/
theorem interact {answer : W → α × W} {event : α → E}
    (step : ∀ a s, pre s → monitor.allows s (event a) ∧ post a (monitor.step s (event a))) :
    Triple monitor pre (Traced.interact answer event) post := by
  refine ⟨fun w s holds => ?_⟩
  obtain ⟨allowed, established⟩ := step (answer w).1 s holds
  exact ⟨⟨allowed, trivial⟩, established⟩

/-- A recorded event has to be allowed. -/
theorem record {event : E} {last : Unit → S → Prop}
    (step : ∀ s, pre s → monitor.allows s event ∧ last () (monitor.step s event)) :
    Triple monitor pre (Traced.record event : Traced W E Unit) last := by
  refine ⟨fun w s holds => ?_⟩
  obtain ⟨allowed, established⟩ := step s holds
  exact ⟨⟨allowed, trivial⟩, established⟩

/-- Both branches establish the postcondition. -/
theorem ite {condition : Prop} [Decidable condition]
    (whenTrue : condition → Triple monitor pre x post)
    (whenFalse : ¬condition → Triple monitor pre y post) :
    Triple monitor pre (if condition then x else y) post := by
  split
  · rename_i holds
    exact whenTrue holds
  · rename_i fails
    exact whenFalse fails

/-- Stronger assumptions, weaker conclusions. -/
theorem consequence {stronger : S → Prop} {weaker : α → S → Prop}
    (triple : Triple monitor pre x post) (assumed : ∀ s, stronger s → pre s)
    (concluded : ∀ a s, post a s → weaker a s) : Triple monitor stronger x weaker := by
  refine ⟨fun w s holds => ?_⟩
  obtain ⟨accepted, established⟩ := triple.holds w s (assumed s holds)
  exact ⟨accepted, concluded _ _ established⟩

/-- A stronger precondition will do. -/
theorem strengthen {stronger : S → Prop} (triple : Triple monitor pre x post)
    (assumed : ∀ s, stronger s → pre s) : Triple monitor stronger x post :=
  triple.consequence assumed fun _ _ holds => holds

/-- A weaker postcondition follows. -/
theorem weaken {weaker : α → S → Prop} (triple : Triple monitor pre x post)
    (concluded : ∀ a s, post a s → weaker a s) : Triple monitor pre x weaker :=
  triple.consequence (fun _ holds => holds) concluded

/-- The frame rule: a computation whose events are all allowed and keep the
precondition. -/
theorem frame {property : E → Prop} (emits : Emits property x)
    (kept : ∀ s event, pre s → property event →
      monitor.allows s event ∧ pre (monitor.step s event)) :
    Triple monitor pre x fun _ => pre := by
  refine ⟨fun w => ?_⟩
  have every := emits.holds w
  generalize x.events w = events at every
  induction events with
  | nil => exact fun s holds => ⟨trivial, holds⟩
  | cons event events ih =>
      intro s holds
      obtain ⟨allowed, next⟩ := kept s event holds (every event List.mem_cons_self)
      obtain ⟨accepted, last⟩ := ih (fun e member => every e (List.mem_cons_of_mem _ member)) _ next
      exact ⟨⟨allowed, accepted⟩, last⟩

/-- The rule of loops: every round that comes back to the loop head keeps the
invariant, and every round that returns establishes the postcondition. -/
theorem iterate {body : σ → Traced W E (σ ⊕ β)} {inv : σ → S → Prop} {last : β → S → Prop}
    (round : ∀ state, Triple monitor (inv state) (body state) (Sum.elim inv last))
    (rounds : Nat) (state : σ) :
    Triple monitor (inv state) (Traced.iterate body rounds state) (Sum.elim inv last) := by
  induction rounds generalizing state with
  | zero => exact pure fun _ holds => holds
  | succ rounds ih =>
      refine bind (round state) fun ended => ?_
      cases ended with
      | inl next => exact ih next
      | inr result => exact pure fun _ holds => holds

/-- A loop whose rounds all keep a property keeps it. -/
theorem loop {body : σ → Traced W E (σ ⊕ β)} {inv : S → Prop}
    (round : ∀ state, Triple monitor inv (body state) fun _ => inv) (rounds : Nat) (state : σ) :
    Triple monitor inv (Traced.iterate body rounds state) fun _ => inv := by
  have always : ∀ (ended : σ ⊕ β) s,
      Sum.elim (fun _ => inv) (fun _ => inv) ended s ↔ inv s := by
    intro ended s
    cases ended <;> rfl
  have ran : Triple monitor inv (Traced.iterate body rounds state)
      (Sum.elim (fun _ => inv) fun _ => inv) :=
    iterate (fun state => (round state).weaken fun ended s => (always ended s).mpr) rounds state
  exact ran.weaken fun ended s => (always ended s).mp

end Triple

end Traced

end Megaraid
