import Megaraid.Foundation.Monitor

/-!
# Two computations under one monitor

Whether two events belong together may depend on what both records held before. A
monitor that reads pairs of events follows two records side by side
(`Monitor.AcceptsBoth`). `Traced.Coupled` is the logic on top: from a monitor state of
which the precondition holds, in related worlds, two computations record pairs that
the monitor allows, and the postcondition holds of both values and of the monitor's
state. There is one rule for each way of building a computation.
-/

namespace Megaraid

namespace Monitor

variable {S E F : Type}

/-- The monitor follows two records of one length to their end. -/
structure AcceptsBoth (monitor : Monitor S (E × F)) (s : S) (events : List E) (others : List F) :
    Prop where
  length : events.length = others.length
  accepted : monitor.Accepts s (events.zip others)

/-- The state of the monitor after two records. -/
def afterBoth (monitor : Monitor S (E × F)) (s : S) (events : List E) (others : List F) : S :=
  monitor.after s (events.zip others)

variable {monitor : Monitor S (E × F)} {s : S} {first second : List E} {first' second' : List F}

/-- Two records are followed part by part. -/
theorem AcceptsBoth.append (early : monitor.AcceptsBoth s first first')
    (late : monitor.AcceptsBoth (monitor.afterBoth s first first') second second') :
    monitor.AcceptsBoth s (first ++ second) (first' ++ second') := by
  constructor
  · rw [List.length_append, List.length_append, early.length, late.length]
  · rw [List.zip_append early.length, accepts_append]
    exact ⟨early.accepted, late.accepted⟩

/-- The state after the first parts is where the second parts begin. -/
theorem afterBoth_append (same : first.length = first'.length) :
    monitor.afterBoth s (first ++ second) (first' ++ second') =
      monitor.afterBoth (monitor.afterBoth s first first') second second' := by
  rw [afterBoth, List.zip_append same, after_append]
  rfl

end Monitor

namespace Traced

variable {S W V E F α β γ δ : Type} {worlds : W → V → Prop} {monitor : Monitor S (E × F)}

/-- From `pre`, in related worlds, two computations record allowed pairs only, and
establish `post` and related worlds. -/
structure Coupled (worlds : W → V → Prop) (monitor : Monitor S (E × F)) (pre : S → Prop)
    (x : Traced W E α) (y : Traced V F γ) (post : α → γ → S → Prop) : Prop where
  accepts : ∀ w v s, worlds w v → pre s → monitor.AcceptsBoth s (x.events w) (y.events v)
  establishes : ∀ w v s, worlds w v → pre s →
    post (x.value w) (y.value v) (monitor.afterBoth s (x.events w) (y.events v))
  world : ∀ w v s, worlds w v → pre s → worlds (x.world w) (y.world v)

namespace Coupled

variable {pre : S → Prop} {post : α → γ → S → Prop} {x : Traced W E α} {y : Traced V F γ}

/-- Two computations that do nothing. -/
theorem pure {a : α} {c : γ} (established : ∀ s, pre s → post a c s) :
    Coupled worlds monitor pre (Pure.pure a : Traced W E α) (Pure.pure c : Traced V F γ) post where
  accepts _ _ _ _ _ := ⟨rfl, trivial⟩
  establishes _ _ s _ holds := established s holds
  world _ _ _ together _ := together

/-- One after the other, through what holds in between. -/
theorem bind {mid : α → γ → S → Prop} {last : β → δ → S → Prop} {f : α → Traced W E β}
    {g : γ → Traced V F δ} (first : Coupled worlds monitor pre x y mid)
    (second : ∀ a c, Coupled worlds monitor (mid a c) (f a) (g c) last) :
    Coupled worlds monitor pre (x >>= f) (y >>= g) last where
  accepts w v s together holds := by
    have between := first.establishes w v s together holds
    have onward := first.world w v s together holds
    rw [events_bind, events_bind]
    exact (first.accepts w v s together holds).append
      ((second _ _).accepts _ _ _ onward between)
  establishes w v s together holds := by
    have between := first.establishes w v s together holds
    have onward := first.world w v s together holds
    rw [events_bind, events_bind,
      Monitor.afterBoth_append (first.accepts w v s together holds).length]
    exact (second _ _).establishes _ _ _ onward between
  world w v s together holds := by
    have between := first.establishes w v s together holds
    have onward := first.world w v s together holds
    exact (second _ _).world _ _ _ onward between

/-- A fact about neither record may be used for the two texts. -/
theorem assume {fact : Prop} (coupled : fact → Coupled worlds monitor pre x y post) :
    Coupled worlds monitor (fun s => fact ∧ pre s) x y post where
  accepts w v s together holds := (coupled holds.1).accepts w v s together holds.2
  establishes w v s together holds := (coupled holds.1).establishes w v s together holds.2
  world w v s together holds := (coupled holds.1).world w v s together holds.2

/-- The first parts return the same. -/
theorem bind_eq {y : Traced V F α} {mid : S → Prop} {last : β → δ → S → Prop}
    {f : α → Traced W E β} {g : α → Traced V F δ}
    (first : Coupled worlds monitor pre x y fun a c s => a = c ∧ mid s)
    (second : ∀ a, Coupled worlds monitor mid (f a) (g a) last) :
    Coupled worlds monitor pre (x >>= f) (y >>= g) last := by
  apply bind first
  intro a c
  apply assume
  intro same
  rw [same]
  exact second c

/-- Values that are mapped are related if the postcondition relates their images. -/
theorem map {f : α → β} {g : γ → δ} {last : β → δ → S → Prop}
    (coupled : Coupled worlds monitor pre x y fun a c => last (f a) (g c)) :
    Coupled worlds monitor pre (f <$> x) (g <$> y) last where
  accepts w v s together holds := by
    rw [events_map, events_map]
    exact coupled.accepts w v s together holds
  establishes w v s together holds := by
    rw [events_map, events_map]
    exact coupled.establishes w v s together holds
  world := coupled.world

/-- Stronger assumptions, weaker conclusions. -/
theorem consequence {stronger : S → Prop} {weaker : α → γ → S → Prop}
    (coupled : Coupled worlds monitor pre x y post) (assumed : ∀ s, stronger s → pre s)
    (concluded : ∀ a c s, post a c s → weaker a c s) :
    Coupled worlds monitor stronger x y weaker where
  accepts w v s together holds := coupled.accepts w v s together (assumed s holds)
  establishes w v s together holds :=
    concluded _ _ _ (coupled.establishes w v s together (assumed s holds))
  world w v s together holds := coupled.world w v s together (assumed s holds)

/-- Related worlds give answers whose events the monitor allows side by side. -/
theorem interact {answer : W → α × W} {answer' : V → γ × V} {event : α → E} {event' : γ → F}
    {returned : α → γ → Prop}
    (answers : ∀ w v, worlds w v → returned (answer w).1 (answer' v).1 ∧
      worlds (answer w).2 (answer' v).2)
    (step : ∀ a c s, returned a c → pre s → monitor.allows s (event a, event' c) ∧
      post a c (monitor.step s (event a, event' c))) :
    Coupled worlds monitor pre (Traced.interact answer event) (Traced.interact answer' event')
      post where
  accepts w v s together holds := by
    obtain ⟨allowed, _⟩ := step _ _ s (answers w v together).1 holds
    exact ⟨rfl, allowed, trivial⟩
  establishes w v s together holds := (step _ _ s (answers w v together).1 holds).2
  world w v _ together _ := (answers w v together).2

/-- One event on either side. -/
theorem record {event : E} {other : F} {last : S → Prop}
    (step : ∀ s, pre s → monitor.allows s (event, other) ∧ last (monitor.step s (event, other))) :
    Coupled worlds monitor pre (Traced.record event : Traced W E Unit)
      (Traced.record other : Traced V F Unit) fun a c s => a = c ∧ last s where
  accepts _ _ s _ holds := ⟨rfl, (step s holds).1, trivial⟩
  establishes _ _ s _ holds := ⟨rfl, (step s holds).2⟩
  world _ _ _ together _ := together

/-- Branches that are taken together. -/
theorem ite {condition : Prop} [Decidable condition] {x' : Traced W E α} {y' : Traced V F γ}
    (whenTrue : condition → Coupled worlds monitor pre x y post)
    (whenFalse : ¬condition → Coupled worlds monitor pre x' y' post) :
    Coupled worlds monitor pre (if condition then x else x') (if condition then y else y')
      post := by
  split
  · rename_i holds
    exact whenTrue holds
  · rename_i fails
    exact whenFalse fails

end Coupled

end Traced

end Megaraid
