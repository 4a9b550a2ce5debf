import Mathlib.Logic.Basic

/-!
# Computations that record their interactions

A computation over a world `W` answers from that world, changes it, and records
one event of type `E` for everything it does to the outside. The events of a
sequential composition are the events of its parts in order, so a property of
what a program did is read off the program's text.
-/

namespace Megaraid

/-- What a computation leaves behind when started in a world. -/
structure TracedResult (W E α : Type) where
  value : α
  events : List E
  world : W

/-- A computation over the world `W` recording events of type `E`. -/
def Traced (W E α : Type) : Type := W → TracedResult W E α

namespace Traced

variable {W E α β : Type}

def value (x : Traced W E α) (w : W) : α := (x w).value

def events (x : Traced W E α) (w : W) : List E := (x w).events

def world (x : Traced W E α) (w : W) : W := (x w).world

instance : Monad (Traced W E) where
  pure a := fun w => ⟨a, [], w⟩
  bind x f := fun w =>
    ⟨(f (x.value w)).value (x.world w), x.events w ++ (f (x.value w)).events (x.world w),
      (f (x.value w)).world (x.world w)⟩

/-- Consult the world for an answer and record one event about it. -/
def interact (answer : W → α × W) (event : α → E) : Traced W E α := fun w =>
  ⟨(answer w).1, [event (answer w).1], (answer w).2⟩

/-- Record an event that takes no answer from the world. -/
def record (event : E) : Traced W E Unit := fun w => ⟨(), [event], w⟩

@[simp] theorem value_pure (a : α) (w : W) : (pure a : Traced W E α).value w = a := (rfl)

@[simp] theorem events_pure (a : α) (w : W) : (pure a : Traced W E α).events w = [] := (rfl)

@[simp] theorem world_pure (a : α) (w : W) : (pure a : Traced W E α).world w = w := (rfl)

@[simp] theorem value_bind (x : Traced W E α) (f : α → Traced W E β) (w : W) :
    (x >>= f).value w = (f (x.value w)).value (x.world w) := (rfl)

@[simp] theorem events_bind (x : Traced W E α) (f : α → Traced W E β) (w : W) :
    (x >>= f).events w = x.events w ++ (f (x.value w)).events (x.world w) := (rfl)

@[simp] theorem world_bind (x : Traced W E α) (f : α → Traced W E β) (w : W) :
    (x >>= f).world w = (f (x.value w)).world (x.world w) := (rfl)

@[simp] theorem value_map (f : α → β) (x : Traced W E α) (w : W) :
    (f <$> x).value w = f (x.value w) := (rfl)

@[simp] theorem events_map (f : α → β) (x : Traced W E α) (w : W) :
    (f <$> x).events w = x.events w :=
  List.append_nil _

@[simp] theorem world_map (f : α → β) (x : Traced W E α) (w : W) :
    (f <$> x).world w = x.world w := (rfl)

@[simp] theorem value_interact (answer : W → α × W) (event : α → E) (w : W) :
    (interact answer event).value w = (answer w).1 := (rfl)

@[simp] theorem events_interact (answer : W → α × W) (event : α → E) (w : W) :
    (interact answer event).events w = [event (answer w).1] := (rfl)

@[simp] theorem world_interact (answer : W → α × W) (event : α → E) (w : W) :
    (interact answer event).world w = (answer w).2 := (rfl)

@[simp] theorem events_record (event : E) (w : W) : (record event).events w = [event] := (rfl)

@[simp] theorem world_record (event : E) (w : W) : (record event).world w = w := (rfl)

/-- A computation is its value, its events and the world it leaves, in every world. -/
private theorem ext {x y : Traced W E α} (value : ∀ w, x.value w = y.value w)
    (events : ∀ w, x.events w = y.events w) (world : ∀ w, x.world w = y.world w) : x = y :=
  funext fun w => by
    have fields : ∀ {r s : TracedResult W E α}, r.value = s.value → r.events = s.events →
        r.world = s.world → r = s := by
      intro r s
      cases r
      cases s
      rintro rfl rfl rfl
      rfl
    exact fields (value w) (events w) (world w)

instance : LawfulMonad (Traced W E) :=
  LawfulMonad.mk' _
    (fun x => ext (fun _ => rfl) (fun w => List.append_nil (x.events w)) (fun _ => rfl))
    (fun _ _ => rfl)
    (fun _ _ _ => ext (fun _ => rfl) (fun _ => List.append_assoc _ _ _) (fun _ => rfl))

/-! ### Branching -/

variable (condition : Prop) [Decidable condition] (x y : Traced W E α) (w : W)

@[simp] theorem value_ite :
    (if condition then x else y).value w = if condition then x.value w else y.value w := by
  split <;> rfl

@[simp] theorem events_ite :
    (if condition then x else y).events w = if condition then x.events w else y.events w := by
  split <;> rfl

@[simp] theorem world_ite :
    (if condition then x else y).world w = if condition then x.world w else y.world w := by
  split <;> rfl

end Traced

end Megaraid
