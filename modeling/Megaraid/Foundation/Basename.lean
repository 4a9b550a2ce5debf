import Mathlib.Data.List.TakeWhile
import Mathlib.Tactic.Common

/-!
# The last part of a path

`strrchr` finds the last separator of a string, and what lies behind it is the
last part, a string without separators (`LastPart`). `stripPrefix` takes one
prefix off, once.
-/

namespace Megaraid

variable {α : Type} [DecidableEq α]

/-- `strrchr(s, c)`: the suffix from the last `c` on. -/
def strrchr (c : α) : List α → Option (List α)
  | [] => none
  | x :: rest =>
      match strrchr c rest with
      | some suffix => some suffix
      | none => if x = c then some (x :: rest) else none

/-- What lies behind the last separator, or everything. -/
def behindLast (c : α) (s : List α) : List α :=
  match strrchr c s with
  | some suffix => suffix.drop 1
  | none => s

/-- One prefix off, if it is there. -/
def stripPrefix (front s : List α) : List α :=
  if s.take front.length = front then s.drop front.length else s

/-- The string behind the last separator of another one, which may have none. -/
structure LastPart (c : α) (s last : List α) : Prop where
  separatorFree : c ∉ last
  whole : s = last ∨ ∃ front, s = front ++ c :: last

/-- A character that does not occur is not found. -/
theorem strrchr_eq_none {c : α} {s : List α} (without : c ∉ s) : strrchr c s = none := by
  induction s with
  | nil => rfl
  | cons x rest ih =>
      rw [List.mem_cons, not_or] at without
      rw [strrchr, ih without.2]
      exact if_neg (Ne.symm without.1)

/-- What follows the last occurrence of a character is found with it. -/
theorem strrchr_append {c : α} (front : List α) {last : List α} (without : c ∉ last) :
    strrchr c (front ++ c :: last) = some (c :: last) := by
  induction front with
  | nil =>
      rw [List.nil_append, strrchr, strrchr_eq_none without]
      exact if_pos rfl
  | cons x rest ih => rw [List.cons_append, strrchr, ih]

/-- Every string has a last part. -/
theorem exists_lastPart (c : α) (s : List α) : ∃ last, LastPart c s last := by
  induction s with
  | nil => exact ⟨[], List.not_mem_nil, Or.inl rfl⟩
  | cons x rest ih =>
      obtain ⟨last, without, whole⟩ := ih
      rcases whole with rfl | ⟨front, rfl⟩
      · by_cases here : x = c
        · subst here
          exact ⟨rest, without, Or.inr ⟨[], rfl⟩⟩
        · exact ⟨x :: rest, List.not_mem_cons_of_ne_of_not_mem (Ne.symm here) without, Or.inl rfl⟩
      · exact ⟨last, without, Or.inr ⟨x :: front, rfl⟩⟩

/-- `behindLast` is the last part. -/
theorem lastPart_iff {c : α} {s last : List α} : LastPart c s last ↔ behindLast c s = last := by
  have computed : ∀ {other}, LastPart c s other → behindLast c s = other := by
    rintro other ⟨without, rfl | ⟨front, rfl⟩⟩
    · rw [behindLast, strrchr_eq_none without]
    · rw [behindLast, strrchr_append front without]
      rfl
  constructor
  · exact computed
  · rintro rfl
    obtain ⟨last, part⟩ := exists_lastPart c s
    rwa [computed part]

omit [DecidableEq α] in
/-- A directory in front does not change the last part. -/
theorem LastPart.of_append {c : α} (front : List α) {s last : List α} (part : LastPart c s last) :
    LastPart c (front ++ c :: s) last := by
  refine ⟨part.separatorFree, Or.inr ?_⟩
  rcases part.whole with rfl | ⟨behind, rfl⟩
  · exact ⟨front, rfl⟩
  · exact ⟨front ++ c :: behind, by rw [List.append_assoc, List.cons_append]⟩

/-! ### One prefix off -/

/-- What one leading `front`, if there is one, leaves of a string. -/
inductive Strips (front : List α) : (s rest : List α) → Prop where
  | off (rest : List α) : Strips front (front ++ rest) rest
  | kept (s : List α) (absent : ¬front <+: s) : Strips front s s

/-- `stripPrefix` is what one leading `front` leaves. -/
theorem strips_iff {front s rest : List α} :
    Strips front s rest ↔ stripPrefix front s = rest := by
  have leads : s.take front.length = front ↔ front <+: s :=
    eq_comm.trans List.prefix_iff_eq_take.symm
  constructor
  · intro strips
    cases strips with
    | off rest => rw [stripPrefix, List.take_left, if_pos rfl, List.drop_left]
    | kept s absent => rw [stripPrefix, if_neg (mt leads.mp absent)]
  · rintro rfl
    rw [stripPrefix]
    split
    · rename_i present
      obtain ⟨rest, rfl⟩ := leads.mp present
      rw [List.drop_left]
      exact .off rest
    · rename_i absent
      exact .kept s (mt leads.mpr absent)

omit [DecidableEq α] in
/-- Only two strings can leave a given one. -/
theorem Strips.eq_or_eq {front s rest : List α} (strips : Strips front s rest) :
    s = rest ∨ s = front ++ rest := by
  cases strips with
  | off rest => exact Or.inr rfl
  | kept s absent => exact Or.inl rfl

end Megaraid
