import Megaraid.Foundation.Observed
import Megaraid.Progress.Descriptors

/-!
# What the decoder reads

`parse_sense` run on a memory that records every index it is asked for. All
indices lie below the length the drive declared, so nothing behind that length
has a part in the result.
-/

namespace Megaraid

open Traced (Observed)

/-- Reads of a memory that leave a record of the index. -/
def readRecorded (sense : Nat → UInt8) (i : Nat) : Traced Unit Nat UInt8 :=
  Traced.interact (fun w => (sense i, w)) fun _ => i

/-- The indices `parse_sense` reads, in order. -/
def readIndices (sense : Nat → UInt8) (len : Nat) (out : SenseOut) : List Nat :=
  (parseSenseM (readRecorded sense) len out).events ()

section Reads

variable (sense : Nat → UInt8) {last i : Nat}

/-- A byte below the bound is one read below the bound. -/
theorem read_below (inside : i < last) :
    Observed (· < last) 1 (readRecorded sense i) (readMemory sense i) where
  value _ := rfl
  events _ event member := by
    rw [readRecorded, Traced.events_interact, List.mem_singleton] at member
    exact member ▸ inside
  few _ := Nat.le_refl 1

/-- A progress below the bound is two reads below the bound. -/
theorem readProgress_below (inside : i + 1 < last) :
    Observed (· < last) 2 (readProgress (readRecorded sense) i)
      (readProgress (readMemory sense) i) := by
  refine (read_below sense (Nat.lt_of_succ_lt inside)).bind ?_
  exact (read_below sense inside).thenPure _

/-- Testing a bit is one read. -/
theorem readBit_below (inside : i < last) (mask : UInt8) :
    Observed (· < last) 1 (readBit (readRecorded sense) i mask)
      (readBit (readMemory sense) i mask) :=
  (read_below sense inside).thenPure _

/-- Comparing a byte is one read. -/
theorem readEq_below (inside : i < last) (value : UInt8) :
    Observed (· < last) 1 (readEq (readRecorded sense) i value)
      (readEq (readMemory sense) i value) :=
  (read_below sense inside).thenPure _

/-- A complete descriptor is read up to its own end only. -/
theorem readDescriptor_below {dlen : Nat} (header : 2 ≤ dlen) (fits : i + dlen ≤ last)
    (prog : Int) :
    Observed (· < last) 5 (readDescriptor (readRecorded sense) i dlen prog)
      (readDescriptor (readMemory sense) i dlen prog) := by
  have kind : i < last := by omega
  have sksv : Observed (· < last) 2
      (readEq (readRecorded sense) i 0x02 <&&> pure (decide (dlen ≥ 7)) <&&>
        readBit (readRecorded sense) (i + 4) 0x80)
      (readEq (readMemory sense) i 0x02 <&&> pure (decide (dlen ≥ 7)) <&&>
        readBit (readMemory sense) (i + 4) 0x80) := by
    refine (readEq_below sense kind 0x02).andM fun _ => ?_
    refine (Observed.pure _ 0).andM fun enough => ?_
    have enough : 7 ≤ dlen := of_decide_eq_true enough
    exact readBit_below sense (by omega) 0x80
  have another : Observed (· < last) 1
      (readEq (readRecorded sense) i 0x0A <&&> pure (decide (dlen ≥ 8)) <&&>
        pure (decide (prog < 0)))
      (readEq (readMemory sense) i 0x0A <&&> pure (decide (dlen ≥ 8)) <&&>
        pure (decide (prog < 0))) := by
    refine (readEq_below sense kind 0x0A).andM fun _ => ?_
    exact (Observed.pure _ 0).andM fun _ => .pure _ 0
  refine sksv.bind (.ite (fun found => ?_) fun _ => ?_)
  · simp only [run_andM, Id.run_pure, Bool.and_eq_true, decide_eq_true_eq] at found
    exact (readProgress_below sense (by omega)).mono (Nat.le_succ 2)
  · refine another.bind (.ite (fun found => ?_) fun _ => .pure _ 2)
    simp only [run_andM, Id.run_pure, Bool.and_eq_true, decide_eq_true_eq] at found
    exact readProgress_below sense (by omega)

/-- Every round reads at most six bytes and advances by two at least. -/
theorem walkDescriptors_below (last i : Nat) (prog : Int) :
    Observed (· < last) (3 * (last - i)) (walkDescriptors (readRecorded sense) last i prog)
      (walkDescriptors (readMemory sense) last i prog) := by
  induction remaining : last - i using Nat.strongRecOn generalizing i prog with
  | _ _ ih =>
      rw [walkDescriptors, walkDescriptors]
      refine .ite (fun header => ?_) fun _ => .pure _ _
      have length : i + (2 + (sense (i + 1)).toNat) > last ∨
          last - (i + (2 + (sense (i + 1)).toNat)) + 2 ≤ last - i := by omega
      have tail : Observed (· < last) (3 * (last - i) - 1)
          (if i + (2 + (sense (i + 1)).toNat) > last then pure prog else do
            let prog ← readDescriptor (readRecorded sense) i (2 + (sense (i + 1)).toNat) prog
            walkDescriptors (readRecorded sense) last (i + (2 + (sense (i + 1)).toNat)) prog)
          (if i + (2 + (sense (i + 1)).toNat) > last then pure prog else do
            let prog ← readDescriptor (readMemory sense) i (2 + (sense (i + 1)).toNat) prog
            walkDescriptors (readMemory sense) last (i + (2 + (sense (i + 1)).toNat)) prog) := by
        refine .ite (fun _ => .pure _ _) fun fits => ?_
        have complete := readDescriptor_below sense (Nat.le_add_right 2 _) (Nat.not_lt.mp fits) prog
        refine (complete.bind (ih _ ?_ _ _ rfl)).mono ?_
        · omega
        · omega
      rw [← remaining]
      exact ((read_below sense header).bind tail).mono (by omega)

/-- Finding the bound reads byte 7. -/
theorem readBound_below (header : 7 < last) (len : Nat) :
    Observed (· < last) 1 (readBound (readRecorded sense) len)
      (readBound (readMemory sense) len) :=
  (read_below sense header).thenPure _

/-- A guarded byte is read below the bound, if at all. -/
theorem readVisible_below (last i : Nat) :
    Observed (· < last) 1 (readVisible (readRecorded sense) last i)
      (readVisible (readMemory sense) last i) := by
  refine .ite (fun visible => ?_) fun _ => .pure _ 1
  exact read_below sense visible

/-- The fixed-format progress takes three reads. -/
theorem readFixedProgress_below (last : Nat) :
    Observed (· < last) 3 (readFixedProgress (readRecorded sense) last)
      (readFixedProgress (readMemory sense) last) := by
  have sksv : Observed (· < last) 1
      (pure (decide (last > 17)) <&&> readBit (readRecorded sense) 15 0x80)
      (pure (decide (last > 17)) <&&> readBit (readMemory sense) 15 0x80) := by
    refine (Observed.pure _ 0).andM fun enough => ?_
    have enough : last > 17 := of_decide_eq_true enough
    exact readBit_below sense (by omega) 0x80
  refine sksv.bind (.ite (fun found => ?_) fun _ => .pure _ 2)
  simp only [run_andM, Id.run_pure, Bool.and_eq_true, decide_eq_true_eq] at found
  exact readProgress_below sense (by omega)

section Branches

variable (len : Nat) (out : SenseOut)

/-- The fixed-format branch takes seven reads below the bound. -/
theorem parseFixed_below (header : 8 ≤ visibleLength sense len) :
    Observed (· < visibleLength sense len) 7 (parseFixed (readRecorded sense) len out)
      (parseFixed (readMemory sense) len out) := by
  refine Observed.bind (readBound_below sense header len) ?_
  have key : 2 < visibleLength sense len := by omega
  refine (read_below sense key).bind ?_
  rw [readBound_memory]
  refine (readVisible_below sense _ 12).bind ?_
  refine (readVisible_below sense _ 13).bind ?_
  exact (readFixedProgress_below sense _).thenPure _

/-- The descriptor branch takes three reads for each byte of the list, and four. -/
theorem parseDescriptor_below (header : 8 ≤ visibleLength sense len) :
    Observed (· < visibleLength sense len) (3 * (visibleLength sense len - 8) + 4)
      (parseDescriptor (readRecorded sense) len out)
      (parseDescriptor (readMemory sense) len out) := by
  have first : 3 < visibleLength sense len := by omega
  refine (read_below sense (Nat.lt_of_succ_lt (Nat.lt_of_succ_lt first))).bind ?_
  refine (read_below sense (Nat.lt_of_succ_lt first)).bind ?_
  refine (read_below sense first).bind ?_
  refine (readBound_below sense header len).bind ?_
  rw [readBound_memory]
  exact (walkDescriptors_below sense _ 8 (-1)).thenPure _

/-- The indices `parse_sense` reads lie below the visible length. -/
theorem parseSense_below (long : 8 ≤ len) :
    Observed (· < visibleLength sense len) (3 * visibleLength sense len)
      (parseSenseM (readRecorded sense) len out) (parseSenseM (readMemory sense) len out) := by
  have header := eight_le_visibleLength sense long
  have tail : Observed (· < visibleLength sense len) (3 * visibleLength sense len - 1)
      (if sense 0 &&& 0x7F = 0x70 ∨ sense 0 &&& 0x7F = 0x71 then do
          return (0, ← parseFixed (readRecorded sense) len { out with progress := -1 })
        else if sense 0 &&& 0x7F = 0x72 ∨ sense 0 &&& 0x7F = 0x73 then do
          return (0, ← parseDescriptor (readRecorded sense) len { out with progress := -1 })
        else pure (-1, { out with progress := -1 }))
      (if sense 0 &&& 0x7F = 0x70 ∨ sense 0 &&& 0x7F = 0x71 then do
          return (0, ← parseFixed (readMemory sense) len { out with progress := -1 })
        else if sense 0 &&& 0x7F = 0x72 ∨ sense 0 &&& 0x7F = 0x73 then do
          return (0, ← parseDescriptor (readMemory sense) len { out with progress := -1 })
        else pure (-1, { out with progress := -1 })) := by
    refine .ite (fun _ => ?_) fun _ => .ite (fun _ => ?_) fun _ => .pure _ _
    · exact ((parseFixed_below sense len _ header).thenPure _).mono (by omega)
    · exact ((parseDescriptor_below sense len _ header).thenPure _).mono (by omega)
  unfold parseSenseM
  simp only [if_neg (Nat.not_lt.mpr long)]
  have response : 0 < visibleLength sense len := Nat.lt_of_lt_of_le (by decide) header
  exact ((read_below sense response).bind tail).mono (by omega)

/-- A buffer without a header is not read at all. -/
theorem readIndices_short (short : len < 8) : readIndices sense len out = [] := by
  unfold readIndices parseSenseM
  simp only [if_pos short]
  exact Traced.events_pure _ _

/-- The reads recorded are those of `parse_sense`. -/
theorem parseSense_observed :
    (parseSenseM (readRecorded sense) len out).value () = parseSense sense len out := by
  by_cases short : len < 8
  · unfold parseSense parseSenseM
    simp only [if_pos short]
    exact Traced.value_pure _ _
  · exact (parseSense_below sense len out (Nat.not_lt.mp short)).value ()

/-- The decoder makes at most three reads for each visible byte. -/
theorem length_readIndices_le :
    (readIndices sense len out).length ≤ 3 * visibleLength sense len := by
  by_cases short : len < 8
  · rw [readIndices_short sense len out short]
    exact Nat.zero_le _
  · exact (parseSense_below sense len out (Nat.not_lt.mp short)).few ()

/-- The decoder reads inside the reply. -/
theorem lt_of_mem_readIndices (read : i ∈ readIndices sense len out) : i < len := by
  by_cases short : len < 8
  · rw [readIndices_short sense len out short] at read
    cases read
  · have below := parseSense_below sense len out (Nat.not_lt.mp short)
    exact Nat.lt_of_lt_of_le (below.events () i read) (Nat.min_le_left _ _)

end Branches

end Reads

/-! ### Independence of the rest of the memory -/

section Agreement

variable {sense other : Nat → UInt8} {len length : Nat}

/-- The two formats are the response codes from 0x70 to 0x73. -/
theorem fixed_or_descriptor_iff (sense : Nat → UInt8) :
    FixedFormat sense ∨ DescriptorFormat sense ↔
      0x70 ≤ responseCode sense ∧ responseCode sense ≤ 0x73 := by
  unfold FixedFormat DescriptorFormat
  simp only [← UInt8.toNat_inj, UInt8.le_iff_toNat_le, UInt8.toNat_ofNat]
  omega

/-- The decoder refuses in exactly these cases. -/
theorem parseSense_eq_neg_one_iff (sense : Nat → UInt8) (len : Nat) (out : SenseOut) :
    (parseSense sense len out).1 = -1 ↔
      len < 8 ∨ ¬(0x70 ≤ responseCode sense ∧ responseCode sense ≤ 0x73) := by
  rw [← fixed_or_descriptor_iff, not_or]
  constructor
  · intro failed
    by_contra accepted
    simp only [not_or, Nat.not_lt, not_and_or, not_not] at accepted
    rcases accepted with ⟨long, fixed | descriptor⟩
    · rw [parseSense_fixed out long fixed] at failed
      cases failed
    · rw [parseSense_descriptor out long descriptor] at failed
      cases failed
  · intro refused
    rw [parseSense_refused sense len out refused]

/-- A guarded byte depends on the visible bytes only. -/
theorem visible_congr {valid : Nat} (agree : ∀ i < valid, other i = sense i) (i : Nat) :
    (if i < valid then other i else 0) = if i < valid then sense i else 0 := by
  split
  · rename_i inside
    exact agree i inside
  · rfl

/-- The fixed-format progress depends on the visible bytes only. -/
theorem fixedProgress_congr {valid : Nat} (agree : ∀ i < valid, other i = sense i) :
    fixedProgress other valid = fixedProgress sense valid := by
  unfold fixedProgress
  by_cases inside : 17 < valid
  · rw [agree 15 (by omega), agree 16 (by omega), agree 17 inside]
  · rw [if_neg fun shown => inside shown.1, if_neg fun shown => inside shown.1]

/-- Buffers with the same visible length and the same visible bytes decode alike. -/
theorem parseSense_congr (out : SenseOut) (long : 8 ≤ len) (longer : 8 ≤ length)
    (visible : visibleLength other length = visibleLength sense len)
    (agree : ∀ i < visibleLength sense len, other i = sense i) :
    parseSense other length out = parseSense sense len out := by
  have header := eight_le_visibleLength sense long
  have below : ∀ i < 8, other i = sense i := fun i inside =>
    agree i (Nat.lt_of_lt_of_le inside header)
  have code : responseCode other = responseCode sense :=
    congrArg (· &&& 0x7F) (below 0 (by decide))
  have fixedIff := fixedFormat_congr code
  have descriptorIff := descriptorFormat_congr code
  by_cases fixed : FixedFormat sense
  · rw [parseSense_fixed out long fixed, parseSense_fixed out longer (fixedIff.mpr fixed), visible,
      below 2 (by decide), visible_congr agree, visible_congr agree, fixedProgress_congr agree]
  · by_cases descriptor : DescriptorFormat sense
    · have list : descriptors other length = descriptors sense len := by
        rw [descriptors, visible, window_congr fun i _ inside => agree i inside]
        rfl
      rw [parseSense_descriptor out long descriptor,
        parseSense_descriptor out longer (descriptorIff.mpr descriptor), list,
        below 1 (by decide), below 2 (by decide), below 3 (by decide)]
    · rw [parseSense_refused sense len out (Or.inr ⟨fixed, descriptor⟩),
        parseSense_refused other length out
          (Or.inr ⟨mt fixedIff.mp fixed, mt descriptorIff.mp descriptor⟩)]

end Agreement

/-- `parse_sense` depends on the visible part of the buffer only. -/
structure BoundedDecode (sense : Nat → UInt8) (len : Nat) (out : SenseOut) : Prop where
  /-- The reads recorded are those of `parse_sense`. -/
  observed : (parseSenseM (readRecorded sense) len out).value () = parseSense sense len out
  finite : (readIndices sense len out).length ≤ 3 * visibleLength sense len
  inside : ∀ i ∈ readIndices sense len out, i < len
  declared : 8 ≤ len → 8 ≤ visibleLength sense len ∧
    ∀ i ∈ readIndices sense len out, i < visibleLength sense len
  refused : (parseSense sense len out).1 = -1 ↔
    len < 8 ∨ ¬(0x70 ≤ responseCode sense ∧ responseCode sense ≤ 0x73)
  kept : (parseSense sense len out).1 = -1 →
    (parseSense sense len out).2 = { out with progress := -1 }
  independent : 8 ≤ len → ∀ (other : Nat → UInt8) (length : Nat), 8 ≤ length →
    visibleLength other length = visibleLength sense len →
    (∀ i < visibleLength sense len, other i = sense i) →
    parseSense other length out = parseSense sense len out

/-- **Bounded decoding.** Whatever the drive sent, the decoder reads below the
declared length and below the end of the buffer, and nothing else has a part in
its result. -/
theorem parseSense_bounded (sense : Nat → UInt8) (len : Nat) (out : SenseOut) :
    BoundedDecode sense len out where
  observed := parseSense_observed sense len out
  finite := length_readIndices_le sense len out
  inside _ := lt_of_mem_readIndices sense len out
  declared long := by
    have below := parseSense_below sense len out long
    exact ⟨eight_le_visibleLength sense long, below.events ()⟩
  refused := parseSense_eq_neg_one_iff sense len out
  kept failed := by
    rw [parseSense_eq_neg_one_iff, ← fixed_or_descriptor_iff, not_or] at failed
    rw [parseSense_refused sense len out failed]
  independent long _ _ longer visible agree := parseSense_congr out long longer visible agree

end Megaraid
