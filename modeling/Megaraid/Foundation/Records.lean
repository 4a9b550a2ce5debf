import Mathlib.Data.List.GetD
import Mathlib.Tactic.Common

/-!
# Type-length-payload records

A record is one type byte, one byte counting the payload, and the payload.
`cut` splits a byte string into the consecutive records that fit completely,
stopping at the first one that does not, or at a lone trailing byte. Cutting
undoes encoding whatever follows the encoded records (`cut_encodeAll_append`).
When the bytes are a window of a memory, the records are read off in place:
each step of `cut` is one step of an index through the window (`cut_window_step`,
`cut_window_stop`).
-/

namespace Megaraid

/-- A record whose payload length fits its length byte. -/
structure Record where
  kind : UInt8
  payload : List UInt8
  bounded : payload.length < 256
  deriving DecidableEq

namespace Record

/-- The record as it lies in memory. -/
def encode (record : Record) : List UInt8 :=
  record.kind :: UInt8.ofNat record.payload.length :: record.payload

/-- Length of the whole record, header included. -/
def totalLength (record : Record) : Nat := 2 + record.payload.length

/-- The byte at an offset from the start of the record. -/
def byte (record : Record) (offset : Nat) : UInt8 := record.encode.getD offset 0

end Record

/-- The byte string of consecutive records. -/
def encodeAll (records : List Record) : List UInt8 := records.flatMap Record.encode

/-- Records are encoded one after the other. -/
@[simp] theorem encodeAll_cons (record : Record) (records : List Record) :
    encodeAll (record :: records) = record.encode ++ encodeAll records := rfl

/-- The complete records at the front of a byte string. -/
def cut : List UInt8 → List Record
  | kind :: count :: rest =>
      if count.toNat ≤ rest.length then
        ⟨kind, rest.take count.toNat,
          Nat.lt_of_le_of_lt (List.length_take_le _ _) count.toNat_lt⟩ ::
          cut (rest.drop count.toNat)
      else []
  | _ => []
  termination_by bytes => bytes.length
  decreasing_by simp only [List.length_drop, List.length_cons]; omega

/-- No bytes hold no records. -/
@[simp] theorem cut_nil : cut [] = [] := by
  rw [cut]
  simp

/-- A whole record at the front is the first that the cutting finds. -/
theorem cut_encode_append (record : Record) (tail : List UInt8) :
    cut (record.encode ++ tail) = record :: cut tail := by
  have count : (UInt8.ofNat record.payload.length).toNat = record.payload.length :=
    UInt8.toNat_ofNat_of_lt' record.bounded
  rw [Record.encode, List.cons_append, List.cons_append, cut, if_pos]
  · simp only [count, List.take_left', List.drop_left']
  · rw [count, List.length_append]
    exact Nat.le_add_right _ _

/-- Cutting recovers the encoded records and goes on with what follows them. -/
theorem cut_encodeAll_append (records : List Record) (tail : List UInt8) :
    cut (encodeAll records ++ tail) = records ++ cut tail := by
  induction records with
  | nil => rfl
  | cons record records ih =>
      rw [encodeAll_cons, List.append_assoc, cut_encode_append, ih, List.cons_append]

/-- More bytes behind the cut ones only add records. -/
theorem cut_prefix_cut_append (bytes tail : List UInt8) : cut bytes <+: cut (bytes ++ tail) := by
  induction bytes using cut.induct with
  | case1 kind count rest fits ih =>
      have fitsMore : count.toNat ≤ (rest ++ tail).length := by
        rw [List.length_append]
        exact Nat.le_add_right_of_le fits
      rw [List.cons_append, List.cons_append, cut, cut, if_pos fits, if_pos fitsMore]
      simp only [List.take_append_of_le_length fits, List.drop_append_of_le_length fits]
      exact (List.prefix_cons_inj _).mpr ih
  | case2 kind count rest unfit =>
      rw [cut, if_neg unfit]
      exact List.nil_prefix
  | case3 bytes headerless =>
      rw [cut]
      · exact List.nil_prefix
      · exact headerless

/-! ### Records in a window of memory -/

/-- The bytes of a memory from one index up to another. -/
def window (memory : Nat → UInt8) (first last : Nat) : List UInt8 :=
  (List.range' first (last - first)).map memory

/-- The length of a window is what its bounds tell. -/
@[simp] theorem length_window (memory : Nat → UInt8) (first last : Nat) :
    (window memory first last).length = last - first := by
  simp [window]

/-- The first byte of a window that is not empty. -/
theorem window_cons (memory : Nat → UInt8) {first last : Nat} (inside : first < last) :
    window memory first last = memory first :: window memory (first + 1) last := by
  rw [window, show last - first = last - (first + 1) + 1 by omega, List.range'_succ]
  rfl

/-- Adjacent windows make one. -/
theorem window_append (memory : Nat → UInt8) {first middle last : Nat} (lower : first ≤ middle)
    (upper : middle ≤ last) :
    window memory first last = window memory first middle ++ window memory middle last := by
  simp only [window, ← List.map_append]
  congr 1
  have joined := List.range'_append_1 (s := first) (m := middle - first) (n := last - middle)
  rw [show first + (middle - first) = middle by omega] at joined
  rw [joined]
  congr 1
  omega

/-- Windows of memories that agree inside the bounds are the same. -/
theorem window_congr {memory other : Nat → UInt8} {first last : Nat}
    (agree : ∀ i, first ≤ i → i < last → memory i = other i) :
    window memory first last = window other first last := by
  apply List.map_congr_left
  intro i member
  rw [List.mem_range'_1] at member
  exact agree i member.1 (by omega)

/-- A byte read from a window is the byte of the memory there. -/
theorem getD_window (memory : Nat → UInt8) {first last offset : Nat}
    (inside : first + offset < last) :
    (window memory first last).getD offset 0 = memory (first + offset) := by
  rw [List.getD_eq_getElem _ _ (by rw [length_window]; omega)]
  simp [window]

/-- A window is the byte string it spells. -/
theorem window_eq_of_getD {memory : Nat → UInt8} {first : Nat} {bytes : List UInt8}
    (spelled : ∀ i < bytes.length, memory (first + i) = bytes.getD i 0) :
    window memory first (first + bytes.length) = bytes := by
  apply List.ext_getElem
  · simp
  · intro i below inside
    have same := spelled i inside
    rw [List.getD_eq_getElem _ _ inside] at same
    simpa [window] using same

/-- The record starting at an index, of the length its second byte claims. -/
def recordAt (memory : Nat → UInt8) (i : Nat) : Record where
  kind := memory i
  payload := window memory (i + 2) (i + 2 + (memory (i + 1)).toNat)
  bounded := by
    rw [length_window, Nat.add_sub_cancel_left]
    exact (memory (i + 1)).toNat_lt

/-- The length of the record at an address, from its second byte. -/
theorem totalLength_recordAt (memory : Nat → UInt8) (i : Nat) :
    (recordAt memory i).totalLength = 2 + (memory (i + 1)).toNat := by
  rw [Record.totalLength, recordAt, length_window, Nat.add_sub_cancel_left]

/-- The encoding of the record at an address is the memory it covers. -/
theorem encode_recordAt (memory : Nat → UInt8) (i : Nat) :
    (recordAt memory i).encode = window memory i (i + (2 + (memory (i + 1)).toNat)) := by
  have count : UInt8.ofNat (recordAt memory i).payload.length = memory (i + 1) := by
    rw [recordAt, length_window, Nat.add_sub_cancel_left, UInt8.ofNat_toNat]
  rw [window_cons memory (by omega), window_cons memory (by omega), Record.encode, count,
    recordAt, ← Nat.add_assoc]

/-- Bytes of the record at an index are bytes of the memory. -/
theorem byte_recordAt (memory : Nat → UInt8) {i offset : Nat}
    (inside : offset < 2 + (memory (i + 1)).toNat) :
    (recordAt memory i).byte offset = memory (i + offset) := by
  rw [Record.byte, encode_recordAt, getD_window memory (by omega)]

/-- A record that fits the window is the first one cut. -/
theorem cut_window_step (memory : Nat → UInt8) {i last : Nat}
    (fits : i + (2 + (memory (i + 1)).toNat) ≤ last) :
    cut (window memory i last) =
      recordAt memory i :: cut (window memory (i + (2 + (memory (i + 1)).toNat)) last) := by
  rw [window_append memory (Nat.le_add_right i _) fits, ← encode_recordAt, cut_encode_append]

/-- Nothing more is cut once the next record has no header or does not fit. -/
theorem cut_window_stop (memory : Nat → UInt8) {i last : Nat}
    (stopped : last ≤ i + 1 ∨ last < i + (2 + (memory (i + 1)).toNat)) :
    cut (window memory i last) = [] := by
  by_cases header : i + 1 < last
  · rw [window_cons memory (by omega), window_cons memory header, cut, if_neg]
    rw [length_window]
    omega
  · by_cases lone : i < last
    · have short : window memory (i + 1) last = [] :=
        List.length_eq_zero_iff.mp (by rw [length_window]; omega)
      rw [window_cons memory lone, short, cut]
      simp
    · have empty : window memory i last = [] :=
        List.length_eq_zero_iff.mp (by rw [length_window]; omega)
      rw [empty, cut_nil]

end Megaraid
