import Mathlib.Algebra.Ring.Nat
import Mathlib.Data.List.GetD
import Mathlib.Tactic.Common

/-!
# Packed records

A packed record is a sequence of chunks without gaps: the little-endian bytes of
an integer, or an array of bytes. Each chunk starts where those before it end,
and reading as many bytes there gives it back (`slice_pack`), so the chunks do
not overlap.
-/

namespace Megaraid

/-- The low bytes of a number, least significant first. -/
def littleEndian : (width value : Nat) → List UInt8
  | 0, _ => []
  | width + 1, value => UInt8.ofNat value :: littleEndian width (value / 256)

/-- The number with the given bytes, least significant first. -/
def ofLittleEndian : List UInt8 → Nat
  | [] => 0
  | byte :: bytes => byte.toNat + 256 * ofLittleEndian bytes

/-- A field takes its width. -/
@[simp] theorem length_littleEndian (width value : Nat) :
    (littleEndian width value).length = width := by
  induction width generalizing value with
  | zero => rfl
  | succ width ih => rw [littleEndian, List.length_cons, ih]

/-- A number is read back modulo what its width can hold. -/
theorem ofLittleEndian_littleEndian (width value : Nat) :
    ofLittleEndian (littleEndian width value) = value % 256 ^ width := by
  induction width generalizing value with
  | zero => rw [littleEndian, ofLittleEndian, Nat.pow_zero, Nat.mod_one]
  | succ width ih =>
      have low : (UInt8.ofNat value).toNat = value % 256 := UInt8.toNat_ofNat'
      rw [littleEndian, ofLittleEndian, ih, low, Nat.pow_succ', Nat.mod_mul]

/-- The number zero is zero bytes. -/
theorem littleEndian_zero (width : Nat) : littleEndian width 0 = List.replicate width 0 := by
  induction width with
  | zero => rfl
  | succ width ih =>
      rw [littleEndian, List.replicate_succ, Nat.zero_div, ih]
      rfl

/-- The bytes of a record. -/
def pack (chunks : List (List UInt8)) : List UInt8 := chunks.flatten

/-- So many bytes from an offset on. -/
def slice (bytes : List UInt8) (offset width : Nat) : List UInt8 := (bytes.drop offset).take width

/-- The unsigned integer of a width at an offset. -/
def readUnsigned (bytes : List UInt8) (offset width : Nat) : Nat :=
  ofLittleEndian (slice bytes offset width)

/-- The widths of the chunks add up to their offsets. -/
theorem length_pack (chunks : List (List UInt8)) :
    (pack chunks).length = (chunks.map List.length).sum :=
  List.length_flatten

/-- **Reading a chunk back.** It lies behind the widths of those before it. -/
theorem slice_pack {chunks : List (List UInt8)} {index : Nat} {chunk : List UInt8}
    (placed : chunks[index]? = some chunk) :
    slice (pack chunks) ((chunks.map List.length).take index).sum chunk.length = chunk := by
  unfold slice pack
  induction chunks generalizing index with
  | nil => cases placed
  | cons first rest ih =>
      cases index with
      | zero =>
          rw [List.getElem?_cons_zero, Option.some_inj] at placed
          rw [placed]
          simp
      | succ index =>
          rw [List.getElem?_cons_succ] at placed
          rw [List.map_cons, List.take_succ_cons, List.sum_cons, List.flatten_cons,
            ← List.drop_drop, List.drop_left]
          exact ih placed

/-- A field of a packed record is read back at the sum of the widths before it. -/
theorem readUnsigned_pack {chunks : List (List UInt8)} {index width value : Nat}
    (placed : chunks[index]? = some (littleEndian width value)) (fits : value < 256 ^ width) :
    readUnsigned (pack chunks) ((chunks.map List.length).take index).sum width = value := by
  have read := slice_pack placed
  rw [length_littleEndian] at read
  rw [readUnsigned, read, ofLittleEndian_littleEndian, Nat.mod_eq_of_lt fits]

/-! ### Bytes that are zero -/

/-- Bytes that spell the number zero are zero. -/
theorem eq_zero_of_ofLittleEndian {bytes : List UInt8} (zero : ofLittleEndian bytes = 0) :
    ∀ byte ∈ bytes, byte = 0 := by
  induction bytes with
  | nil => exact List.forall_mem_nil _
  | cons first rest ih =>
      rw [ofLittleEndian, Nat.add_eq_zero_iff, Nat.mul_eq_zero] at zero
      obtain ⟨low, high⟩ := zero
      refine List.forall_mem_cons.mpr ⟨UInt8.toNat_inj.mp low, ih ?_⟩
      exact high.resolve_left (by decide)

/-- The bytes of an integer that is zero. -/
theorem getD_of_readUnsigned_zero {bytes : List UInt8} {offset width i : Nat}
    (zero : readUnsigned bytes offset width = 0) (lower : offset ≤ i)
    (upper : i < offset + width) : bytes.getD i 0 = 0 := by
  by_cases inside : i < bytes.length
  · rw [List.getD_eq_getElem _ _ inside]
    apply eq_zero_of_ofLittleEndian zero
    rw [slice, List.mem_take_iff_getElem]
    refine ⟨i - offset, ?_, ?_⟩
    · rw [List.length_drop]
      omega
    · rw [List.getElem_drop]
      simp only [Nat.add_sub_cancel' lower]
  · exact List.getD_eq_default _ _ (Nat.not_lt.mp inside)

end Megaraid
