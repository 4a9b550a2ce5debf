import Mathlib.Logic.Basic

/-!
# Bytes and fixed-width integers

Narrowing conversions of a C `int` and numbers assembled from bytes by shifts
and bitwise or, each as the arithmetic it performs.
-/

namespace Megaraid

/-- A cast to one byte keeps the residue modulo `2 ^ 8`. -/
theorem toNat_ofInt_uint8 (x : Int) : ((UInt8.ofInt x).toNat : Int) = x % 256 := by
  simp only [UInt8.ofInt, UInt8.toNat_ofNat']
  omega

/-- A cast to two bytes keeps the residue modulo `2 ^ 16`. -/
theorem toNat_ofInt_uint16 (x : Int) : ((UInt16.ofInt x).toNat : Int) = x % 65536 := by
  simp only [UInt16.ofInt, UInt16.toNat_ofNat']
  omega

/-- A cast to four bytes keeps the residue modulo `2 ^ 32`. -/
theorem toNat_ofInt_uint32 (x : Int) : ((UInt32.ofInt x).toNat : Int) = x % 4294967296 := by
  simp only [UInt32.ofInt, UInt32.toNat_ofNat']
  omega

/-- A cast to eight bytes keeps the residue modulo `2 ^ 64`. -/
theorem toNat_ofInt_uint64 (x : Int) :
    ((UInt64.ofInt x).toNat : Int) = x % 18446744073709551616 := by
  simp only [UInt64.ofInt, UInt64.toNat_ofNat']
  omega

/-- Big-endian value of a byte string. -/
def bigEndian (bytes : List UInt8) : Nat :=
  bytes.foldl (fun value byte => value * 256 + byte.toNat) 0

/-- `(a << 8) | b` on `int`. -/
theorem shiftLeft_or_byte (a : Nat) (b : UInt8) : a <<< 8 ||| b.toNat = a * 256 + b.toNat := by
  rw [← Nat.shiftLeft_add_eq_or_of_lt (b := b.toNat) b.toNat_lt, Nat.shiftLeft_eq]

/-- A byte shifted within a word of four bytes loses no bit. -/
private theorem toNat_shiftLeft_byte (a : UInt8) (k : UInt32) (inside : k.toNat ≤ 24) :
    (a.toUInt32 <<< k).toNat = a.toNat <<< k.toNat := by
  have bound : a.toNat * 2 ^ k.toNat < 2 ^ 32 :=
    calc a.toNat * 2 ^ k.toNat < 2 ^ 8 * 2 ^ k.toNat :=
          Nat.mul_lt_mul_of_pos_right a.toNat_lt (Nat.two_pow_pos _)
      _ ≤ 2 ^ 8 * 2 ^ 24 := Nat.mul_le_mul_left _ (Nat.pow_le_pow_right (by decide) inside)
  rw [UInt32.toNat_shiftLeft, UInt8.toNat_toUInt32, Nat.mod_eq_of_lt (by omega : k.toNat < 32),
    Nat.shiftLeft_eq, Nat.mod_eq_of_lt bound]

/-- Four bytes assembled into a `u32`. -/
theorem toNat_assemble_uint32 (a b c d : UInt8) :
    ((a.toUInt32 <<< 24) ||| (b.toUInt32 <<< 16) ||| (c.toUInt32 <<< 8) ||| d.toUInt32).toNat =
      bigEndian [a, b, c, d] := by
  have horner : a.toNat <<< 24 ||| b.toNat <<< 16 ||| c.toNat <<< 8 ||| d.toNat =
      ((a.toNat <<< 8 ||| b.toNat) <<< 8 ||| c.toNat) <<< 8 ||| d.toNat := by
    simp only [Nat.shiftLeft_or_distrib, ← Nat.shiftLeft_add]
  simp only [UInt32.toNat_or, UInt8.toNat_toUInt32]
  rw [toNat_shiftLeft_byte a 24 (by decide), toNat_shiftLeft_byte b 16 (by decide),
    toNat_shiftLeft_byte c 8 (by decide)]
  change a.toNat <<< 24 ||| b.toNat <<< 16 ||| c.toNat <<< 8 ||| d.toNat = _
  rw [horner, shiftLeft_or_byte, shiftLeft_or_byte, shiftLeft_or_byte]
  simp only [bigEndian, List.foldl_cons, List.foldl_nil, Nat.zero_mul, Nat.zero_add]

end Megaraid
