import Mathlib.Tactic.IntervalCases
import Megaraid.Foundation.Bytes
import Megaraid.Foundation.Strtol

/-!
# Command-line arguments

The argument parsers of `megaraid_common.h` and `mega_progress.c`. All three
convert with `strtol` or `strtoll`, insist that the whole string was consumed
without an error, and check a range of their own; `parseNumber` is that common
text. `long` may have 32 or 64 bits (`LongWidth`), `long long` has 64.
-/

namespace Megaraid

/-- Width of the C type `long`. -/
inductive LongWidth where
  | ilp32
  | lp64
  deriving DecidableEq, Repr

def LongWidth.bits : LongWidth → Nat
  | .ilp32 => 32
  | .lp64 => 64

/-- `errno = 0; v = strto…(s, &end, 10);` and the check that follows it. -/
def parseNumber (bits : Nat) (low high : Int) (s : String) : Int :=
  let v := strtol bits s.toList
  if v.errno ≠ 0 ∨ v.rest = s.toList ∨ v.rest ≠ [] ∨ v.value < low ∨ v.value > high then -1
  else v.value

/-- `parse_target`. -/
def parseTarget (long : LongWidth) (s : String) : Int := parseNumber long.bits 0 255 s

/-- `parse_block_size`. -/
def parseBlockSize (long : LongWidth) (s : String) : Int := parseNumber long.bits 1 0xFFFFFF s

/-- `parse_expected_block_size`. -/
def parseExpectedBlockSize (s : String) : Int := parseNumber 64 1 0xFFFFFFFE s

/-- `set_mode_sel_block_length`; `& 0xFF` keeps the low eight bits of an `int`,
which is what the conversion into a byte does. -/
def setModeSelBlockLength (modeSelData : Vector UInt8 12) (blockSize : Int) : Vector UInt8 12 :=
  ((modeSelData.set 9 (UInt8.ofInt (blockSize >>> (16 : Nat)))).set 10
    (UInt8.ofInt (blockSize >>> (8 : Nat)))).set 11 (UInt8.ofInt blockSize)

/-- `is_unusual_block_size`. -/
def isUnusualBlockSize (blockSize : Int) : Bool := blockSize ≠ 512 && blockSize ≠ 4096

/-- `print_ascii`: anything but printable ASCII is shown as a question mark. -/
def printAscii (bytes : List UInt8) : String :=
  String.ofList (bytes.map fun b => if 0x20 ≤ b ∧ b < 0x7f then Char.ofNat b.toNat else '?')

/-- A numeral in the range of the parser is accepted with the value it denotes. -/
theorem parseNumber_numeral {bits : Nat} {low high n : Int} {s : String}
    (numeral : Numeral s.toList n) (lower : low ≤ n) (upper : n ≤ high)
    (bottom : -2 ^ (bits - 1) ≤ low) (top : high ≤ 2 ^ (bits - 1) - 1) :
    parseNumber bits low high s = n := by
  have read : strtol bits s.toList = ⟨n, [], 0⟩ :=
    strtol_numeral numeral (by omega) (by omega)
  have started : [] ≠ s.toList := fun same => numeral.ne_nil same.symm
  rw [parseNumber, read]
  simp only [ne_eq, not_true_eq_false, started, false_or]
  rw [if_neg (by omega)]

/-- What a parser accepts is a numeral for the value returned, in its range. -/
theorem numeral_of_parseNumber {bits : Nat} {low high : Int} {s : String}
    (accepted : parseNumber bits low high s ≠ -1) :
    Numeral s.toList (parseNumber bits low high s) ∧
      low ≤ parseNumber bits low high s ∧ parseNumber bits low high s ≤ high := by
  simp only [parseNumber] at accepted ⊢
  split at accepted
  · exact absurd rfl accepted
  · rename_i passed
    rw [if_neg passed]
    simp only [not_or, not_lt, not_not] at passed
    obtain ⟨silent, moved, consumed, lower, upper⟩ := passed
    exact ⟨numeral_of_strtol silent moved consumed, lower, upper⟩

/-- What a number parser accepts lies within its bounds. -/
theorem parseNumber_bounds {bits : Nat} {low high : Int} {s : String}
    (accepted : 0 ≤ parseNumber bits low high s) :
    low ≤ parseNumber bits low high s ∧ parseNumber bits low high s ≤ high := by
  have notRefused : parseNumber bits low high s ≠ -1 := by omega
  exact (numeral_of_parseNumber notRefused).2

/-- An accepted target identifier is at most 255. -/
theorem parseTarget_bounds {long : LongWidth} {s : String} (accepted : 0 ≤ parseTarget long s) :
    0 ≤ parseTarget long s ∧ parseTarget long s ≤ 255 :=
  parseNumber_bounds accepted

/-- An accepted block size fits in the three bytes of the block descriptor. -/
theorem parseBlockSize_bounds {long : LongWidth} {s : String}
    (accepted : 0 ≤ parseBlockSize long s) :
    1 ≤ parseBlockSize long s ∧ parseBlockSize long s ≤ 0xFFFFFF :=
  parseNumber_bounds accepted

/-- An accepted expected block size is neither 0 nor the value that stands for none. -/
theorem parseExpectedBlockSize_bounds {s : String} (accepted : 0 ≤ parseExpectedBlockSize s) :
    1 ≤ parseExpectedBlockSize s ∧ parseExpectedBlockSize s ≤ 0xFFFFFFFE :=
  parseNumber_bounds accepted

/-! ### The grammar of the arguments -/

/-- A parser of the numerals in a range: it returns the integer they denote, and
-1 for every other string. -/
structure AcceptsExactly (parse : String → Int) (low high : Int) : Prop where
  accepted : ∀ s, parse s ≠ -1 ↔ ∃ n, Numeral s.toList n ∧ low ≤ n ∧ n ≤ high
  exact : ∀ s n, Numeral s.toList n → low ≤ n → n ≤ high → parse s = n

/-- A number parser whose bounds fit its type takes exactly the numerals between them. -/
theorem parseNumber_acceptsExactly {bits : Nat} {low high : Int} (nonneg : 0 ≤ low)
    (bottom : -2 ^ (bits - 1) ≤ low) (top : high ≤ 2 ^ (bits - 1) - 1) :
    AcceptsExactly (parseNumber bits low high) low high where
  accepted s := by
    constructor
    · intro accepted
      exact ⟨_, numeral_of_parseNumber accepted⟩
    · rintro ⟨n, numeral, lower, upper⟩
      rw [parseNumber_numeral numeral lower upper bottom top]
      omega
  exact _ _ numeral lower upper := parseNumber_numeral numeral lower upper bottom top

/-- **The argument parsers accept exactly their grammar**, whatever the width of
`long`. -/
theorem argument_parsers_exact (long : LongWidth) :
    AcceptsExactly (parseTarget long) 0 255 ∧ AcceptsExactly (parseBlockSize long) 1 16777215 ∧
      AcceptsExactly parseExpectedBlockSize 1 4294967294 := by
  refine ⟨?_, ?_, ?_⟩
  · apply parseNumber_acceptsExactly <;> cases long <;> decide
  · apply parseNumber_acceptsExactly <;> cases long <;> decide
  · apply parseNumber_acceptsExactly <;> decide

/-- The block length field of a MODE SELECT parameter list, bytes 9 to 11. -/
def blockLengthField (modeSelData : List UInt8) : List UInt8 := (modeSelData.drop 9).take 3

/-- The block length field holds the block size, big-endian. -/
theorem bigEndian_setModeSelBlockLength (modeSelData : Vector UInt8 12) {blockSize : Int}
    (lower : 0 ≤ blockSize) (upper : blockSize ≤ 0xFFFFFF) :
    (bigEndian (blockLengthField (setModeSelBlockLength modeSelData blockSize).toList) : Int) =
      blockSize := by
  have field : blockLengthField (setModeSelBlockLength modeSelData blockSize).toList =
      [UInt8.ofInt (blockSize >>> (16 : Nat)), UInt8.ofInt (blockSize >>> (8 : Nat)),
        UInt8.ofInt blockSize] := by
    apply List.ext_getElem
    · simp [blockLengthField]
    · intro i _ inside
      simp only [List.length_cons, List.length_nil] at inside
      interval_cases i <;> simp [blockLengthField, setModeSelBlockLength]
  have by16 : blockSize >>> (16 : Nat) = blockSize / 65536 := Int.shiftRight_eq_div_pow blockSize 16
  have by8 : blockSize >>> (8 : Nat) = blockSize / 256 := Int.shiftRight_eq_div_pow blockSize 8
  have high := toNat_ofInt_uint8 (blockSize / 65536)
  have middle := toNat_ofInt_uint8 (blockSize / 256)
  have low := toNat_ofInt_uint8 blockSize
  rw [field, by16, by8]
  simp only [bigEndian, List.foldl_cons, List.foldl_nil, Nat.zero_mul, Nat.zero_add]
  omega

/-! ### Arguments written with `%d` -/

/-- A target identifier written with `%d` is read back as itself. -/
theorem parseTarget_decimal (long : LongWidth) {n : Nat} (upper : n ≤ 255) :
    parseTarget long (decimal n) = n := by
  apply parseNumber_numeral (decimal_numeral n) (by omega) (by omega) <;> cases long <;> decide

/-- An expected block size written with `%d` is read back as itself. -/
theorem parseExpectedBlockSize_decimal {n : Nat} (lower : 1 ≤ n) (upper : n ≤ 0xFFFFFFFE) :
    parseExpectedBlockSize (decimal n) = n := by
  apply parseNumber_numeral (decimal_numeral n) (by omega) (by omega) <;> decide

/-- `atoi` reads a decimal that fits in an `int` back as itself. -/
theorem atoi_decimal (long : LongWidth) {n : Nat} (upper : n < 2 ^ 31) :
    atoi long.bits (decimal n).toList = n := by
  have read : strtol long.bits (decimal n).toList = ⟨n, [], 0⟩ := by
    apply strtol_numeral (decimal_numeral n) <;> cases long <;> simp only [LongWidth.bits] <;> omega
  rw [atoi, read]
  change (n : Int).bmod (2 ^ 32) = n
  exact Int.bmod_eq_of_le (by omega) (by omega)

end Megaraid
