import Mathlib.Algebra.Ring.Int.Defs
import Mathlib.Algebra.Ring.Nat
import Mathlib.Data.List.TakeWhile
import Mathlib.Tactic.Common

/-!
# Decimal numbers in C strings

`strtol` and its wider variant in base ten and the C locale: leading white
space, one optional sign, the longest run of digits, and saturation with
`ERANGE` outside the result type. A C string is the list of its characters
before the terminating NUL, and the end pointer is the suffix it points at.
`Numeral` is the grammar the functions read; a string that is a numeral as a
whole is read to its end (`strtol_numeral`), and `%d` renders a number as a
numeral for it (`decimal_numeral`).
-/

namespace Megaraid

/-- White space of the C locale. -/
def isspace (c : Char) : Bool :=
  c = ' ' || c = '\t' || c = '\n' || c = '\x0b' || c = '\x0c' || c = '\r'

/-- `ERANGE` of `<errno.h>`. -/
def erange : Int := 34

/-- The value converted, the suffix `end` points at, and the `errno` left
behind by a call that entered with `errno = 0`. -/
structure StrtolResult where
  value : Int
  rest : List Char
  errno : Int
  deriving DecidableEq, Repr

/-- The sign in front of the digits and what follows it. -/
def splitSign : List Char → Int × List Char
  | '-' :: rest => (-1, rest)
  | '+' :: rest => (1, rest)
  | rest => (1, rest)

/-- `strtol(s, &end, 10)` for a signed result type of the given width. -/
def strtol (bits : Nat) (s : List Char) : StrtolResult :=
  let signed := splitSign (s.dropWhile isspace)
  let digits := signed.2.takeWhile Char.isDigit
  let rest := signed.2.dropWhile Char.isDigit
  let number := signed.1 * (Nat.ofDigitChars 10 digits 0 : Int)
  if digits = [] then ⟨0, s, 0⟩
  else if number < -2 ^ (bits - 1) then ⟨-2 ^ (bits - 1), rest, erange⟩
  else if 2 ^ (bits - 1) - 1 < number then ⟨2 ^ (bits - 1) - 1, rest, erange⟩
  else ⟨number, rest, 0⟩

/-- `atoi`: the `long` that `strtol` reads, converted to a 32-bit `int`. -/
def atoi (bits : Nat) (s : List Char) : Int := (strtol bits s).value.bmod (2 ^ 32)

/-- `%d`. -/
def decimal (n : Int) : String := toString n

/-- The strings that are white space, one optional sign and digits, with the
integer they denote. -/
inductive Numeral : List Char → Int → Prop where
  | unsigned (blanks digits : List Char) (white : ∀ c ∈ blanks, isspace c)
      (numeric : ∀ c ∈ digits, c.isDigit) (nonempty : digits ≠ []) :
      Numeral (blanks ++ digits) (Nat.ofDigitChars 10 digits 0)
  | plus (blanks digits : List Char) (white : ∀ c ∈ blanks, isspace c)
      (numeric : ∀ c ∈ digits, c.isDigit) (nonempty : digits ≠ []) :
      Numeral (blanks ++ '+' :: digits) (Nat.ofDigitChars 10 digits 0)
  | minus (blanks digits : List Char) (white : ∀ c ∈ blanks, isspace c)
      (numeric : ∀ c ∈ digits, c.isDigit) (nonempty : digits ≠ []) :
      Numeral (blanks ++ '-' :: digits) (-(Nat.ofDigitChars 10 digits 0))

/-- A digit is no white space. -/
private theorem isspace_of_isDigit {c : Char} (digit : c.isDigit) : isspace c = false := by
  have different : ∀ d : Char, d.isDigit = false → c ≠ d := by
    rintro d notDigit rfl
    rw [digit] at notDigit
    cases notDigit
  simp [isspace, different ' ' (by decide), different '\t' (by decide),
    different '\n' (by decide), different '\x0b' (by decide), different '\x0c' (by decide),
    different '\r' (by decide)]

/-- Digits carry no sign. -/
private theorem splitSign_digits {digits : List Char} (numeric : ∀ c ∈ digits, c.isDigit) :
    splitSign digits = (1, digits) := by
  unfold splitSign
  split
  · exact absurd (numeric '-' (by simp)) (by decide)
  · exact absurd (numeric '+' (by simp)) (by decide)
  · rfl

/-- White space at the front is skipped, and nothing else. -/
private theorem dropWhile_blanks {blanks tail : List Char} (white : ∀ c ∈ blanks, isspace c)
    (stop : ∀ c ∈ tail.head?, isspace c = false) :
    (blanks ++ tail).dropWhile isspace = tail := by
  rw [List.dropWhile_append_of_pos white]
  cases tail with
  | nil => rfl
  | cons c tail => rw [List.dropWhile_cons_of_neg]; simp [stop c (by simp)]

/-- What is left of a numeral after its white space. -/
private theorem numeral_signed {s : List Char} {n : Int} (numeral : Numeral s n) :
    ∃ sign digits, splitSign (s.dropWhile isspace) = (sign, digits) ∧
      (∀ c ∈ digits, c.isDigit) ∧ digits ≠ [] ∧
      n = sign * (Nat.ofDigitChars 10 digits 0 : Int) := by
  cases numeral with
  | unsigned blanks digits white numeric nonempty =>
      refine ⟨1, digits, ?_, numeric, nonempty, (one_mul _).symm⟩
      rw [dropWhile_blanks white, splitSign_digits numeric]
      intro c first
      exact isspace_of_isDigit (numeric c (List.mem_of_mem_head? first))
  | plus blanks digits white numeric nonempty =>
      refine ⟨1, digits, ?_, numeric, nonempty, (one_mul _).symm⟩
      rw [dropWhile_blanks white (by simp; decide), splitSign]
  | minus blanks digits white numeric nonempty =>
      refine ⟨-1, digits, ?_, numeric, nonempty, (neg_one_mul _).symm⟩
      rw [dropWhile_blanks white (by simp; decide), splitSign]

/-- A numeral in the range of the result type is converted exactly, to its end. -/
theorem strtol_numeral {bits : Nat} {s : List Char} {n : Int} (numeral : Numeral s n)
    (lower : -2 ^ (bits - 1) ≤ n) (upper : n ≤ 2 ^ (bits - 1) - 1) :
    strtol bits s = ⟨n, [], 0⟩ := by
  obtain ⟨sign, digits, signed, numeric, nonempty, denotes⟩ := numeral_signed numeral
  have whole : digits.takeWhile Char.isDigit = digits := List.takeWhile_eq_self_iff.mpr numeric
  have none : digits.dropWhile Char.isDigit = [] := List.dropWhile_eq_nil_iff.mpr numeric
  simp only [strtol, signed, whole, none, ← denotes]
  rw [if_neg nonempty, if_neg (by omega), if_neg (by omega)]

/-- The end pointer of a numeral is not its start. -/
theorem Numeral.ne_nil {s : List Char} {n : Int} (numeral : Numeral s n) : s ≠ [] := by
  cases numeral <;> simp_all

/-- A numeral denotes one integer. -/
theorem Numeral.unique {s : List Char} {n m : Int} (numeral : Numeral s n) (again : Numeral s m) :
    n = m := by
  obtain ⟨sign, digits, signed, _, _, denotes⟩ := numeral_signed numeral
  obtain ⟨sign', digits', signed', _, _, denotes'⟩ := numeral_signed again
  rw [signed, Prod.mk.injEq] at signed'
  rw [denotes, denotes', signed'.1, signed'.2]

/-- What `splitSign` takes off. -/
private theorem splitSign_cases (s : List Char) :
    (∃ rest, s = '-' :: rest ∧ splitSign s = (-1, rest)) ∨
      (∃ rest, s = '+' :: rest ∧ splitSign s = (1, rest)) ∨ splitSign s = (1, s) := by
  unfold splitSign
  split
  · exact Or.inl ⟨_, rfl, rfl⟩
  · exact Or.inr (Or.inl ⟨_, rfl, rfl⟩)
  · exact Or.inr (Or.inr rfl)

/-- A string converted to its end without an error is a numeral. -/
theorem numeral_of_strtol {bits : Nat} {s : List Char} (silent : (strtol bits s).errno = 0)
    (moved : (strtol bits s).rest ≠ s) (consumed : (strtol bits s).rest = []) :
    Numeral s (strtol bits s).value := by
  have whole : s.takeWhile isspace ++ s.dropWhile isspace = s := List.takeWhile_append_dropWhile
  have white : ∀ c ∈ s.takeWhile isspace, isspace c := fun _ member =>
    List.mem_takeWhile_imp member
  obtain ⟨sign, digits, signed⟩ : ∃ sign digits, splitSign (s.dropWhile isspace) = (sign, digits) :=
    ⟨_, _, rfl⟩
  simp only [strtol, signed] at silent moved consumed ⊢
  by_cases empty : digits.takeWhile Char.isDigit = []
  · rw [if_pos empty] at moved
    exact absurd rfl moved
  rw [if_neg empty] at silent consumed ⊢
  split_ifs at silent consumed ⊢ with below above
  · cases silent
  · cases silent
  have numeric : ∀ c ∈ digits, c.isDigit := List.dropWhile_eq_nil_iff.mp consumed
  have all : digits.takeWhile Char.isDigit = digits := List.takeWhile_eq_self_iff.mpr numeric
  rw [all] at empty ⊢
  rcases splitSign_cases (s.dropWhile isspace) with
    ⟨rest, tail, split⟩ | ⟨rest, tail, split⟩ | split
  · rw [signed, Prod.mk.injEq] at split
    rw [← whole, tail, split.1, ← split.2, neg_one_mul]
    exact .minus _ digits white numeric empty
  · rw [signed, Prod.mk.injEq] at split
    rw [← whole, tail, split.1, ← split.2, one_mul]
    exact .plus _ digits white numeric empty
  · rw [signed, Prod.mk.injEq] at split
    rw [← whole, split.1, ← split.2, one_mul]
    exact .unsigned _ digits white numeric empty

/-- `%d` writes a natural number as a numeral. -/
theorem decimal_numeral (n : Nat) : Numeral (decimal n).toList n := by
  have digits : (decimal n).toList = Nat.toDigits 10 n := Nat.toList_repr
  have numeric : ∀ c ∈ Nat.toDigits 10 n, c.isDigit := fun c member =>
    Nat.isDigit_of_mem_toDigits (by decide) (by decide) member
  have written := Numeral.unsigned [] (Nat.toDigits 10 n) (by simp) numeric Nat.toDigits_ne_nil
  rwa [Nat.ofDigitChars_ten_toDigits, List.nil_append, ← digits] at written

end Megaraid
