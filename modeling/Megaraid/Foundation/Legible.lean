import Mathlib.Tactic.Common

/-!
# Texts made of given characters

`MadeOf` says that a text has no other characters than those of a set. A literal is
checked by computation against a set inside it; of numbers in any base it is enough that
the set contains the characters that numbers are written with. Everything put together
from such texts is made of them too. The plain characters, printable ASCII and the
newline, contain those of numbers.
-/

namespace Megaraid

/-- Printable ASCII, or a newline. -/
def isPlain (c : Char) : Bool := c == '\n' || (0x20 ≤ c.toNat && c.toNat ≤ 0x7e)

/-- A character that numbers are written with, in any base. -/
def isNumeral (c : Char) : Bool := "0123456789abcdef*-".toList.contains c

/-- A character of a numeral is a plain one. -/
theorem isPlain_of_isNumeral {c : Char} (numeral : isNumeral c) : isPlain c := by
  have every : "0123456789abcdef*-".toList.all isPlain = true := by decide
  exact List.all_eq_true.mp every c (List.contains_iff_mem.mp numeral)

/-- A text without other characters than these. -/
def MadeOf (ok : Char → Prop) (text : String) : Prop := ∀ c ∈ text.toList, ok c

namespace MadeOf

variable {ok other : Char → Prop}

/-- A text is made of more characters as well. -/
theorem mono {text : String} (made : MadeOf ok text) (wider : ∀ c, ok c → other c) :
    MadeOf other text := fun c member => wider c (made c member)

/-- A list of such characters is such a text. -/
theorem ofList {chars : List Char} (made : ∀ c ∈ chars, ok c) :
    MadeOf ok (String.ofList chars) := by
  rw [MadeOf, String.toList_ofList]
  exact made

/-- Two such texts make one. -/
theorem append {first second : String} (early : MadeOf ok first) (late : MadeOf ok second) :
    MadeOf ok (first ++ second) := by
  intro c member
  rw [String.toList_append, List.mem_append] at member
  rcases member with before | behind
  · exact early c before
  · exact late c behind

/-- A text with blanks behind it. -/
theorem padded {text : String} (made : MadeOf ok text) (blank : ok ' ') (n : Nat) :
    MadeOf ok (String.ofList (text.toList ++ List.replicate n ' ')) := by
  apply ofList
  intro c member
  rcases List.mem_append.mp member with before | behind
  · exact made c before
  · rw [List.eq_of_mem_replicate behind]
    exact blank

section Literals

variable {check : Char → Bool} (covers : ∀ c, check c → ok c)
include covers

/-- A literal is checked by computation. -/
theorem literal {chars : List Char} (checked : chars.all check = true) :
    MadeOf ok (String.ofList chars) :=
  ofList fun c member => covers c (List.all_eq_true.mp checked c member)

/-- A text between two literals. -/
theorem between {before after : List Char} {text : String} (made : MadeOf ok text)
    (opens : before.all check = true) (closes : after.all check = true) :
    MadeOf ok (String.ofList before ++ text ++ String.ofList after) :=
  ((literal covers opens).append made).append (literal covers closes)

end Literals

section Numbers

variable (numeral : ∀ c, isNumeral c → ok c)
include numeral

/-- A digit in any base is a character of a numeral. -/
theorem digitChar (n : Nat) : ok n.digitChar := by
  apply numeral
  have small : ∀ n < 16, isNumeral (Nat.digitChar n) := by decide
  rcases Nat.lt_or_ge n 16 with digit | star
  · exact small n digit
  · rw [Nat.digitChar_eq_star.mpr star]
    rfl

/-- The digits of a number in any base. -/
theorem toDigits {base : Nat} (proper : 1 < base) (n : Nat) : ∀ c ∈ Nat.toDigits base n, ok c := by
  induction n using Nat.strongRecOn with
  | _ n ih =>
      intro c member
      rw [Nat.toDigits_eq_if proper] at member
      split at member
      · rw [List.mem_singleton.mp member]
        exact digitChar numeral n
      · rename_i large
        rcases List.mem_append.mp member with early | last
        · have smaller : n / base < n := Nat.div_lt_self (by omega) proper
          exact ih _ smaller c early
        · rw [List.mem_singleton.mp last]
          exact digitChar numeral _

/-- The decimal of a natural number is a numeral. -/
theorem repr (n : Nat) : MadeOf ok (Nat.repr n) := by
  rw [MadeOf, Nat.toList_repr]
  exact toDigits numeral (by decide) n

/-- The decimal of an integer is a numeral, its sign included. -/
theorem toString_int (n : Int) : MadeOf ok (toString n) := by
  cases n with
  | ofNat n => exact repr numeral n
  | negSucc n =>
      have minus : MadeOf ok "-" := literal numeral rfl
      exact minus.append (repr numeral _)

end Numbers

end MadeOf

end Megaraid
