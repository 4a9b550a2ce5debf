import Megaraid.Foundation.Legible
import Megaraid.Progress.Poll

/-!
# The characters of conversions

`%d`, `%x`, `%02x` and the `%.1f` of the percentage write the characters of numbers and
at most a point, whatever the number.
-/

namespace Megaraid

namespace MadeOf

variable {ok : Char → Prop} (numeral : ∀ c, isNumeral c → ok c)
include numeral

/-- `%d`. -/
theorem of_decimal (n : Int) : MadeOf ok (decimal n) := toString_int numeral n

/-- `%x`. -/
theorem of_hex (n : UInt8) : MadeOf ok (hex n) := ofList (toDigits numeral (by decide) _)

/-- `%02x`. -/
theorem of_hex02 (n : Int) : MadeOf ok (hex02 n) := by
  apply ofList
  intro c member
  rcases List.mem_append.mp member with zero | digit
  · rw [List.eq_of_mem_replicate zero]
    exact numeral '0' rfl
  · exact toDigits numeral (by decide) _ c digit

/-- `%.1f`. -/
theorem of_percent (point : MadeOf ok ".") (progress : Int) : MadeOf ok (percent progress) :=
  ((of_decimal numeral _).append point).append (of_decimal numeral _)

end MadeOf

end Megaraid
