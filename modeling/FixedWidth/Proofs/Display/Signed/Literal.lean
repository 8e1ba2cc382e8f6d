import FixedWidth.Proofs.Display.Signed
import FixedWidth.Proofs.Number.Literal

/-!
# Signed numbers on display are literals

A row of digits with its point, and a minus sign in front, is what a literal is, so that
a field can also be read without knowing where its point stands: the literal says it
(`FixedWidth.Display.ofText_withSign_pointed`). The one row that is no literal is the
empty one, of a field without digits.
-/

namespace FixedWidth.Display

open Decimal (IsLiteral)

variable {ds : List Char} {i f : Nat} {negative : Bool}

theorem length_drop_places (hlength : ds.length = i + f) : (ds.drop i).length = f := by
  rw [List.length_drop, hlength, Nat.add_sub_cancel_left]

/-- What a field shows is a literal, where it shows a digit. -/
theorem isLiteral_withSign_pointed (hpos : 0 < i + f) (hdigits : ds.all Char.isDigit = true)
    (hlength : ds.length = i + f) :
    IsLiteral (withSign negative (pointed i f ds)) ⟨negative, ds.take i, ds.drop i⟩ where
  exists_pieces := by
    refine ⟨_, _, Decimal.isSign_ite negative,
      Decimal.isTail_ite (length_drop_places hlength), ?_⟩
    cases negative <;> rfl
  whole_digits := List.all_eq_true.mpr fun c hc =>
    List.all_eq_true.mp hdigits c (List.mem_of_mem_take hc)
  fraction_digits := List.all_eq_true.mpr fun c hc =>
    List.all_eq_true.mp hdigits c (List.mem_of_mem_drop hc)
  some_digit := by
    rw [← List.length_pos_iff, ← List.length_pos_iff, List.length_take, List.length_drop]
    omega

/-- **What a field shows is a literal of the same number**, where it shows a digit. -/
theorem ofText_withSign_pointed (hpos : 0 < i + f) (hdigits : ds.all Char.isDigit = true)
    (hlength : ds.length = i + f) :
    Decimal.ofText (String.ofList (withSign negative (pointed i f ds))) =
      .ok (.make (Nat.ofDigitChars 10 ds 0) negative f) := by
  refine (isLiteral_withSign_pointed hpos hdigits hlength).ofText_eq (Decimal.means_iff.mpr ?_)
  rw [Decimal.LiteralParts.toDecimal, List.take_append_drop, length_drop_places hlength]

end FixedWidth.Display
