/-
# ScenarioGraph.Decimal.Padded -- decimal numbers of a least width

Zeros in front are digits that add nothing, so a number can be read back from its digits
whatever the width (`ofDigitChars_padZeros`), and no two numbers are written alike.
-/

namespace ScenarioGraph.Decimal

set_option autoImplicit false

/-- `n` with zeros in front, at least `width` digits in all. -/
def padZeros (width n : Nat) : String :=
  let digits := Nat.toDigits 10 n
  String.ofList (List.replicate (width - digits.length) '0' ++ digits)

theorem toList_padZeros (width n : Nat) :
    (padZeros width n).toList =
      List.replicate (width - (Nat.toDigits 10 n).length) '0' ++ Nat.toDigits 10 n :=
  String.toList_ofList

theorem isDigit_of_mem_padZeros {width n : Nat} {c : Char}
    (member : c ∈ (padZeros width n).toList) : c.isDigit = true := by
  rw [toList_padZeros, List.mem_append] at member
  rcases member with inZeros | inDigits
  · rw [List.eq_of_mem_replicate inZeros]
    decide
  · exact Nat.isDigit_of_mem_toDigits (by decide) (by decide) inDigits

/-- The digits write the number, with zeros in front or without. -/
theorem ofDigitChars_padZeros (width n : Nat) :
    Nat.ofDigitChars 10 (padZeros width n).toList 0 = n := by
  rw [toList_padZeros, Nat.ofDigitChars_append, Nat.ofDigitChars_replicate_zero, Nat.mul_zero,
    Nat.ofDigitChars_ten_toDigits]

theorem padZeros_injective (width : Nat) : Function.Injective (padZeros width) := by
  intro first second same
  rw [← ofDigitChars_padZeros width first, same, ofDigitChars_padZeros]

end ScenarioGraph.Decimal
