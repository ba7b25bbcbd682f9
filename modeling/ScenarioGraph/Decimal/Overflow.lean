/-
# ScenarioGraph.Decimal.Overflow -- decimals beyond the doubles

A decimal is rounded to the nearest double.  From half a unit above the greatest
double on, the nearest is infinity.  The power of ten of the first digit decides
alone, but for decimals of as many digits as the bound; so no large power of ten
is ever computed.
-/
import ScenarioGraph.Decimal.Shortest

namespace ScenarioGraph.Decimal

set_option autoImplicit false

/-- The least number that rounds to infinity: half a unit above the greatest double. -/
def overflowBound : Nat := Nat.pow 2 970 * (Nat.pow 2 54 - 1)

/-- The power of ten of the first digit of the bound. -/
def overflowLead : Int := 308

/-- Whether the nearest double is infinity. -/
def Digits.overflows (d : Digits) : Bool :=
  let lead := d.power + digitCount d.number - 1
  if d.number = 0 ∨ lead < overflowLead then false
  else if overflowLead < lead then true
  else overflowBound * Nat.pow 10 (-d.power).toNat ≤ d.number * Nat.pow 10 d.power.toNat

end ScenarioGraph.Decimal
