/-
# ScenarioGraph.Text.Digit -- numerals

Digits of any base up to sixteen, in either case, and the numbers they write.
-/

namespace ScenarioGraph.Text

set_option autoImplicit false

/-- The value of a digit of the base. -/
def digitValue? (base : Nat) (c : Char) : Option Nat :=
  let value :=
    if '0' ≤ c ∧ c ≤ '9' then c.toNat - '0'.toNat
    else if 'a' ≤ c ∧ c ≤ 'f' then c.toNat - 'a'.toNat + 10
    else if 'A' ≤ c ∧ c ≤ 'F' then c.toNat - 'A'.toNat + 10
    else base
  if value < base then some value else none

def isDigitOf (base : Nat) (c : Char) : Bool := (digitValue? base c).isSome

/-- The number that digits write, the first one most significant. -/
def ofDigits? (base : Nat) (digits : List Char) : Option Nat :=
  (digits.mapM (digitValue? base)).map (List.foldl (fun n d => n * base + d) 0)

end ScenarioGraph.Text
