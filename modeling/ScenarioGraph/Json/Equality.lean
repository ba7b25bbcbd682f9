/-
# ScenarioGraph.Json.Equality -- values that are equal

Two values are equal when they differ at most in how a number is written: `1`
and `1.0` are one number.  Objects are compared field by field, which is right
for fields in key order.
-/
import ScenarioGraph.Json.Value
import ScenarioGraph.Decimal.Shortest

namespace ScenarioGraph.Json

set_option autoImplicit false

/-- The integer that a number is, however it is written. -/
def Number.toInt? : Number → Option Int
  | .int n => some n
  | .float value => (Decimal.Binary.ofBits value.toBits).toInt?

def Number.equals : Number → Number → Bool
  | .float a, .float b => a == b
  | a, b => a.toInt? = b.toInt?

mutual

def equals : Json → Json → Bool
  | .null, .null => true
  | .bool a, .bool b => a = b
  | .num a, .num b => a.equals b
  | .str a, .str b => a = b
  | .arr a, .arr b => equalItems a b
  | .obj a, .obj b => equalFields a b
  | _, _ => false

def equalItems : List Json → List Json → Bool
  | [], [] => true
  | a :: as, b :: bs => equals a b && equalItems as bs
  | _, _ => false

def equalFields : List (String × Json) → List (String × Json) → Bool
  | [], [] => true
  | (key, a) :: as, (other, b) :: bs => key = other && equals a b && equalFields as bs
  | _, _ => false

end

@[simp]
theorem equals_str (a b : String) : equals (.str a) (.str b) = decide (a = b) := by
  simp [equals]

end ScenarioGraph.Json
