/-
# ScenarioGraph.Decimal.Shortest -- the fewest digits that read back

A positive double is `m * 2 ^ q`.  The decimals that round to it fill an
interval around it, ends included when `m` is even.  `shortest` tries one digit,
two digits, and so on: on each decimal grid only the value's two neighbours can
be the closest point, so the first grid with a neighbour in the interval gives
the fewest digits, and the nearer of two hits gives the digits themselves.  All
comparisons are between exact fractions of naturals.

`Layout` says how digits and exponent become text.
-/

namespace ScenarioGraph.Decimal

set_option autoImplicit false

/-! ## Doubles as binary fractions -/

/-- A double: its sign, and its size `mantissa * 2 ^ exponent`. -/
structure Binary where
  negative : Bool
  mantissa : Nat
  exponent : Int
deriving DecidableEq

/-- The sign bit, eleven exponent bits and 52 fraction bits of a finite double. -/
def Binary.ofBits (bits : UInt64) : Binary :=
  let fraction : Nat := bits.toNat % Nat.pow 2 52
  let scale : Nat := bits.toNat / Nat.pow 2 52 % Nat.pow 2 11
  { negative := bits.toNat / Nat.pow 2 63 = 1
    mantissa := if scale = 0 then fraction else fraction + Nat.pow 2 52
    exponent := if scale = 0 then -1074 else (scale : Int) - 1075 }

/-- The value as a fraction of integers, if it is one: `n * 2 ^ 0`. -/
def Binary.toInt? (b : Binary) : Option Int :=
  let sign : Int := if b.negative then -1 else 1
  if 0 ≤ b.exponent then some (sign * (b.mantissa * Nat.pow 2 b.exponent.toNat : Nat))
  else
    let unit := Nat.pow 2 (-b.exponent).toNat
    if b.mantissa % unit = 0 then some (sign * (b.mantissa / unit : Nat)) else none

/-! ## The rounding interval -/

/-- The interval of the reals that round to a positive double, with the double
itself, as numerators over one denominator. -/
structure Interval where
  low : Nat
  value : Nat
  high : Nat
  denominator : Nat
  /-- Whether the two ends round to the double as well. -/
  closed : Bool

/-- Neighbouring doubles are one unit apart, but below a power of two the
neighbour is only half a unit away. -/
def Interval.of (b : Binary) : Interval :=
  let scale := Nat.pow 2 (b.exponent - 2).toNat
  let below := if b.mantissa = Nat.pow 2 52 ∧ -1074 < b.exponent then 1 else 2
  { low := (4 * b.mantissa - below) * scale
    value := 4 * b.mantissa * scale
    high := (4 * b.mantissa + 2) * scale
    denominator := Nat.pow 2 (2 - b.exponent).toNat
    closed := b.mantissa % 2 = 0 }

/-- The interval with every bound divided by `10 ^ power`. -/
def Interval.scaleDown (i : Interval) (power : Int) : Interval :=
  let up := Nat.pow 10 (-power).toNat
  { i with
    low := i.low * up
    value := i.value * up
    high := i.high * up
    denominator := i.denominator * Nat.pow 10 power.toNat }

def Interval.holds (i : Interval) (n : Nat) : Bool :=
  if i.closed then i.low ≤ n * i.denominator && n * i.denominator ≤ i.high
  else i.low < n * i.denominator && n * i.denominator < i.high

/-! ## The search for digits -/

/-- How many decimal digits `n` has; none for zero. -/
def digitCount (n : Nat) : Nat := if n = 0 then 0 else (Nat.toDigits 10 n).length

/-- The power of ten of the first digit of a positive fraction. -/
def leadingPower (numerator denominator : Nat) : Int :=
  if denominator ≤ numerator then (digitCount (numerator / denominator) : Int) - 1
  else -(digitCount ((denominator + numerator - 1) / numerator - 1) : Int)

/-- Digits `n` standing for `n * 10 ^ power`. -/
structure Digits where
  number : Nat
  power : Int
deriving DecidableEq

/-- The neighbour of the value on one decimal grid that rounds back to it: the
nearer of the two, the even one when they are equally near. -/
def onGrid (i : Interval) : Option Nat :=
  let down := i.value / i.denominator
  let rest := i.value % i.denominator
  let up := down + 1
  match i.holds down, i.holds up with
  | true, true =>
      if 2 * rest < i.denominator then some down
      else if i.denominator < 2 * rest then some up
      else some (if down % 2 = 0 then down else up)
  | true, false => some down
  | false, true => some up
  | false, false => none

/-- The digits of a positive double: the first grid, from one digit upwards,
that has a point rounding back to it.  Seventeen digits always do. -/
def shortest (b : Binary) : Digits :=
  let i := Interval.of b
  let lead := leadingPower i.value i.denominator
  let grids := (List.range 17).map fun (k : Nat) => lead - (k : Int)
  (grids.findSome? fun power => (onGrid (i.scaleDown power)).map fun n => ⟨n, power⟩).getD
    ⟨b.mantissa, b.exponent⟩

/-! ## Text -/

/-- Where positional notation begins and ends, by the power of ten of the first
digit, and what stands before an exponent that is not negative. -/
structure Layout where
  leastPositional : Int
  greatestPositional : Int
  plusSign : String

/-- Digits without the zeros at their end. -/
def significant (number : Nat) : List Char :=
  ((Nat.toDigits 10 number).reverse.dropWhile (· = '0')).reverse

/-- The text of digits whose first one stands at the power `lead` of ten. -/
def Layout.positional (digits : List Char) (lead : Int) : String :=
  if lead < 0 then
    "0." ++ String.ofList (List.replicate (-lead - 1).toNat '0' ++ digits)
  else
    let whole := lead.toNat + 1
    let integral := digits.take whole ++ List.replicate (whole - digits.length) '0'
    let fraction := if digits.length ≤ whole then ['0'] else digits.drop whole
    String.ofList integral ++ "." ++ String.ofList fraction

def Layout.scientific (layout : Layout) (digits : List Char) (lead : Int) : String :=
  let mantissa := match digits with
    | first :: second :: rest => String.ofList (first :: '.' :: second :: rest)
    | few => String.ofList few
  let sign := if lead < 0 then "-" else layout.plusSign
  mantissa ++ "e" ++ sign ++ toString lead.natAbs

/-- The text of a finite double. -/
def Layout.text (layout : Layout) (value : Float) : String :=
  let b := Binary.ofBits value.toBits
  let sign := if b.negative then "-" else ""
  if b.mantissa = 0 then sign ++ "0.0"
  else
    let d := shortest b
    let lead := d.power + (Nat.toDigits 10 d.number).length - 1
    let digits := significant d.number
    if layout.leastPositional ≤ lead ∧ lead ≤ layout.greatestPositional then
      sign ++ Layout.positional digits lead
    else sign ++ layout.scientific digits lead

end ScenarioGraph.Decimal
