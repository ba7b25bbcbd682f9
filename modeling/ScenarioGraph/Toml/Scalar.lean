/-
# ScenarioGraph.Toml.Scalar -- values without quotes and brackets

A bare value is a run of letters, digits and the signs `+ - _ . :`.  `scalar?`
tells what the run writes: a boolean, an integer of 64 bits, a float or a moment
in time.  Single underscores may stand between digits.
-/
import ScenarioGraph.Decimal.Overflow
import ScenarioGraph.Text.Digit
import ScenarioGraph.Toml.Value

namespace ScenarioGraph.Toml

set_option autoImplicit false

open Text

/-- Characters of bare values. -/
def isBare (c : Char) : Bool := c.isAlphanum || c ∈ ['+', '-', '_', '.', ':']

/-! ## Integers -/

/-- Digits with the underscores between them left out. -/
def plainDigits? (base : Nat) : List Char → Option (List Char)
  | [] => none
  | [d] => if isDigitOf base d then some [d] else none
  | d :: '_' :: rest => if isDigitOf base d then (plainDigits? base rest).map (d :: ·) else none
  | d :: next :: rest =>
      if isDigitOf base d then (plainDigits? base (next :: rest)).map (d :: ·) else none

/-- The sign in front, and what follows it. -/
def signed (chars : List Char) : Bool × List Char :=
  match chars with
  | '+' :: rest => (false, rest)
  | '-' :: rest => (true, rest)
  | _ => (false, chars)

/-- Digits without a zero in front of others. -/
def wholeDigits? (chars : List Char) : Option (List Char) := do
  let digits ← plainDigits? 10 chars
  guard (chars.head? ≠ some '0' ∨ chars.length = 1)
  some digits

/-- An integer of 64 bits with a sign. -/
def inRange (value : Int) : Option Int :=
  let bound : Int := Nat.pow 2 63
  if -bound ≤ value ∧ value < bound then some value else none

def decimal? (chars : List Char) : Option Int := do
  let (negative, digits) := signed chars
  let size ← ofDigits? 10 (← wholeDigits? digits)
  inRange (if negative then -size else size)

def basedInteger? (base : Nat) (chars : List Char) : Option Int := do
  inRange (← ofDigits? base (← plainDigits? base chars))

def integer? : List Char → Option Int
  | '0' :: 'x' :: digits => basedInteger? 16 digits
  | '0' :: 'o' :: digits => basedInteger? 8 digits
  | '0' :: 'b' :: digits => basedInteger? 2 digits
  | chars => decimal? chars

/-! ## Floats -/

def isExponentMark (c : Char) : Bool := c = 'e' || c = 'E'

/-- What follows the mark of an exponent. -/
def exponent? (chars : List Char) : Option Int := do
  let (negative, digits) := signed chars
  let size ← ofDigits? 10 (← plainDigits? 10 digits)
  some (if negative then -size else size)

/-- An exponent with its mark, or nothing. -/
def exponentOrEnd? : List Char → Option Int
  | [] => some 0
  | _ :: rest => exponent? rest

/-- Digits, then a fraction or an exponent or both. -/
def decimalFloat? (chars : List Char) : Option Decimal.Digits := do
  let whole := chars.takeWhile fun c => c ≠ '.' && !isExponentMark c
  let digits ← wholeDigits? whole
  match chars.drop whole.length with
  | '.' :: rest =>
      let fraction := rest.takeWhile fun c => !isExponentMark c
      let more ← plainDigits? 10 fraction
      let exponent ← exponentOrEnd? (rest.drop fraction.length)
      some ⟨← ofDigits? 10 (digits ++ more), exponent - more.length⟩
  | _ :: rest => some ⟨← ofDigits? 10 digits, ← exponent? rest⟩
  | [] => none

/-- A float with a sign.  Infinity has a name of its own, and no other float may
round to it; below zero there is no bound. -/
def isFloat (chars : List Char) : Bool :=
  let (negative, size) := signed chars
  size = ['i', 'n', 'f'] || size = ['n', 'a', 'n'] ||
    (decimalFloat? size).any fun digits => negative || !digits.overflows

/-! ## Moments in time -/

/-- A number of exactly `width` digits within bounds, and what follows it. -/
def field? (width least greatest : Nat) (chars : List Char) : Option (Nat × List Char) := do
  guard ((chars.take width).length = width)
  let value ← ofDigits? 10 (chars.take width)
  guard (least ≤ value ∧ value ≤ greatest)
  some (value, chars.drop width)

/-- What follows the character wanted. -/
def after? (wanted : Char) (chars : List Char) : Option (List Char) :=
  if chars.head? = some wanted then some chars.tail else none

def daysIn (year month : Nat) : Nat :=
  if month = 2 then
    if year % 4 = 0 ∧ (year % 100 ≠ 0 ∨ year % 400 = 0) then 29 else 28
  else if month ∈ [4, 6, 9, 11] then 30
  else 31

/-- Year, month and day; what follows them. -/
def date? (chars : List Char) : Option (List Char) := do
  let (year, rest) ← field? 4 0 9999 chars
  let (month, rest) ← field? 2 1 12 (← after? '-' rest)
  let (_, rest) ← field? 2 1 (daysIn year month) (← after? '-' rest)
  some rest

/-- Hour and minute; what follows them. -/
def hourMinute? (chars : List Char) : Option (List Char) := do
  let (_, rest) ← field? 2 0 23 chars
  let (_, rest) ← field? 2 0 59 (← after? ':' rest)
  some rest

/-- A time of the day, perhaps with a fraction of a second; what follows it. -/
def time? (chars : List Char) : Option (List Char) := do
  let (_, rest) ← field? 2 0 60 (← after? ':' (← hourMinute? chars))
  match rest with
  | '.' :: fraction =>
      guard (fraction.head?.any Char.isDigit)
      some (fraction.dropWhile Char.isDigit)
  | _ => some rest

/-- The distance from universal time, or nothing. -/
def isOffsetOrEnd : List Char → Bool
  | [] => true
  | ['Z'] | ['z'] => true
  | '+' :: rest | '-' :: rest => hourMinute? rest = some []
  | _ => false

/-- A time of the day, perhaps with its distance from universal time. -/
def isClock (chars : List Char) : Bool := (time? chars).any isOffsetOrEnd

def isDate (chars : List Char) : Bool := date? chars = some []

/-- A date, a time of the day, or both. -/
def isMoment (chars : List Char) : Bool :=
  time? chars = some [] ||
    match date? chars with
    | some [] => true
    | some ('T' :: rest) | some ('t' :: rest) => isClock rest
    | _ => false

/-! ## All bare values -/

def scalar? (chars : List Char) : Option Toml :=
  match chars with
  | ['t', 'r', 'u', 'e'] => some (.boolean true)
  | ['f', 'a', 'l', 's', 'e'] => some (.boolean false)
  | _ =>
      match integer? chars with
      | some value => some (.integer value)
      | none =>
          if isFloat chars then some .float
          else if isMoment chars then some .moment
          else none

end ScenarioGraph.Toml
