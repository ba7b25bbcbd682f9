/-
# ScenarioGraph.Json.Reader -- reading JSON text

`read` turns a text into a value or says what is wrong and where.  Each reader
takes a cursor and returns its result with the cursor after it, which has
strictly fewer characters left (`Further`); that is what makes the recursion
end.  At most 127 arrays and objects may be open at one time.

Numbers are read in 64-bit steps: digits are collected while they fit an
unsigned 64-bit integer; integer digits beyond that only raise the decimal
exponent, fraction digits beyond it are dropped.  A double is the collected
integer, rounded, times or divided by a rounded power of ten.
-/
import ScenarioGraph.Json.Value
import ScenarioGraph.Json.Cursor

namespace ScenarioGraph.Json

set_option autoImplicit false

/-! ## Errors -/

inductive Fault where
  | endInValue | endInString | endInList | endInObject
  | expectedValue | expectedWord | expectedColon | expectedListComma | expectedObjectComma
  | keyNotString | trailingComma | trailingCharacters
  | invalidNumber | numberOutOfRange
  | invalidEscape | endOfHexEscape | loneSurrogate | controlCharacter
  | tooDeep
deriving DecidableEq

def Fault.message : Fault → String
  | .endInValue => "EOF while parsing a value"
  | .endInString => "EOF while parsing a string"
  | .endInList => "EOF while parsing a list"
  | .endInObject => "EOF while parsing an object"
  | .expectedValue => "expected value"
  | .expectedWord => "expected ident"
  | .expectedColon => "expected `:`"
  | .expectedListComma => "expected `,` or `]`"
  | .expectedObjectComma => "expected `,` or `\x7d`"
  | .keyNotString => "key must be a string"
  | .trailingComma => "trailing comma"
  | .trailingCharacters => "trailing characters"
  | .invalidNumber => "invalid number"
  | .numberOutOfRange => "number out of range"
  | .invalidEscape => "invalid escape"
  | .endOfHexEscape => "unexpected end of hex escape"
  | .loneSurrogate => "lone leading surrogate in hex escape"
  | .controlCharacter => "control character (\\u0000-\\u001F) found while parsing a string"
  | .tooDeep => "recursion limit exceeded"

structure ReadError where
  fault : Fault
  position : Position
deriving DecidableEq

def ReadError.message (e : ReadError) : String :=
  e.fault.message ++ " at line " ++ toString e.position.line ++ " column "
    ++ toString e.position.column

/-- A result read at the cursor `c`, with a cursor further on. -/
structure Further (c : Cursor) (α : Type) where
  result : α
  next : Cursor
  shorter : next.rest.length < c.rest.length

/-- A result read at the cursor `c` that may have taken nothing. -/
structure Onward (c : Cursor) (α : Type) where
  result : α
  next : Cursor
  notLonger : next.rest.length ≤ c.rest.length

abbrev Attempt (α : Type) : Type := Except ReadError α

/-! ## Words -/

/-- Take the characters of `word` one by one. -/
def word (value : Json) : List Char → (c : Cursor) → Attempt (Onward c Json)
  | [], c => .ok ⟨value, c, Nat.le_refl _⟩
  | expected :: more, c =>
      match c.rest.head? with
      | none => .error ⟨.endInValue, c.position⟩
      | some found =>
          if found = expected then do
            let r ← word value more (c.advance 1)
            .ok ⟨r.result, r.next, Nat.le_trans r.notLonger (c.advance_length_le 1)⟩
          else .error ⟨.expectedWord, c.ahead⟩

/-! ## Numbers -/

/-- The bound of the integers collected while reading digits. -/
def digitLimit : Nat := Nat.pow 2 64

/-- Add digits to `acc` while it stays below `limit`; the digits left over are
the second component. -/
def collect (limit acc : Nat) : List Char → Nat × List Char
  | [] => (acc, [])
  | d :: rest =>
      let next := acc * 10 + (d.toNat - '0'.toNat)
      if next < limit then collect limit next rest else (acc, d :: rest)

/-- Divide by `10 ^ power`, in steps of `10 ^ 308`. -/
def scaleDown (value : Float) (power : Nat) : Float :=
  if power ≤ 308 then value / Float.ofScientific 1 false power
  else if value == 0 then value
  else scaleDown (value / Float.ofScientific 1 false 308) (power - 308)
termination_by power

/-- The double next to `significand * 10 ^ power`, by one rounded operation;
nothing when it is out of range. -/
def scale (significand : Nat) (power : Int) : Option Float :=
  let value := (UInt64.ofNat significand).toFloat
  if power < 0 then some (scaleDown value power.natAbs)
  else if power ≤ 308 then
    let scaled := value * Float.ofScientific 1 false power.natAbs
    if scaled.isInf then none else some scaled
  else if value == 0 then some value else none

def signed (positive : Bool) (value : Float) : Float := if positive then value else -value

/-- The double of a number read up to the position `p`. -/
def toFloat (positive : Bool) (significand : Nat) (power : Int) (p : Position) :
    Attempt Number :=
  match scale significand power with
  | some value => .ok (.float (signed positive value))
  | none => .error ⟨.numberOutOfRange, p⟩

/-- The bound of an exponent while it is read. -/
def exponentLimit : Nat := Nat.pow 2 31

/-- The sign of an exponent, plus if there is none. -/
def exponentSign (c : Cursor) : Onward c Bool :=
  if c.rest.head? = some '+' then ⟨true, c.advance 1, c.advance_length_le 1⟩
  else if c.rest.head? = some '-' then ⟨false, c.advance 1, c.advance_length_le 1⟩
  else ⟨true, c, Nat.le_refl _⟩

/-- The part of a number from its `e` on; `c` stands after the `e`. -/
def exponent (positive : Bool) (significand : Nat) (power : Int) (c : Cursor) :
    Attempt (Onward c Number) :=
  let sign := exponentSign c
  let digits := sign.next.digits
  let last := sign.next.advance digits.length
  have toLast : last.rest.length ≤ c.rest.length :=
    Nat.le_trans (sign.next.advance_length_le _) sign.notLonger
  let (size, beyond) := collect exponentLimit 0 digits
  if sign.next.rest = [] then .error ⟨.endInValue, sign.next.position⟩
  else if digits = [] then .error ⟨.invalidNumber, sign.next.ahead⟩
  else if beyond = [] then do
    let n ← toFloat positive significand (if sign.result then power + size else power - size)
      last.position
    .ok ⟨n, last, toLast⟩
  else if significand ≠ 0 ∧ sign.result then
    let taken := digits.length - beyond.length
    .error ⟨.numberOutOfRange, (sign.next.advance (taken + 1)).position⟩
  else .ok ⟨.float (signed positive 0), last, toLast⟩

def Cursor.atExponent (c : Cursor) : Bool := c.rest.head? = some 'e' || c.rest.head? = some 'E'

/-- What may follow the digits collected so far: an exponent or nothing. -/
def exponentOrEnd (positive : Bool) (significand : Nat) (power : Int) (c : Cursor) :
    Attempt (Onward c Number) :=
  if c.atExponent then do
    let r ← exponent positive significand power (c.advance 1)
    .ok ⟨r.result, r.next, Nat.le_trans r.notLonger (c.advance_length_le 1)⟩
  else do
    let n ← toFloat positive significand power c.position
    .ok ⟨n, c, Nat.le_refl _⟩

/-- The part of a number after its point; `c` stands after the point. -/
def fraction (positive : Bool) (significand : Nat) (power : Int) (c : Cursor) :
    Attempt (Onward c Number) :=
  let digits := c.digits
  if c.rest = [] then .error ⟨.endInValue, c.position⟩
  else if digits = [] then .error ⟨.invalidNumber, c.ahead⟩
  else do
    let (collected, beyond) := collect digitLimit significand digits
    let taken := digits.length - beyond.length
    let r ← exponentOrEnd positive collected (power - taken) (c.advance digits.length)
    .ok ⟨r.result, r.next, Nat.le_trans r.notLonger (c.advance_length_le _)⟩

/-- An integer without point or exponent: negative zero and integers out of
range become doubles. -/
def wholeNumber (positive : Bool) (value : Nat) : Number :=
  if positive then .int value
  else if 0 < value ∧ value ≤ Nat.pow 2 63 then .int (-value)
  else .float (-(UInt64.ofNat value).toFloat)

/-- A number from its first digit on. -/
def number (positive : Bool) (c : Cursor) : Attempt (Further c Number) :=
  let digits := c.digits
  if nonempty : c.rest = [] then .error ⟨.endInValue, c.position⟩
  else if someDigits : digits = [] then .error ⟨.invalidNumber, c.ahead⟩
  else if digits.head? = some '0' ∧ 1 < digits.length then
    .error ⟨.invalidNumber, (c.advance 1).ahead⟩
  else
    let d := c.advance digits.length
    have shorter : d.rest.length < c.rest.length :=
      c.advance_length_lt (List.length_pos_iff.2 someDigits) nonempty
    let (significand, beyond) := collect digitLimit 0 digits
    if d.rest.head? = some '.' then do
      let r ← fraction positive significand beyond.length (d.advance 1)
      .ok ⟨r.result, r.next, Nat.lt_of_le_of_lt (Nat.le_trans r.notLonger (d.advance_length_le 1)) shorter⟩
    else if beyond ≠ [] ∨ d.atExponent then do
      let r ← exponentOrEnd positive significand beyond.length d
      .ok ⟨r.result, r.next, Nat.lt_of_le_of_lt r.notLonger shorter⟩
    else .ok ⟨wholeNumber positive significand, d, shorter⟩

/-! ## Strings -/

def hexValue? (c : Char) : Option Nat :=
  if '0' ≤ c ∧ c ≤ '9' then some (c.toNat - '0'.toNat)
  else if 'a' ≤ c ∧ c ≤ 'f' then some (c.toNat - 'a'.toNat + 10)
  else if 'A' ≤ c ∧ c ≤ 'F' then some (c.toNat - 'A'.toNat + 10)
  else none

/-- Four hexadecimal digits.  With fewer than four bytes left the text ends in a
string; other characters are found out after four bytes. -/
def hexQuad (c : Cursor) : Attempt (Onward c Nat) :=
  match (c.rest.take 4).mapM hexValue? with
  | some [a, b, d, e] =>
      .ok ⟨((a * 16 + b) * 16 + d) * 16 + e, c.advance 4, c.advance_length_le 4⟩
  | _ =>
      if (String.ofList (c.rest.take 4)).utf8ByteSize < 4 then
        .error ⟨.endInString, (c.advance 4).position⟩
      else .error ⟨.invalidEscape, Cursor.afterBytes 4 c.position c.rest⟩

/-- One of the two characters between the halves of a surrogate pair. -/
def pairMark (mark : Char) (c : Cursor) : Attempt (Onward c Unit) :=
  match c.rest.head? with
  | none => .error ⟨.endInString, c.position⟩
  | some found =>
      if found = mark then .ok ⟨(), c.advance 1, c.advance_length_le 1⟩
      else .error ⟨.endOfHexEscape, c.ahead⟩

/-- The character of a `\u` escape; `c` stands after the `u`.  A code point
above `FFFF` is written as a leading and a trailing surrogate. -/
def unicodeEscape (c : Cursor) : Attempt (Onward c Char) := do
  let lead ← hexQuad c
  if 0xDC00 ≤ lead.result ∧ lead.result ≤ 0xDFFF then .error ⟨.loneSurrogate, lead.next.position⟩
  else if lead.result < 0xD800 ∨ 0xDBFF < lead.result then
    .ok ⟨Char.ofNat lead.result, lead.next, lead.notLonger⟩
  else
    let slash ← pairMark '\\' lead.next
    let letter ← pairMark 'u' slash.next
    let trail ← hexQuad letter.next
    if trail.result < 0xDC00 ∨ 0xDFFF < trail.result then
      .error ⟨.loneSurrogate, trail.next.position⟩
    else
      .ok ⟨Char.ofNat (0x10000 + (lead.result - 0xD800) * 0x400 + (trail.result - 0xDC00)), trail.next,
        Nat.le_trans trail.notLonger
          (Nat.le_trans letter.notLonger (Nat.le_trans slash.notLonger lead.notLonger))⟩

/-- What a letter stands for after a backslash. -/
def letterEscape? : Char → Option Char
  | '"' => some '"'
  | '\\' => some '\\'
  | '/' => some '/'
  | 'b' => some '\x08'
  | 'f' => some '\x0c'
  | 'n' => some '\n'
  | 'r' => some '\r'
  | 't' => some '\t'
  | _ => none

/-- The character of an escape; `c` stands after the backslash. -/
def escape (c : Cursor) : Attempt (Onward c Char) :=
  match c.rest.head? with
  | none => .error ⟨.endInString, c.position⟩
  | some 'u' => do
      let r ← unicodeEscape (c.advance 1)
      .ok ⟨r.result, r.next, Nat.le_trans r.notLonger (c.advance_length_le 1)⟩
  | some letter =>
      match letterEscape? letter with
      | some found => .ok ⟨found, c.advance 1, c.advance_length_le 1⟩
      | none => .error ⟨.invalidEscape, c.ahead⟩

/-- The rest of a string up to its closing quote; `before` holds the characters
read so far, last one first. -/
def stringRest (before : List Char) (c : Cursor) : Attempt (Further c String) :=
  match h : c.rest.head? with
  | none => .error ⟨.endInString, c.position⟩
  | some found =>
      have shorter : (c.advance 1).rest.length < c.rest.length :=
        c.advance_length_lt Nat.one_pos fun none_ => by simp [none_] at h
      if found = '"' then .ok ⟨String.ofList before.reverse, c.advance 1, shorter⟩
      else if found = '\\' then do
        let r ← escape (c.advance 1)
        have toNext := Nat.lt_of_le_of_lt r.notLonger shorter
        let text ← stringRest (r.result :: before) r.next
        .ok ⟨text.result, text.next, Nat.lt_trans text.shorter toNext⟩
      else if found.toNat < 32 then .error ⟨.controlCharacter, c.ahead⟩
      else do
        let text ← stringRest (found :: before) (c.advance 1)
        .ok ⟨text.result, text.next, Nat.lt_trans text.shorter shorter⟩
termination_by c.rest.length

/-- A string from its opening quote on. -/
def string (c : Cursor) : Attempt (Further c String) := do
  let text ← stringRest [] (c.advance 1)
  .ok ⟨text.result, text.next, Nat.lt_of_lt_of_le text.shorter (c.advance_length_le 1)⟩

/-! ## Values -/

/-- Blanks and the character after them; `after` has taken both. -/
structure Peek (c : Cursor) where
  first : Char
  here : Cursor
  notLonger : here.rest.length ≤ c.rest.length
  after : Cursor
  shorter : after.rest.length < c.rest.length

/-- Look past blanks for a character; without one the text ends with `fault`. -/
def peek (fault : Fault) (c : Cursor) : Attempt (Peek c) :=
  let here := c.skipBlanks
  match h : here.rest.head? with
  | none => .error ⟨fault, here.position⟩
  | some first =>
      .ok ⟨first, here, c.skipBlanks_length_le, here.advance 1,
        Nat.lt_of_lt_of_le (here.advance_length_lt Nat.one_pos fun none_ => by simp [none_] at h)
          c.skipBlanks_length_le⟩

/-- The colon between a key and its value. -/
def colon (c : Cursor) : Attempt (Further c Unit) := do
  let p ← peek .endInObject c
  if p.first = ':' then .ok ⟨(), p.after, p.shorter⟩ else .error ⟨.expectedColon, p.here.ahead⟩

mutual

/-- A value, after blanks; `depth` more arrays and objects may be opened. -/
def value (depth : Nat) (c : Cursor) : Attempt (Further c Json) := do
  let p ← peek .endInValue c
  have := p.shorter
  let wordFrom (found : Json) (rest : List Char) : Attempt (Further c Json) := do
    let r ← word found rest p.after
    .ok ⟨r.result, r.next, Nat.lt_of_le_of_lt r.notLonger p.shorter⟩
  match p.first with
  | 'n' => wordFrom .null ['u', 'l', 'l']
  | 't' => wordFrom (.bool true) ['r', 'u', 'e']
  | 'f' => wordFrom (.bool false) ['a', 'l', 's', 'e']
  | '-' =>
      let r ← number false p.after
      .ok ⟨.num r.result, r.next, Nat.lt_trans r.shorter p.shorter⟩
  | '"' =>
      let r ← string p.here
      .ok ⟨.str r.result, r.next, Nat.lt_of_lt_of_le r.shorter p.notLonger⟩
  | '[' =>
      if 0 < depth then
        let r ← items (depth - 1) p.after
        .ok ⟨.arr r.result, r.next, Nat.lt_trans r.shorter p.shorter⟩
      else .error ⟨.tooDeep, p.here.ahead⟩
  | '\x7b' =>
      if 0 < depth then
        let r ← fields (depth - 1) p.after
        .ok ⟨.obj r.result, r.next, Nat.lt_trans r.shorter p.shorter⟩
      else .error ⟨.tooDeep, p.here.ahead⟩
  | first =>
      if first.isDigit then
        let r ← number true p.here
        .ok ⟨.num r.result, r.next, Nat.lt_of_lt_of_le r.shorter p.notLonger⟩
      else .error ⟨.expectedValue, p.here.ahead⟩
termination_by 2 * c.rest.length

/-- The items of an array from after its bracket on. -/
def items (depth : Nat) (c : Cursor) : Attempt (Further c (List Json)) := do
  let p ← peek .endInList c
  if p.first = ']' then .ok ⟨[], p.after, p.shorter⟩
  else
    have _ := p.notLonger
    let item ← value depth p.here
    have toNext := Nat.lt_of_lt_of_le item.shorter p.notLonger
    let more ← moreItems depth item.next
    .ok ⟨item.result :: more.result, more.next, Nat.lt_trans more.shorter toNext⟩
termination_by 2 * c.rest.length + 1

/-- The rest of an array after one of its items. -/
def moreItems (depth : Nat) (c : Cursor) : Attempt (Further c (List Json)) := do
  let p ← peek .endInList c
  match p.first with
  | ']' => .ok ⟨[], p.after, p.shorter⟩
  | ',' =>
      let q ← peek .endInValue p.after
      if q.first = ']' then .error ⟨.trailingComma, q.here.ahead⟩
      else
        have toHere := Nat.lt_of_le_of_lt q.notLonger p.shorter
        let item ← value depth q.here
        have toNext := Nat.lt_trans item.shorter toHere
        let more ← moreItems depth item.next
        .ok ⟨item.result :: more.result, more.next, Nat.lt_trans more.shorter toNext⟩
  | _ => .error ⟨.expectedListComma, p.here.ahead⟩
termination_by 2 * c.rest.length + 1

/-- One field of an object, from the quote of its key on. -/
def field (depth : Nat) (c : Cursor) : Attempt (Further c (String × Json)) := do
  let key ← string c
  let mark ← colon key.next
  have toMark := Nat.lt_trans mark.shorter key.shorter
  let found ← value depth mark.next
  .ok ⟨(key.result, found.result), found.next, Nat.lt_trans found.shorter toMark⟩
termination_by 2 * c.rest.length

/-- The fields of an object from after its brace on. -/
def fields (depth : Nat) (c : Cursor) : Attempt (Further c (List (String × Json))) := do
  let p ← peek .endInObject c
  match p.first with
  | '\x7d' => .ok ⟨[], p.after, p.shorter⟩
  | '"' =>
      have _ := p.notLonger
      let first ← field depth p.here
      have toNext := Nat.lt_of_lt_of_le first.shorter p.notLonger
      let more ← moreFields depth [first.result] first.next
      .ok ⟨more.result, more.next, Nat.lt_trans more.shorter toNext⟩
  | _ => .error ⟨.keyNotString, p.here.ahead⟩
termination_by 2 * c.rest.length + 1

/-- The rest of an object after some of its fields, which are in key order. -/
def moreFields (depth : Nat) (before : List (String × Json)) (c : Cursor) :
    Attempt (Further c (List (String × Json))) := do
  let p ← peek .endInObject c
  match p.first with
  | '\x7d' => .ok ⟨before, p.after, p.shorter⟩
  | ',' =>
      let q ← peek .endInValue p.after
      match q.first with
      | '\x7d' => .error ⟨.trailingComma, q.here.ahead⟩
      | '"' =>
          have toHere := Nat.lt_of_le_of_lt q.notLonger p.shorter
          let next ← field depth q.here
          have toNext := Nat.lt_trans next.shorter toHere
          let all ← moreFields depth (setField next.result.1 next.result.2 before) next.next
          .ok ⟨all.result, all.next, Nat.lt_trans all.shorter toNext⟩
      | _ => .error ⟨.keyNotString, q.here.ahead⟩
  | _ => .error ⟨.expectedObjectComma, p.here.ahead⟩
termination_by 2 * c.rest.length + 1

end

/-- How many arrays and objects may be open at one time. -/
def depthLimit : Nat := 127

/-- The value that a text holds, with nothing but blanks around it. -/
def read (text : String) : Attempt Json := do
  let found ← value depthLimit (Cursor.ofString text)
  let rest := found.next.skipBlanks
  if rest.rest = [] then .ok found.result else .error ⟨.trailingCharacters, rest.ahead⟩

end ScenarioGraph.Json
