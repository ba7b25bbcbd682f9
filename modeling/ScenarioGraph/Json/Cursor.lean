/-
# ScenarioGraph.Json.Cursor -- a place in a text

A cursor is the rest of a text with the position reached: the line, counted from
one, and the bytes read in that line.  An error is reported either at the
position reached or one byte further, when the offending character was looked at
but not taken (`Cursor.ahead`).
-/

namespace ScenarioGraph.Json

set_option autoImplicit false

/-- A line, from one, and the number of bytes read in it. -/
structure Position where
  line : Nat
  column : Nat
deriving DecidableEq

namespace Position

def start : Position := ⟨1, 0⟩

def after (p : Position) (c : Char) : Position :=
  if c = '\n' then ⟨p.line + 1, 0⟩ else ⟨p.line, p.column + c.utf8Size⟩

/-- The position after the first byte of `c`. -/
def afterByte (p : Position) (c : Char) : Position :=
  if c = '\n' then ⟨p.line + 1, 0⟩ else ⟨p.line, p.column + 1⟩

end Position

structure Cursor where
  rest : List Char
  position : Position

namespace Cursor

def ofString (text : String) : Cursor := ⟨text.toList, Position.start⟩

/-- The cursor after `n` more characters. -/
def advance (c : Cursor) (n : Nat) : Cursor :=
  ⟨c.rest.drop n, (c.rest.take n).foldl Position.after c.position⟩

/-- One byte further, or here at the end of the text. -/
def ahead (c : Cursor) : Position :=
  match c.rest with
  | [] => c.position
  | next :: _ => c.position.afterByte next

/-- The position `n` bytes further, which may lie inside a character. -/
def afterBytes (n : Nat) (p : Position) : List Char → Position
  | [] => p
  | c :: rest =>
      if n = 0 then p
      else if c.utf8Size ≤ n then afterBytes (n - c.utf8Size) (p.after c) rest
      else ⟨p.line, p.column + n⟩

def isBlank (c : Char) : Bool := c = ' ' || c = '\n' || c = '\t' || c = '\r'

def skipBlanks (c : Cursor) : Cursor := c.advance (c.rest.takeWhile isBlank).length

/-- The run of decimal digits at the cursor. -/
def digits (c : Cursor) : List Char := c.rest.takeWhile Char.isDigit

theorem advance_length (c : Cursor) (n : Nat) :
    (c.advance n).rest.length = c.rest.length - n := by
  simp [advance]

theorem advance_length_le (c : Cursor) (n : Nat) : (c.advance n).rest.length ≤ c.rest.length := by
  rw [advance_length]
  omega

theorem skipBlanks_length_le (c : Cursor) : c.skipBlanks.rest.length ≤ c.rest.length :=
  c.advance_length_le _

/-- Taking characters that are there leaves fewer. -/
theorem advance_length_lt (c : Cursor) {n : Nat} (positive : 0 < n) (some_ : c.rest ≠ []) :
    (c.advance n).rest.length < c.rest.length := by
  rw [advance_length]
  have := List.length_pos_iff.2 some_
  omega

end Cursor

end ScenarioGraph.Json
