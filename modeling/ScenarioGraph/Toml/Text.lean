/-
# ScenarioGraph.Toml.Text -- texts between quotes

Quotes are single or double, and one or three.  Between double quotes a
backslash starts an escape; between three quotes lines may end.  Each reader
starts after the opening quotes.
-/
import ScenarioGraph.Text.Digit
import ScenarioGraph.Text.Scan

namespace ScenarioGraph.Toml

set_option autoImplicit false

open Text

/-! ## Characters -/

/-- Blanks of a line. -/
def isBlank (c : Char) : Bool := c = ' ' || c = '\t'

/-- Characters that may stand in a line: no control characters besides the tab. -/
def isPlain (c : Char) : Bool := c = '\t' || (' ' ≤ c && c ≠ '\x7f')

/-- A line end at the front, and what follows it. -/
def lineEnd? (chars : List Char) : Option (Taken chars Unit) :=
  match chars with
  | '\n' :: rest => some ⟨(), rest, Nat.lt_succ_self _⟩
  | '\r' :: '\n' :: rest => some ⟨(), rest, Nat.lt_succ_of_le (Nat.le_succ _)⟩
  | _ => none

/-! ## Escapes -/

/-- A character given by its number in `width` hexadecimal digits. -/
def numbered? (width : Nat) (chars : List Char) : Option (Char × Rest chars) := do
  guard ((chars.take width).length = width)
  let number ← ofDigits? 16 (chars.take width)
  guard number.isValidChar
  some (Char.ofNat number, ⟨chars.drop width, by simp⟩)

/-- What a letter stands for after a backslash. -/
def escapeLetter? : Char → Option Char
  | 'b' => some '\x08'
  | 't' => some '\t'
  | 'n' => some '\n'
  | 'f' => some '\x0c'
  | 'r' => some '\r'
  | '"' => some '"'
  | '\\' => some '\\'
  | _ => none

/-- The character of an escape, from after its backslash on. -/
def escape? (chars : List Char) : Option (Taken chars Char) :=
  match chars with
  | [] => none
  | 'u' :: rest => do
      let (c, more) ← numbered? 4 rest
      some ⟨c, more.1, Nat.lt_succ_of_le more.2⟩
  | 'U' :: rest => do
      let (c, more) ← numbered? 8 rest
      some ⟨c, more.1, Nat.lt_succ_of_le more.2⟩
  | letter :: rest => do
      let c ← escapeLetter? letter
      some ⟨c, rest, Nat.lt_succ_self _⟩

/-! ## One quote -/

/-- A text up to its double quote; `before` holds its characters so far, last one first. -/
def quotedRest (before : List Char) (chars : List Char) : Option (Taken chars String) :=
  match chars with
  | [] => none
  | '"' :: rest => some ⟨String.ofList before.reverse, rest, Nat.lt_succ_self _⟩
  | '\\' :: rest => do
      let found ← escape? rest
      have := found.shorter
      let text ← quotedRest (found.result :: before) found.rest
      some (text.widen (Nat.le_succ_of_le (Nat.le_of_lt found.shorter)))
  | c :: rest =>
      if isPlain c then do
        let text ← quotedRest (c :: before) rest
        some text.afterFirst
      else none
termination_by chars.length

/-- A text up to its single quote, without escapes. -/
def literalRest (chars : List Char) : Option (Taken chars String) :=
  let text := chars.takeWhile fun c => isPlain c && c ≠ '\''
  match h : chars.drop text.length with
  | '\'' :: rest =>
      some ⟨String.ofList text, rest, by
        have size := congrArg List.length h
        simp only [List.length_drop, List.length_cons] at size
        omega⟩
  | _ => none

/-! ## Three quotes -/

/-- The end of a text at a run of quotes: three of them close it, and up to two more
before these belong to it. -/
def closing? (quote : Char) (before : List Char) (chars : List Char) :
    Option (Taken chars String) :=
  let count := min 5 (chars.takeWhile (· = quote)).length
  if h : 3 ≤ count then
    some ⟨String.ofList (before.reverse ++ List.replicate (count - 3) quote), chars.drop count, by
      have bound := (List.takeWhile_prefix (· = quote) (l := chars)).length_le
      simp only [List.length_drop]
      omega⟩
  else none

/-- A text of several lines up to its quotes.  With `escapes`, a backslash at the end of
a line leaves out the line end and all blanks and line ends after it; `skipping` says
that this is being done. -/
def linesRest (quote : Char) (escapes skipping : Bool) (before : List Char) (chars : List Char) :
    Option (Taken chars String) :=
  match chars with
  | [] => none
  | c :: rest =>
      match lineEnd? (c :: rest) with
      | some ends => do
          have := Nat.le_of_lt_succ ends.shorter
          let text ← linesRest quote escapes skipping
            (if skipping then before else '\n' :: before) ends.rest
          some (text.widen ends.left.2)
      | none =>
          if skipping ∧ isBlank c then do
            let text ← linesRest quote escapes true before rest
            some text.afterFirst
          else if c = quote then
            match closing? quote before (c :: rest) with
            | some text => some text
            | none => do
                let text ← linesRest quote escapes false (c :: before) rest
                some text.afterFirst
          else if c = '\\' ∧ escapes then
            let margin := skip isBlank rest
            match lineEnd? margin.1 with
            | some ends => do
                have toEnds : ends.rest.length ≤ rest.length :=
                  Nat.le_of_lt (Nat.lt_of_lt_of_le ends.shorter margin.2)
                let text ← linesRest quote escapes true before ends.rest
                some (text.widen (Nat.le_succ_of_le toEnds))
            | none => do
                let found ← escape? rest
                have := found.shorter
                let text ← linesRest quote escapes false (found.result :: before) found.rest
                some (text.widen (Nat.le_succ_of_le (Nat.le_of_lt found.shorter)))
          else if isPlain c then do
            let text ← linesRest quote escapes false (c :: before) rest
            some text.afterFirst
          else none
termination_by chars.length

/-- Several lines from after the opening quotes on; a line end right there is left out. -/
def lines (quote : Char) (chars : List Char) : Option (Taken chars String) :=
  match lineEnd? chars with
  | some ends => do
      let text ← linesRest quote (quote = '"') false [] ends.rest
      some (text.widen ends.left.2)
  | none => linesRest quote (quote = '"') false [] chars

/-! ## Texts with their opening quotes -/

/-- A text of one line, between one pair of quotes. -/
def line? (chars : List Char) : Option (Taken chars String) :=
  match chars with
  | '"' :: rest => (quotedRest [] rest).map Taken.afterFirst
  | '\'' :: rest => (literalRest rest).map Taken.afterFirst
  | _ => none

/-- A text of any kind. -/
def text? (chars : List Char) : Option (Taken chars String) :=
  match chars with
  | '"' :: '"' :: '"' :: rest =>
      (lines '"' rest).map fun text => text.afterFirst.afterFirst.afterFirst
  | '\'' :: '\'' :: '\'' :: rest =>
      (lines '\'' rest).map fun text => text.afterFirst.afterFirst.afterFirst
  | chars => line? chars

end ScenarioGraph.Toml
