/-
# ScenarioGraph.Json.Printer -- writing JSON values

`compact` writes a value on one line without blanks, `pretty` with two blanks a
level and one field or item a line; empty arrays and objects have nothing between
their brackets in both.  Fields are written in the order of the value, which readers keep as
the key order.
-/
import ScenarioGraph.Json.Value
import ScenarioGraph.Decimal.Shortest

namespace ScenarioGraph.Json

set_option autoImplicit false

/-! ## Scalars -/

/-- Control characters that have an escape of one letter. -/
def shortEscape? : Char → Option String
  | '"' => some "\\\""
  | '\\' => some "\\\\"
  | '\x08' => some "\\b"
  | '\x0c' => some "\\f"
  | '\n' => some "\\n"
  | '\r' => some "\\r"
  | '\t' => some "\\t"
  | _ => none

def hexDigits (width n : Nat) : String :=
  let digits := Nat.toDigits 16 n
  String.ofList (List.replicate (width - digits.length) '0' ++ digits)

/-- Quotes, backslashes and control characters are escaped, all else is kept. -/
def escapeChar (c : Char) : String :=
  match shortEscape? c with
  | some text => text
  | none => if c.toNat < 32 then "\\u" ++ hexDigits 4 c.toNat else c.toString

def quote (text : String) : String :=
  "\"" ++ String.join (text.toList.map escapeChar) ++ "\""

/-- Doubles are positional from `1e-5` up to below `1e16` and keep a point
there; other exponents have a sign. -/
def floatLayout : Decimal.Layout :=
  { leastPositional := -5, greatestPositional := 15, plusSign := "+" }

def floatText (value : Float) : String := floatLayout.text value

def Number.text : Number → String
  | .int n => toString n
  | .float value => floatText value

/-! ## Values on one line -/

mutual

def compact : Json → String
  | .null => "null"
  | .bool value => if value then "true" else "false"
  | .num value => value.text
  | .str text => quote text
  | .arr items => "[" ++ ",".intercalate (compactItems items) ++ "]"
  | .obj fields => "\x7b" ++ ",".intercalate (compactFields fields) ++ "\x7d"

def compactItems : List Json → List String
  | [] => []
  | item :: rest => compact item :: compactItems rest

def compactFields : List (String × Json) → List String
  | [] => []
  | (key, value) :: rest => (quote key ++ ":" ++ compact value) :: compactFields rest

end

/-! ## Values on many lines -/

/-- Lines between an opening and a closing bracket, one level further in. -/
def bracketed (opening closing : String) (depth : Nat) (lines : List String) : String :=
  if lines.isEmpty then opening ++ closing
  else
    let margin := String.ofList (List.replicate (2 * depth) ' ')
    let inner := lines.map fun line => "\n" ++ margin ++ "  " ++ line
    opening ++ ",".intercalate inner ++ "\n" ++ margin ++ closing

mutual

/-- The text of a value that stands `depth` levels in. -/
def prettyAt (depth : Nat) : Json → String
  | .arr items => bracketed "[" "]" depth (prettyItems (depth + 1) items)
  | .obj fields => bracketed "\x7b" "\x7d" depth (prettyFields (depth + 1) fields)
  | .null => "null"
  | .bool value => if value then "true" else "false"
  | .num value => value.text
  | .str text => quote text

def prettyItems (depth : Nat) : List Json → List String
  | [] => []
  | item :: rest => prettyAt depth item :: prettyItems depth rest

def prettyFields (depth : Nat) : List (String × Json) → List String
  | [] => []
  | (key, value) :: rest => (quote key ++ ": " ++ prettyAt depth value) :: prettyFields depth rest

end

def pretty (value : Json) : String := prettyAt 0 value

end ScenarioGraph.Json
