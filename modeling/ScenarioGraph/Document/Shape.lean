/-
# ScenarioGraph.Document.Shape -- values that have not the shape wanted

`ShapeError` says what was found in a JSON value and what was wanted in its
place.  The small readers below are the leaves of all typed readers; `required`
and `noMore` are shared by those that read an object by its keys or an array by
its places.
-/
import ScenarioGraph.Json.Printer
import ScenarioGraph.Text.Quoted
import ScenarioGraph.Name

namespace ScenarioGraph

set_option autoImplicit false

namespace Shape

/-! ## Errors -/

/-- What a value turns out to be. -/
inductive Found where
  | null
  | bool (value : Bool)
  | integer (value : Int)
  | float (value : Float)
  | text (value : String)
  | sequence
  | map
deriving DecidableEq

def Found.of : Json → Found
  | .null => .null
  | .bool value => .bool value
  | .num (.int value) => .integer value
  | .num (.float value) => .float value
  | .str value => .text value
  | .arr _ => .sequence
  | .obj _ => .map

def Found.text_ : Found → String
  | null => "null"
  | bool value => if value then "boolean `true`" else "boolean `false`"
  | integer value => "integer `" ++ toString value ++ "`"
  | float value => "floating point `" ++ Json.floatText value ++ "`"
  | text value => "string " ++ Text.quoted value
  | sequence => "sequence"
  | map => "map"

/-- What is wanted in a place. -/
inductive Wanted where
  | text
  | sequence
  | guard
  | condition
  /-- The operator of a condition. -/
  | operator
  | record (name : String)
deriving DecidableEq

def Wanted.text_ : Wanted → String
  | text => "a string"
  | sequence => "a sequence"
  | guard => "string or map"
  | condition => "internally tagged enum Condition"
  | operator => "variant identifier"
  | record name => "struct " ++ name

/-- What an array of fields stands for. -/
inductive Fields where
  /-- An entry of a document, with the number of its fields. -/
  | record (name : String) (count : Nat)
  /-- An operator with its operands. -/
  | operands (name : String) (count : Nat)
deriving DecidableEq

/-- A count of elements in words. -/
def elements (count : Nat) : String :=
  toString count ++ (if count = 1 then " element" else " elements")

def Fields.count : Fields → Nat
  | record _ count => count
  | operands _ count => count

def Fields.text_ : Fields → String
  | record name count => "struct " ++ name ++ " with " ++ elements count
  | operands name count => "struct variant Condition::" ++ name ++ " with " ++ elements count

end Shape

inductive ShapeError where
  | wrongType (found : Shape.Found) (wanted : Shape.Wanted)
  /-- The number of no operator; there are `count` of them. -/
  | wrongIndex (index count : Nat)
  | missingField (name : String)
  /-- A name that is none of the known ones. -/
  | unknownName (name : String) (known : List String)
  /-- An object in place of a guard that has not exactly one key. -/
  | notOneKey
  /-- The name of a guard's kind without the guard. -/
  | bareName
  | tooShort (length : Nat) (fields : Shape.Fields)
  | tooLong (length : Nat) (fields : Shape.Fields)
deriving DecidableEq

namespace ShapeError

def alternatives (known : List String) : String :=
  let marked := known.map fun name => "`" ++ name ++ "`"
  match marked with
  | [first, second] => first ++ " or " ++ second
  | _ => "one of " ++ ", ".intercalate marked

def message : ShapeError → String
  | wrongType found wanted => "invalid type: " ++ found.text_ ++ ", expected " ++ wanted.text_
  | wrongIndex index count =>
      "invalid value: integer `" ++ toString index ++ "`, expected variant index 0 <= i < "
        ++ toString count
  | missingField name => "missing field `" ++ name ++ "`"
  | unknownName name known => "unknown variant `" ++ name ++ "`, expected " ++ alternatives known
  | notOneKey => "invalid value: map, expected map with a single key"
  | bareName => "invalid type: unit variant, expected newtype variant"
  | tooShort length fields => "invalid length " ++ toString length ++ ", expected " ++ fields.text_
  | tooLong length (.record ..) =>
      "invalid length " ++ toString length ++ ", expected fewer elements in array"
  | tooLong length (.operands _ count) =>
      "invalid length " ++ toString length ++ ", expected " ++ Shape.elements count ++ " in sequence"

end ShapeError

namespace Shape

/-! ## Leaves of typed readers -/

def wrong {α : Type} (json : Json) (wanted : Wanted) : Except ShapeError α :=
  .error (.wrongType (Found.of json) wanted)

def readText : Json → Except ShapeError String
  | .str text => .ok text
  | other => wrong other .text

def readList {α : Type} (read : Json → Except ShapeError α) : Json → Except ShapeError (List α)
  | .arr items => items.mapM read
  | other => wrong other .sequence

def readTexts (json : Json) : Except ShapeError (List String) := readList readText json

/-- `null` stands for an absent value. -/
def readOption {α : Type} (read : Json → Except ShapeError α) : Json → Except ShapeError (Option α)
  | .null => .ok none
  | other => some <$> read other

/-- Read a value that may not be there. -/
def readIfAny {α : Type} (read : Json → Except ShapeError α) :
    Option Json → Except ShapeError (Option α)
  | none => .ok none
  | some json => some <$> read json

/-- A value that must be there: the field `key`, or in an array the one at `place`. -/
def required {α : Type} (json : Json) (key : String) (place : Nat) (fields : Fields) :
    Option α → Except ShapeError α
  | some value => .ok value
  | none =>
      match json with
      | .arr _ => .error (.tooShort place fields)
      | _ => .error (.missingField key)

/-- An array of fields has no items beyond them; `taken` items come before. -/
def noMore (json : Json) (taken : Nat) (fields : Fields) : Except ShapeError Unit :=
  match json with
  | .arr items =>
      if items.length ≤ taken + fields.count then .ok ()
      else .error (.tooLong (items.length - taken) fields)
  | _ => .ok ()

end Shape

end ScenarioGraph
