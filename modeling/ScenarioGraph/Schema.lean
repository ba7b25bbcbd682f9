/-
# ScenarioGraph.Schema -- rules on JSON values and their violations

A rule gives the list of its violations at a value; a value is valid when the
list is empty.  Rules on one kind of value say nothing about values of another
kind, so a value of the wrong kind breaks `ofKind` alone.  Rules are joined by
appending their lists: all violations at all places are reported.  `oneOf` is the
exception: it looks only at which of its alternatives are free of violations.
-/
import ScenarioGraph.Json.Equality
import ScenarioGraph.Json.Printer

namespace ScenarioGraph.Schema

set_option autoImplicit false

/-! ## Violations -/

inductive Kind where
  | object
  | array
  | text
deriving DecidableEq

def Kind.name : Kind → String
  | object => "object"
  | array => "array"
  | text => "string"

inductive Violation where
  | wrongKind (value : Json) (wanted : Kind)
  /-- The value is not the one wanted. -/
  | notEqual (wanted : Json)
  /-- The value is none of those wanted. -/
  | notAmong (value : Json) (wanted : List Json)
  | missingField (name : String)
  | unknownFields (names : List String)
  | shortText (text : String) (least : Nat)
  | fewItems (items : List Json) (least : Nat)
  | equalItems (items : List Json)
  /-- The value has violations in all alternatives. -/
  | noAlternative (value : Json)
  /-- Several alternatives are free of violations. -/
  | severalAlternatives (value : Json)

namespace Violation

/-- A count with its noun. -/
def counted (count : Nat) (noun : String) : String :=
  toString count ++ " " ++ noun ++ (if count = 1 then "" else "s")

def message : Violation → String
  | wrongKind value wanted => value.compact ++ " is not of type \"" ++ wanted.name ++ "\""
  | notEqual wanted => wanted.compact ++ " was expected"
  | notAmong value wanted =>
      value.compact ++ " is not one of " ++ " or ".intercalate (wanted.map Json.compact)
  | missingField name => Json.quote name ++ " is a required property"
  | unknownFields names =>
      "Additional properties are not allowed ("
        ++ ", ".intercalate (names.map fun name => "'" ++ name ++ "'")
        ++ (if names.length = 1 then " was unexpected)" else " were unexpected)")
  | shortText text least =>
      Json.quote text ++ " is shorter than " ++ counted least "character"
  | fewItems items least =>
      (Json.arr items).compact ++ " has less than " ++ counted least "item"
  | equalItems items => (Json.arr items).compact ++ " has non-unique elements"
  | noAlternative value =>
      value.compact ++ " is not valid under any of the schemas listed in the 'oneOf' keyword"
  | severalAlternatives value =>
      value.compact ++ " is valid under more than one of the schemas listed in the 'oneOf' keyword"

end Violation

/-! ## Rules on any value -/

def Kind.fits : Kind → Json → Bool
  | object, .obj _ => true
  | array, .arr _ => true
  | text, .str _ => true
  | _, _ => false

def ofKind (wanted : Kind) (json : Json) : List Violation :=
  if wanted.fits json then [] else [.wrongKind json wanted]

def equalTo (wanted json : Json) : List Violation :=
  if json.equals wanted then [] else [.notEqual wanted]

def among (wanted : List Json) (json : Json) : List Violation :=
  if wanted.any json.equals then [] else [.notAmong json wanted]

/-- Exactly one of the alternatives, given by their violations at `json`, has none. -/
def oneOf (json : Json) (alternatives : List (List Violation)) : List Violation :=
  match alternatives.countP List.isEmpty with
  | 0 => [.noAlternative json]
  | 1 => []
  | _ => [.severalAlternatives json]

/-! ## Rules on texts and arrays -/

/-- Lengths are counted in characters. -/
def minLength (least : Nat) : Json → List Violation
  | .str text => if least ≤ text.length then [] else [.shortText text least]
  | _ => []

def minItems (least : Nat) : Json → List Violation
  | .arr items => if least ≤ items.length then [] else [.fewItems items least]
  | _ => []

def distinctItems : Json → List Violation
  | .arr items => if items.Pairwise (fun a b => ¬ a.equals b) then [] else [.equalItems items]
  | _ => []

/-- A rule on every item of an array. -/
def eachItem (rule : Json → List Violation) : Json → List Violation
  | .arr items => items.flatMap rule
  | _ => []

/-! ## Rules on objects -/

def required (names : List String) (json : Json) : List Violation :=
  match json with
  | .obj fields => (names.filter fun name => (fields.lookup name).isNone).map .missingField
  | _ => []

def onlyFields (known : List String) : Json → List Violation
  | .obj fields =>
      match (fields.map (·.1)).filter (· ∉ known) with
      | [] => []
      | names => [.unknownFields names]
  | _ => []

/-- A rule on the field `name`, if the object has it. -/
def inField (json : Json) (name : String) (rule : json.Part → List Violation) : List Violation :=
  match json.field? name with
  | some part => rule part
  | none => []

/-- An object has all the fields `needed`, none besides those of `rules`, and
each keeps its rule. -/
def record (json : Json) (needed : List String)
    (rules : List (String × (json.Part → List Violation))) : List Violation :=
  required needed json ++ onlyFields (rules.map (·.1)) json
    ++ rules.flatMap fun (name, rule) => inField json name rule

/-! ## When a rule is kept -/

@[simp]
theorem ofKind_eq_nil {wanted : Kind} {json : Json} :
    ofKind wanted json = [] ↔ wanted.fits json = true := by
  simp [ofKind]

@[simp]
theorem equalTo_eq_nil {wanted json : Json} :
    equalTo wanted json = [] ↔ json.equals wanted = true := by
  simp [equalTo]

@[simp]
theorem minLength_str_eq_nil {least : Nat} {text : String} :
    minLength least (.str text) = [] ↔ least ≤ text.length := by
  simp [minLength]

@[simp]
theorem minItems_arr_eq_nil {least : Nat} {items : List Json} :
    minItems least (.arr items) = [] ↔ least ≤ items.length := by
  simp [minItems]

@[simp]
theorem eachItem_arr_eq_nil {rule : Json → List Violation} {items : List Json} :
    eachItem rule (.arr items) = [] ↔ ∀ item ∈ items, rule item = [] := by
  simp [eachItem]

theorem required_obj_eq_nil {names : List String} {fields : List (String × Json)} :
    required names (.obj fields) = [] ↔ ∀ name ∈ names, (fields.lookup name).isSome = true := by
  simp [required]

theorem inField_eq_nil {json : Json} {name : String} {rule : json.Part → List Violation} :
    inField json name rule = [] ↔ ∀ part, json.field? name = some part → rule part = [] := by
  unfold inField
  split <;> simp_all

theorem oneOf_eq_nil {json : Json} {alternatives : List (List Violation)} :
    oneOf json alternatives = [] ↔ alternatives.countP List.isEmpty = 1 := by
  unfold oneOf
  generalize alternatives.countP List.isEmpty = count
  match count with
  | 0 => simp
  | 1 => simp
  | _ + 2 => simp

end ScenarioGraph.Schema
