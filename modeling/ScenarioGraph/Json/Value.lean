/-
# ScenarioGraph.Json.Value -- JSON values

A number is an integer of the 64-bit ranges or a double; the two kinds stay
apart, because `1` and `1.0` are written differently.  An object is a list of
fields; a reader keeps them in key order with one field per key
(`Json.setField`), and `Json.get?` finds the field of a key.

Recursions over a value go through the fields and items of one level at a time;
`Json.sizeOf_get?_lt` says that a field's value is smaller than its object.
-/

namespace ScenarioGraph

set_option autoImplicit false

namespace Json

/-- An integer, or a double when the text has a point or an exponent or does
not fit 64 bits. -/
inductive Number where
  | int (value : Int)
  | float (value : Float)
deriving DecidableEq

end Json

inductive Json where
  | null
  | bool (value : Bool)
  | num (value : Json.Number)
  | str (value : String)
  | arr (items : List Json)
  | obj (fields : List (String × Json))

namespace Json

instance : Inhabited Json := ⟨.null⟩

/-- The integer `n` as a value. -/
def ofNat (n : Nat) : Json := .num (.int n)

/-- A list of texts as a value. -/
def ofStrings (texts : List String) : Json := .arr (texts.map .str)

/-- `null` for an absent value. -/
def ofOption (value : Option Json) : Json := value.getD .null

/-- The value of the field `key`; nothing on values that are no object. -/
def get? (key : String) : Json → Option Json
  | .obj fields => fields.lookup key
  | _ => none

def asString? : Json → Option String
  | .str text => some text
  | _ => none

def asArray? : Json → Option (List Json)
  | .arr items => some items
  | _ => none

def asNat? : Json → Option Nat
  | .num (.int n) => if 0 ≤ n then some n.toNat else none
  | _ => none

def asInt? : Json → Option Int
  | .num (.int n) => some n
  | _ => none

/-- Put a field in its place in a list of fields ordered by key; the value
given last for a key is the one that stays. -/
def setField (key : String) (value : Json) : List (String × Json) → List (String × Json)
  | [] => [(key, value)]
  | (other, old) :: rest =>
      if key < other then (key, value) :: (other, old) :: rest
      else if key = other then (key, value) :: rest
      else (other, old) :: setField key value rest

theorem lookup_mem {key : String} {value : Json} {fields : List (String × Json)}
    (found : fields.lookup key = some value) : (key, value) ∈ fields := by
  induction fields with
  | nil => simp at found
  | cons field rest ih =>
      obtain ⟨other, old⟩ := field
      rw [List.lookup_cons] at found
      split at found
      · rename_i same
        obtain rfl := Option.some.inj found
        simp [eq_of_beq same]
      · exact List.mem_cons_of_mem _ (ih found)

/-- A field's value is smaller than its object. -/
theorem sizeOf_get?_lt {key : String} {json value : Json} (found : json.get? key = some value) :
    sizeOf value < sizeOf json := by
  cases json with
  | obj fields =>
      have below := List.sizeOf_lt_of_mem (lookup_mem found)
      simp only [Prod.mk.sizeOf_spec] at below
      simp only [obj.sizeOf_spec]
      omega
  | _ => simp [get?] at found

/-- An item is smaller than its array. -/
theorem sizeOf_item_lt {item : Json} {items : List Json} (member : item ∈ items) :
    sizeOf item < sizeOf (Json.arr items) := by
  have below := List.sizeOf_lt_of_mem member
  simp only [arr.sizeOf_spec]
  omega

/-! ## Parts of a value -/

/-- A value inside `json`. -/
abbrev Part (json : Json) : Type := { value : Json // sizeOf value < sizeOf json }

/-- The field `key` of an object, as a part of it. -/
def field? (json : Json) (key : String) : Option json.Part :=
  match found : json.get? key with
  | some value => some ⟨value, sizeOf_get?_lt found⟩
  | none => none

/-- The item at `place` of an array, as a part of it. -/
def item? (json : Json) (place : Nat) : Option json.Part :=
  match json with
  | .arr items =>
      match found : items[place]? with
      | some value => some ⟨value, sizeOf_item_lt (List.mem_of_getElem? found)⟩
      | none => none
  | _ => none

end Json

end ScenarioGraph
