/-
# ScenarioGraph.Toml.Value -- values of a settings text

A table may be written in several ways, and the way it was written decides what
may be added to it later (`Form`).  Dotted keys add to tables that dotted keys
have made; headers add tables below any table that is no value.  No key is ever
set twice.

Of floats and moments in time only the kind is kept.
-/

namespace ScenarioGraph

set_option autoImplicit false

namespace Toml

/-- How a table came about. -/
inductive Form where
  /-- By a header of its own, or as the top of the text. -/
  | header
  /-- On the way to a header. -/
  | implied
  /-- On the way to a dotted key. -/
  | dotted
  /-- Between braces, as a value. -/
  | inline
deriving DecidableEq

/-- A key below the tables of its path. -/
structure Key where
  path : List String
  name : String
deriving DecidableEq

end Toml

inductive Toml where
  | text (value : String)
  | integer (value : Int)
  | boolean (value : Bool)
  | float
  | moment
  | array (items : List Toml)
  | table (form : Toml.Form) (entries : List (String × Toml))
  /-- The tables under one repeated header. -/
  | tables (items : List (List (String × Toml)))

namespace Toml

/-- The keys of a table with their values, no key twice. -/
abbrev Entries : Type := List (String × Toml)

/-- Put a value in the place of its key, or at the end. -/
def put (name : String) (value : Toml) : Entries → Entries
  | [] => [(name, value)]
  | (other, old) :: rest =>
      if other = name then (name, value) :: rest else (other, old) :: put name value rest

/-- Change the entries of the table at the end of a path, making tables on the way.
The change is told how the table came about; it may fail, and so may the way. -/
def editAt (dotted : Bool) (edit : Form → Entries → Option Entries) :
    List String → Form → Entries → Option Entries
  | [], form, entries => edit form entries
  | name :: path, _, entries =>
      match entries.lookup name with
      | none => do
          let form : Form := if dotted then .dotted else .implied
          let inner ← editAt dotted edit path form []
          some (put name (.table form inner) entries)
      | some (.table form inner) => do
          guard (form ≠ .inline ∧ ¬ (dotted ∧ form = .header))
          let inner ← editAt dotted edit path form inner
          some (put name (.table form inner) entries)
      | some (.tables items) => do
          let inner ← editAt dotted edit path .header (← items.getLast?)
          some (put name (.tables (items.dropLast ++ [inner])) entries)
      | some _ => none

/-- Give a new key its value.  A dotted key must end in a table of dotted keys. -/
def define (key : Key) (value : Toml) : Entries → Option Entries :=
  editAt true
    (fun form entries => do
      guard (key.path = [] ∨ form = .dotted)
      guard (entries.lookup key.name).isNone
      some (put key.name value entries))
    key.path .header

def defineAll (settings : List (Key × Toml)) (entries : Entries) : Option Entries :=
  settings.foldlM (fun entries (key, value) => define key value entries) entries

/-! ## Sections -/

/-- The line above a group of keys. -/
inductive Header where
  | table (key : Key)
  /-- One more table of a list. -/
  | item (key : Key)
deriving DecidableEq

/-- Add the keys below a header.  A table gets one header at most, and none once
dotted keys have made it. -/
def addSection (header : Header) (settings : List (Key × Toml)) : Entries → Option Entries :=
  match header with
  | .table key =>
      editAt false
        (fun _ entries => do
          let before ← match entries.lookup key.name with
            | none => some []
            | some (.table .implied inner) => some inner
            | some _ => none
          some (put key.name (.table .header (← defineAll settings before)) entries))
        key.path .header
  | .item key =>
      editAt false
        (fun _ entries => do
          let before ← match entries.lookup key.name with
            | none => some []
            | some (.tables items) => some items
            | some _ => none
          some (put key.name (.tables (before ++ [← defineAll settings []])) entries))
        key.path .header

end Toml

end ScenarioGraph
