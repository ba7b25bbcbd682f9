/-
# ScenarioGraph.Settings -- preset options

A settings text holds one table, `plan`, with the number of repetitions and the
output format.  Anything else in it makes the whole text invalid.  The table may
also be given as an array of its values, and the format as a table that has its
name for the only key.
-/
import ScenarioGraph.Toml.Reader

namespace ScenarioGraph

set_option autoImplicit false

/-- How answers are written. -/
inductive OutputFormat where
  | text
  | json
deriving DecidableEq

def OutputFormat.ofName? : String → Option OutputFormat
  | "text" => some text
  | "json" => some json
  | _ => none

structure Settings where
  repetitions : Option Nat
  output : Option OutputFormat
deriving DecidableEq

namespace Settings

/-- Nothing is preset. -/
def empty : Settings := ⟨none, none⟩

def repetitionsOf? : Toml → Option Nat
  | .integer n => if 0 ≤ n then some n.toNat else none
  | _ => none

/-- Whether a value holds nothing. -/
def isEmpty : Toml → Bool
  | .array items => items.isEmpty
  | .table _ entries => entries.isEmpty
  | _ => false

def outputOf? : Toml → Option OutputFormat
  | .text name => OutputFormat.ofName? name
  | .table _ [(name, value)] => if isEmpty value then OutputFormat.ofName? name else none
  | _ => none

/-- The value of a key, if the table has it; nothing when it is no valid one. -/
def entry? {α : Type} (entries : Toml.Entries) (name : String) (read : Toml → Option α) :
    Option (Option α) :=
  match entries.lookup name with
  | some value => (read value).map some
  | none => some none

def ofTable? : Toml → Option Settings
  | .table _ entries => do
      guard (entries.all fun entry => entry.1 ∈ ["repeat", "output"])
      some ⟨← entry? entries "repeat" repetitionsOf?, ← entry? entries "output" outputOf?⟩
  | .array (repetitions :: output :: _) => do
      some ⟨some (← repetitionsOf? repetitions), some (← outputOf? output)⟩
  | _ => none

/-- The settings of a text, or nothing when it is no valid one. -/
def read (text : String) : Option Settings := do
  let entries ← Toml.read text
  guard (entries.all fun entry => entry.1 = "plan")
  match entries.lookup "plan" with
  | some table => ofTable? table
  | none => some empty

end Settings

end ScenarioGraph
