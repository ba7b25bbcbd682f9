/-
# ScenarioGraph.Document.Reader -- typed reading of documents

Every entry is read from an object by its keys or from an array by its places.
An object's fields are visited in key order and unknown ones are passed over;
only then are missing fields found, in the order in which an array lists them.
Labels, guards and start nodes may be absent or `null`, lists may be absent.

A condition takes its operator from the key `op` or from the first place of an
array.  Inside another condition the operator may also be given by number.
-/
import ScenarioGraph.Document.Basic
import ScenarioGraph.Document.Shape

namespace ScenarioGraph

set_option autoImplicit false

open Shape

/-! ## Conditions -/

/-- The operators of conditions. -/
inductive Operator where
  | sequence
  | moreRecent
  | lastIn
  | and
  | or
  | not
deriving DecidableEq

namespace Operator

/-- In the order of their numbers. -/
def all : List Operator := [sequence, moreRecent, lastIn, and, or, not]

/-- The name under `op`. -/
def name : Operator → String
  | sequence => "sequence"
  | moreRecent => "more_recent"
  | lastIn => "last_in"
  | and => "and"
  | or => "or"
  | not => "not"

/-- The operands that an array gives after the operator. -/
def operands : Operator → Fields
  | sequence => .operands "Sequence" 1
  | moreRecent => .operands "MoreRecent" 2
  | lastIn => .operands "LastIn" 1
  | and => .operands "And" 2
  | or => .operands "Or" 2
  | not => .operands "Not" 1

def ofName (name : String) : Except ShapeError Operator :=
  match all.find? fun operator => operator.name = name with
  | some operator => .ok operator
  | none => .error (.unknownName name (all.map Operator.name))

def ofIndex (index : Nat) : Except ShapeError Operator :=
  match all[index]? with
  | some operator => .ok operator
  | none => .error (.wrongIndex index all.length)

/-- The operator that a value stands for; numbers are allowed only `inside`. -/
def read (inside : Bool) (json : Json) : Except ShapeError Operator :=
  match json with
  | .str text => ofName text
  | .num (.int index) =>
      if inside ∧ 0 ≤ index then ofIndex index.toNat else wrong json .operator
  | _ => wrong json .operator

/-- The operator of a condition: under `op`, or in the first place of an array. -/
def of (inside : Bool) (json : Json) : Except ShapeError Operator :=
  let mark := match json with
    | .arr items => items.head?
    | _ => json.get? "op"
  match json, mark with
  | .arr _, some mark => read inside mark
  | .obj _, some mark => read inside mark
  | .arr _, none => .error (.missingField "op")
  | .obj _, none => .error (.missingField "op")
  | _, _ => wrong json .condition

end Operator

namespace Condition

/-- An operand of a condition: the field `key`, or the item `place` places after
the operator. -/
def operand? (json : Json) (key : String) (place : Nat) : Option json.Part :=
  match json with
  | .arr items => Json.item? (.arr items) (place + 1)
  | other => other.field? key

/-- The value of an operand of a condition with this operator. -/
def need {α : Type} (json : Json) (operator : Operator) (key : String) (place : Nat)
    (found : Option α) : Except ShapeError α :=
  required json key place operator.operands found

/-- The names of a condition that has nothing but names. -/
def readNames (json : Json) (operator : Operator) : Except ShapeError (List Name) := do
  let names ← readIfAny readTexts ((operand? json "names" 0).map Subtype.val)
  need json operator "names" 0 names

/-- The older and the newer of two names. -/
def readPair (json : Json) : Except ShapeError (Name × Name) := do
  let read (key : String) (place : Nat) :=
    readIfAny readText ((operand? json key place).map Subtype.val)
  match json with
  | .arr _ =>
      let older ← need json .moreRecent "older" 0 (← read "older" 0)
      let newer ← need json .moreRecent "newer" 1 (← read "newer" 1)
      pure (older, newer)
  | _ =>
      let newer ← read "newer" 1
      let older ← read "older" 0
      let older ← need json .moreRecent "older" 0 older
      let newer ← need json .moreRecent "newer" 1 newer
      pure (older, newer)

/-- A condition, possibly `inside` another one. -/
def readAt (inside : Bool) (json : Json) : Except ShapeError Condition := do
  let operator ← Operator.of inside json
  let inner (key : String) (place : Nat) : Except ShapeError (Option Condition) :=
    (operand? json key place).mapM fun part =>
      have := part.property
      readAt true part.val
  let both : Except ShapeError (Condition × Condition) := do
    let left ← inner "left" 0
    let right ← inner "right" 1
    let left ← need json operator "left" 0 left
    let right ← need json operator "right" 1 right
    pure (left, right)
  let condition ← match operator with
    | .sequence => sequence <$> readNames json operator
    | .moreRecent => (fun (older, newer) => moreRecent older newer) <$> readPair json
    | .lastIn => (fun names => lastIn (NameSet.ofList names)) <$> readNames json operator
    | .and => (fun (left, right) => and left right) <$> both
    | .or => (fun (left, right) => or left right) <$> both
    | .not => not <$> (inner "inner" 0 >>= need json operator "inner" 0)
  noMore json 1 operator.operands
  return condition
termination_by sizeOf json

def read (json : Json) : Except ShapeError Condition := readAt false json

end Condition

namespace Document

/-! ## Entries -/

/-- The kinds of guards. -/
def guardKinds : List String := ["after", "when"]

def GuardEntry.read : Json → Except ShapeError GuardEntry
  | .obj [("after", names)] => after <$> readTexts names
  | .obj [("when", condition)] => when <$> Condition.read condition
  | .obj [(other, _)] => .error (.unknownName other guardKinds)
  | .obj _ => .error .notOneKey
  | .str name => .error (if name ∈ guardKinds then .bareName else .unknownName name guardKinds)
  | other => wrong other .guard

/-- A field that may be absent or `null`. -/
def readOptional {α : Type} (read : Json → Except ShapeError α) (json : Option Json) :
    Except ShapeError (Option α) := do
  let found ← readIfAny (readOption read) json
  return found.join

/-- A list that may be absent. -/
def readListOrNone {α : Type} (read : Json → Except ShapeError α) (json : Option Json) :
    Except ShapeError (List α) := do
  let found ← readIfAny (readList read) json
  return found.getD []

def InputEntry.read (json : Json) : Except ShapeError InputEntry :=
  match json with
  | .obj _ => do
      let guard ← readOptional GuardEntry.read (json.get? "guard")
      let label ← readOptional readText (json.get? "label")
      return ⟨label, guard⟩
  | .arr items => do
      let label ← readOptional readText items[0]?
      let guard ← readOptional GuardEntry.read items[1]?
      noMore json 0 (.record "InputDecl" 2)
      return ⟨label, guard⟩
  | _ => wrong json (.record "InputDecl")

def CheckEntry.read (json : Json) : Except ShapeError CheckEntry :=
  let fields : Fields := .record "CheckDecl" 2
  match json with
  | .obj _ => do
      let guard ← readOptional GuardEntry.read (json.get? "guard")
      let name ← readIfAny readText (json.get? "name")
      let name ← required json "name" 0 fields name
      return ⟨name, guard⟩
  | .arr items => do
      let name ← readIfAny readText items[0]?
      let name ← required json "name" 0 fields name
      let guard ← readOptional GuardEntry.read items[1]?
      noMore json 0 fields
      return ⟨name, guard⟩
  | _ => wrong json (.record "CheckDecl")

def NodeEntry.read (json : Json) : Except ShapeError NodeEntry :=
  let fields : Fields := .record "NodeDecl" 4
  match json with
  | .obj _ => do
      let checks ← readListOrNone CheckEntry.read (json.get? "checks")
      let inputs ← readListOrNone InputEntry.read (json.get? "inputs")
      let name ← readIfAny readText (json.get? "name")
      let predecessors ← readListOrNone readText (json.get? "predecessors")
      let name ← required json "name" 0 fields name
      return ⟨name, predecessors, inputs, checks⟩
  | .arr items => do
      let name ← readIfAny readText items[0]?
      let name ← required json "name" 0 fields name
      let predecessors ← readListOrNone readText items[1]?
      let inputs ← readListOrNone InputEntry.read items[2]?
      let checks ← readListOrNone CheckEntry.read items[3]?
      noMore json 0 fields
      return ⟨name, predecessors, inputs, checks⟩
  | _ => wrong json (.record "NodeDecl")

/-- A document by its shape alone; any version will do. -/
def read (json : Json) : Except ShapeError Document :=
  let fields : Fields := .record "GraphDocument" 4
  let readNodes := readList NodeEntry.read
  match json with
  | .obj _ => do
      let id ← readIfAny readText (json.get? "id")
      let nodes ← readIfAny readNodes (json.get? "nodes")
      let start ← readOptional readText (json.get? "start")
      let version ← readIfAny readText (json.get? "trellis")
      let id ← required json "id" 0 fields id
      let version ← required json "trellis" 1 fields version
      let nodes ← required json "nodes" 3 fields nodes
      return ⟨id, version, start, nodes⟩
  | .arr items => do
      let id ← readIfAny readText items[0]?
      let id ← required json "id" 0 fields id
      let version ← readIfAny readText items[1]?
      let version ← required json "trellis" 1 fields version
      let start ← readOptional readText items[2]?
      let nodes ← readIfAny readNodes items[3]?
      let nodes ← required json "nodes" 3 fields nodes
      noMore json 0 fields
      return ⟨id, version, start, nodes⟩
  | _ => wrong json (.record "GraphDocument")

end Document

end ScenarioGraph
