/-
# ScenarioGraph.Document.Parser -- checked reading of documents

`Document.parse` reads a document of the supported version field by field, so
that an error names the node it is about.  A node must have a name of at least
one character; guards are read by `GuardEntry.read`, and its errors are reported
as they are.
-/
import ScenarioGraph.Document.Reader

namespace ScenarioGraph

set_option autoImplicit false

namespace Document

/-! ## Errors -/

/-- What is wrong with one node. -/
inductive NodeFlaw where
  /-- A list is given as something else. -/
  | notArray (field : String)
  /-- A list of names holds something else. -/
  | notNames (field : String)
  | labelNotText
  | badGuard (cause : ShapeError)
  | unnamedCheck
deriving DecidableEq

/-- What is wrong with the structure of a document. -/
inductive Flaw where
  | notObject
  | startNotText
  | unnamedNode (index : Nat)
  | inNode (name : Name) (flaw : NodeFlaw)
deriving DecidableEq

end Document

inductive DocumentError where
  | missingField (name : String)
  | unsupportedVersion (found : String)
  | invalid (flaw : Document.Flaw)
deriving DecidableEq

namespace Document

def NodeFlaw.message : NodeFlaw → String
  | notArray field => s!"'{field}' must be an array"
  | notNames field => s!"'{field}' entries must be strings"
  | labelNotText => "input 'label' must be a string"
  | badGuard cause => "bad 'guard': " ++ cause.message
  | unnamedCheck => "check missing 'name' field"

def Flaw.message : Flaw → String
  | notObject => "top level must be an object"
  | startNotText => "'start' must be a string"
  | unnamedNode index => s!"nodes[{index}]: missing 'name' field"
  | inNode name flaw => s!"node '{name}': {flaw.message}"

end Document

def DocumentError.message : DocumentError → String
  | missingField name => s!"document missing required field: '{name}'"
  | unsupportedVersion found =>
      s!"unsupported trellis version '{found}' (expected '{Document.supportedVersion}')"
  | invalid flaw => "invalid document: " ++ flaw.message

namespace Document

/-! ## Nodes -/

/-- The items of a list that may be absent. -/
def listField (json : Json) (field : String) : Except NodeFlaw (List Json) :=
  match json.get? field with
  | none => .ok []
  | some (.arr items) => .ok items
  | some _ => .error (.notArray field)

/-- A list of names that may be absent. -/
def namesField (json : Json) (field : String) : Except NodeFlaw (List Name) := do
  let items ← listField json field
  match items.mapM Json.asString? with
  | some names => .ok names
  | none => .error (.notNames field)

/-- A guard that may be absent or `null`. -/
def guardField (json : Json) : Except NodeFlaw (Option GuardEntry) :=
  match json.get? "guard" with
  | none => .ok none
  | some .null => .ok none
  | some value =>
      match GuardEntry.read value with
      | .ok guard => .ok (some guard)
      | .error cause => .error (.badGuard cause)

/-- A label that may be absent or `null`. -/
def labelField (json : Json) : Except NodeFlaw (Option String) :=
  match json.get? "label" with
  | none => .ok none
  | some .null => .ok none
  | some (.str label) => .ok (some label)
  | some _ => .error .labelNotText

def parseInput (json : Json) : Except NodeFlaw InputEntry := do
  let label ← labelField json
  let guard ← guardField json
  return ⟨label, guard⟩

def parseCheck (json : Json) : Except NodeFlaw CheckEntry := do
  match json.get? "name" with
  | some (.str name) =>
      let guard ← guardField json
      return ⟨name, guard⟩
  | _ => .error .unnamedCheck

def parseNodeBody (name : Name) (json : Json) : Except NodeFlaw NodeEntry := do
  let predecessors ← namesField json "predecessors"
  let inputs ← (← listField json "inputs").mapM parseInput
  let checks ← (← listField json "checks").mapM parseCheck
  return ⟨name, predecessors, inputs, checks⟩

/-- The node at place `index` of a document. -/
def parseNode (index : Nat) (json : Json) : Except Flaw NodeEntry :=
  match (json.get? "name").bind Json.asString? with
  | none => .error (.unnamedNode index)
  | some name =>
      if name.isEmpty then .error (.unnamedNode index)
      else (parseNodeBody name json).mapError (.inNode name)

/-- The nodes from place `index` on. -/
def parseNodes (index : Nat) : List Json → Except Flaw (List NodeEntry)
  | [] => .ok []
  | json :: rest => do
      let node ← parseNode index json
      let nodes ← parseNodes (index + 1) rest
      return node :: nodes

/-! ## Documents -/

/-- A text that a document must have. -/
def textField (json : Json) (field : String) : Except DocumentError String :=
  match (json.get? field).bind Json.asString? with
  | some text => .ok text
  | none => .error (.missingField field)

/-- The start node may be absent or `null`. -/
def startField (json : Json) : Except DocumentError (Option Name) :=
  match json.get? "start" with
  | none => .ok none
  | some .null => .ok none
  | some (.str start) => .ok (some start)
  | some _ => .error (.invalid .startNotText)

/-- A document of the supported version. -/
def parse (json : Json) : Except DocumentError Document := do
  let .obj _ := json | .error (.invalid .notObject)
  let id ← textField json "id"
  let version ← textField json "trellis"
  if version ≠ supportedVersion then .error (.unsupportedVersion version)
  else
    let start ← startField json
    match (json.get? "nodes").bind Json.asArray? with
    | none => .error (.missingField "nodes")
    | some items =>
        let nodes ← (parseNodes 0 items).mapError .invalid
        return ⟨id, version, start, nodes⟩

end Document

end ScenarioGraph
