/-
# ScenarioGraph.Plan.Step -- what each position of a scenario does

At each position of a scenario the history holds the nodes before it.
The inputs of the node that accept this history are its candidates: none means
that the position has no action, one is the action taken, several are a defect
of the graph.  The checks that accept the history apply, in name order.  Since
the history grows along the scenario, one node may do different things at
different positions.
-/
import ScenarioGraph.Scenario
import ScenarioGraph.Decimal.Padded

namespace ScenarioGraph

set_option autoImplicit false

/-- The input taken at a position. -/
structure ChosenInput (κ : Type) where
  label : String
  action : κ
deriving DecidableEq

/-- A check that applies at a position. -/
structure ChosenCheck (κ : Type) where
  name : Name
  body : κ
deriving DecidableEq

/-- One position of a planned scenario. -/
structure Step (κ : Type) where
  position : Nat
  node : Name
  /-- Unique within a scenario. -/
  label : String
  input : Option (ChosenInput κ)
  checks : List (ChosenCheck κ)
deriving DecidableEq

/-- A step without its handles, for reports. -/
structure StepOutline where
  position : Nat
  node : Name
  label : String
  input : Option String
  checks : List Name
deriving DecidableEq

/-- The position, with at least four digits, and the node. -/
def stepLabel (position : Nat) (node : Name) : String :=
  Decimal.padZeros 4 position ++ "_" ++ node

variable {κ : Type}

def Step.outline (step : Step κ) : StepOutline :=
  { position := step.position
    node := step.node
    label := step.label
    input := step.input.map ChosenInput.label
    checks := step.checks.map ChosenCheck.name }

namespace Node

/-- The inputs that accept the history, in declaration order. -/
def candidates (node : Node κ) (history : History) : List (Input κ) :=
  node.inputs.filter fun input => Guard.admits input.guard history

/-- The checks that apply after the history. -/
def applicable (node : Node κ) (history : History) : List (Check κ) :=
  node.checks.filter fun check => Guard.admits check.guard history

end Node

namespace Graph

/-- The step of the node `name` after the history. -/
def stepAt (g : Graph κ) (scenario : String) (history : History) (name : Name) :
    Except GraphError (Step κ) :=
  match g.node? name with
  | none => .error (.unknownNode name)
  | some node =>
      let step (input : Option (ChosenInput κ)) : Step κ :=
        { position := history.size
          node := name
          label := stepLabel history.size name
          input
          checks := (node.applicable history).map fun check => ⟨check.name, check.body⟩ }
      match node.candidates history with
      | [] => .ok (step none)
      | [input] => .ok (step (some ⟨input.label, input.action⟩))
      | several =>
          .error (.ambiguousInput scenario history.size name (several.map Input.label) history)

/-- Go on to the node `name`: its step after the history, which it then joins. -/
def advance (g : Graph κ) (scenario : String) (name : Name) :
    StateT History (Except GraphError) (Step κ) := do
  let history ← get
  let step ← g.stepAt scenario history name
  set (history.push name)
  return step

/-- The steps of a scenario, or the first defect met along it. -/
def steps (g : Graph κ) (scenario : Scenario) : Except GraphError (List (Step κ)) :=
  (scenario.nodes.mapM (g.advance scenario.name)).run' #[]

end Graph

end ScenarioGraph
