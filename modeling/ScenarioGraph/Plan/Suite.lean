/-
# ScenarioGraph.Plan.Suite -- every scenario of a graph, planned

Planning is all or nothing: the first defect met, scenario by scenario, is the
answer for the whole suite.
-/
import ScenarioGraph.Plan.Step

namespace ScenarioGraph

set_option autoImplicit false

structure PlannedScenario (κ : Type) where
  scenario : Scenario
  steps : List (Step κ)
deriving DecidableEq

/-- The planned scenarios for one number of repetitions. -/
structure Suite (κ : Type) where
  repetitions : Nat
  scenarios : List (PlannedScenario κ)
deriving DecidableEq

/-- A planned scenario without its handles, for reports. -/
structure ScenarioOutline where
  index : Nat
  name : String
  steps : List StepOutline
deriving DecidableEq

variable {κ : Type}

namespace PlannedScenario

def name (planned : PlannedScenario κ) : String := planned.scenario.name

def outline (planned : PlannedScenario κ) : ScenarioOutline :=
  { index := planned.scenario.index
    name := planned.name
    steps := planned.steps.map Step.outline }

end PlannedScenario

namespace Suite

def get? (suite : Suite κ) (name : String) : Option (PlannedScenario κ) :=
  suite.scenarios.find? fun planned => planned.name = name

def outline (suite : Suite κ) : List ScenarioOutline :=
  suite.scenarios.map PlannedScenario.outline

/-- The number of steps of all scenarios together. -/
def stepCount (suite : Suite κ) : Nat :=
  total (suite.scenarios.map fun planned => planned.steps.length)

end Suite

namespace Graph

def planScenario (g : Graph κ) (scenario : Scenario) : Except GraphError (PlannedScenario κ) := do
  let steps ← g.steps scenario
  .ok ⟨scenario, steps⟩

/-- Plan the scenarios given, in order. -/
def planScenarios (g : Graph κ) (repetitions : Nat) (scenarios : List Scenario) :
    Except GraphError (Suite κ) := do
  let planned ← scenarios.mapM g.planScenario
  .ok ⟨repetitions, planned⟩

/-- Plan every scenario from the start node. -/
def planSuite (g : Graph κ) (repetitions : Nat) : Except GraphError (Suite κ) := do
  let scenarios ← g.scenarios repetitions
  g.planScenarios repetitions scenarios

end Graph

end ScenarioGraph
