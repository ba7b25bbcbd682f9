/-
# ScenarioGraph.Report.Plan -- enumerations and plans as JSON values

Fields are in key order.
-/
import ScenarioGraph.Json.Value
import ScenarioGraph.Plan.Suite

namespace ScenarioGraph

set_option autoImplicit false

/-- Sequences of names as a value. -/
def sequencesJson (sequences : List NodeSequence) : Json := .arr (sequences.map Json.ofStrings)

/-- Cycles by node as a value. -/
def cyclesJson (cycles : List (Name × List NodeSequence)) : Json :=
  .obj (cycles.map fun (name, found) => (name, sequencesJson found))

def Scenario.toJson (scenario : Scenario) : Json :=
  .obj
    [("index", .ofNat scenario.index), ("name", .str scenario.name),
      ("nodes", .ofStrings scenario.nodes)]

def Overview.toJson (overview : Overview) : Json :=
  .obj
    [("cycles", cyclesJson overview.cycles), ("repeat", .ofNat overview.repetitions),
      ("scenarios", .arr (overview.scenarios.map Scenario.toJson)), ("start", .str overview.start),
      ("trails", sequencesJson overview.trails)]

def Summary.toJson (summary : Summary) : Json :=
  .obj
    [("cycle_count", .ofNat summary.cycleCount), ("longest_scenario", .ofNat summary.longestScenario),
      ("scenario_count", .ofNat summary.scenarioCount), ("trail_count", .ofNat summary.trailCount)]

def StepOutline.toJson (step : StepOutline) : Json :=
  .obj
    [("checks", .ofStrings step.checks), ("input", .ofOption (step.input.map .str)),
      ("label", .str step.label), ("node", .str step.node), ("position", .ofNat step.position)]

def ScenarioOutline.toJson (outline : ScenarioOutline) : Json :=
  .obj
    [("index", .ofNat outline.index), ("name", .str outline.name),
      ("steps", .arr (outline.steps.map StepOutline.toJson))]

end ScenarioGraph
