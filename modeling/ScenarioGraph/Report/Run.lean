/-
# ScenarioGraph.Report.Run -- runs as JSON values

An outcome is an object with its `status` and, where there is one, its `detail`.
Fields are in key order.
-/
import ScenarioGraph.Json.Value
import ScenarioGraph.Run.Outcome

namespace ScenarioGraph

set_option autoImplicit false

/-- A status, with its detail where there is one. -/
def statusJson (status : String) (detail : Option String) : Json :=
  .obj ((detail.map fun text => ("detail", Json.str text)).toList ++ [("status", .str status)])

def ActionOutcome.toJson : ActionOutcome → Json
  | absent => statusJson "absent" none
  | passed => statusJson "passed" none
  | failed detail => statusJson "failed" (some detail)
  | skipped reason => statusJson "skipped" (some reason)

def CheckStatus.toJson : CheckStatus → Json
  | passed => statusJson "passed" none
  | failed detail => statusJson "failed" (some detail)
  | skipped reason => statusJson "skipped" (some reason)

def CheckOutcome.toJson (outcome : CheckOutcome) : Json :=
  .obj [("name", .str outcome.name), ("status", outcome.status.toJson)]

def StepOutcome.toJson (outcome : StepOutcome) : Json :=
  .obj
    [("action", outcome.action.toJson), ("checks", .arr (outcome.checks.map CheckOutcome.toJson)),
      ("input", .ofOption (outcome.input.map .str)), ("label", .str outcome.label),
      ("node", .str outcome.node), ("position", .ofNat outcome.position)]

def ScenarioRun.toJson (run : ScenarioRun) : Json :=
  .obj
    [("scenario", .str run.scenario),
      ("start_hook_failure", .ofOption (run.startHookFailure.map .str)),
      ("steps", .arr (run.steps.map StepOutcome.toJson)),
      ("stop_hook_failure", .ofOption (run.stopHookFailure.map .str))]

def FailureKind.name : FailureKind → String
  | action => "action"
  | check => "check"
  | startHook => "start_hook"
  | stopHook => "stop_hook"

def Failure.toJson (failure : Failure) : Json :=
  .obj
    [("check", .ofOption (failure.check.map .str)), ("detail", .str failure.detail),
      ("kind", .str failure.kind.name), ("node", .ofOption (failure.node.map .str)),
      ("position", .ofOption (failure.position.map .ofNat)), ("scenario", .str failure.scenario)]

end ScenarioGraph
