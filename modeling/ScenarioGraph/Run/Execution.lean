/-
# ScenarioGraph.Run.Execution -- running planned scenarios

Handles get their meaning here: `call` says how a call to a handle ends and what
it does to a shared state `σ`.  Steps run in order.  A failing check is recorded
and the others still run.  A failing action ends the scenario: its own checks
and all later steps are skipped, for a reason that names the step.

Around a scenario come the hooks of the graph.  If the start hook fails, every
step is skipped; the stop hook is called in any case.
-/
import ScenarioGraph.Plan.Suite
import ScenarioGraph.Run.Outcome

namespace ScenarioGraph

set_option autoImplicit false

variable {κ σ : Type}

/-! ## Steps -/

namespace Step

def outcome (step : Step κ) (action : ActionOutcome) (checks : List CheckOutcome) :
    StepOutcome :=
  { position := step.position
    node := step.node
    label := step.label
    input := step.input.map ChosenInput.label
    action
    checks }

def skippedChecks (step : Step κ) (reason : String) : List CheckOutcome :=
  step.checks.map fun check => ⟨check.name, .skipped reason⟩

def skipped (step : Step κ) (reason : String) : StepOutcome :=
  step.outcome (.skipped reason) (step.skippedChecks reason)

/-- Why nothing runs after a failing action. -/
def abortReason (step : Step κ) (input : ChosenInput κ) : String :=
  s!"input '{input.label}' of step {step.label} failed"

end Step

/-- Call a handle; its failure in words, if it failed. -/
def invoke (call : κ → StateM σ CallResult) (handle : κ) : StateM σ (Option String) := do
  let result ← call handle
  return result.failure?

def runCheck (call : κ → StateM σ CallResult) (check : ChosenCheck κ) :
    StateM σ CheckOutcome := do
  match ← invoke call check.body with
  | none => return ⟨check.name, .passed⟩
  | some detail => return ⟨check.name, .failed detail⟩

/-- Run steps in order, up to the first failing action. -/
def runSteps (call : κ → StateM σ CallResult) : List (Step κ) → StateM σ (List StepOutcome)
  | [] => return []
  | step :: rest => do
      match step.input with
      | none =>
          let checks ← step.checks.mapM (runCheck call)
          let later ← runSteps call rest
          return step.outcome .absent checks :: later
      | some input =>
          match ← invoke call input.action with
          | none =>
              let checks ← step.checks.mapM (runCheck call)
              let later ← runSteps call rest
              return step.outcome .passed checks :: later
          | some detail =>
              let reason := step.abortReason input
              return step.outcome (.failed detail) (step.skippedChecks reason)
                :: rest.map (·.skipped reason)

/-! ## Scenarios and suites -/

/-- Run steps without hooks. -/
def runScenario (call : κ → StateM σ CallResult) (scenario : String) (steps : List (Step κ)) :
    StateM σ ScenarioRun := do
  let outcomes ← runSteps call steps
  return ⟨scenario, outcomes, none, none⟩

namespace Hooks

/-- Call a hook that may be absent; its failure in words, if it failed. -/
def invokeHook (call : κ → StateM σ CallResult) : Option κ → StateM σ (Option String)
  | none => return none
  | some hook => invoke call hook

/-- Run one planned scenario between the two hooks. -/
def run (hooks : Hooks κ) (call : κ → StateM σ CallResult) (planned : PlannedScenario κ) :
    StateM σ ScenarioRun := do
  let startFailure ← invokeHook call hooks.start
  let outcomes ← match startFailure with
    | none => runSteps call planned.steps
    | some _ => pure (planned.steps.map (·.skipped "scenario start hook failed"))
  let stopFailure ← invokeHook call hooks.stop
  return ⟨planned.name, outcomes, startFailure, stopFailure⟩

end Hooks

/-- Run every scenario of a suite, in order. -/
def Suite.run (suite : Suite κ) (hooks : Hooks κ) (call : κ → StateM σ CallResult) :
    StateM σ SuiteRun := do
  let results ← suite.scenarios.mapM (hooks.run call)
  return ⟨results⟩

end ScenarioGraph
