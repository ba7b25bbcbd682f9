/-
# ScenarioGraph.Run.Outcome -- what happened in a run

A call ends well, with an error message, or in a panic.  The outcome of a step
says what became of its action and of each of its checks; a step that could not
be reached is skipped, with the reason.  `ScenarioRun.failures` lists the
failures of a run in the order in which the calls are made.
-/
import ScenarioGraph.Name

namespace ScenarioGraph

set_option autoImplicit false

/-- How a call to an action, a check or a hook ends. -/
inductive CallResult where
  | done
  | failed (message : String)
  /-- A panic, with its message if it has one. -/
  | panicked (message : Option String)
deriving DecidableEq

/-- The failure of a call in words, if it failed. -/
def CallResult.failure? : CallResult → Option String
  | done => none
  | failed message => some message
  | panicked (some message) => some ("panicked: " ++ message)
  | panicked none => some "panicked"

/-! ## Steps -/

inductive ActionOutcome where
  /-- No input applies at this position. -/
  | absent
  | passed
  | failed (detail : String)
  | skipped (reason : String)
deriving DecidableEq

inductive CheckStatus where
  | passed
  | failed (detail : String)
  | skipped (reason : String)
deriving DecidableEq

structure CheckOutcome where
  name : Name
  status : CheckStatus
deriving DecidableEq

structure StepOutcome where
  position : Nat
  node : Name
  label : String
  input : Option String
  action : ActionOutcome
  checks : List CheckOutcome
deriving DecidableEq

def StepOutcome.isSkipped (outcome : StepOutcome) : Bool :=
  match outcome.action with
  | .skipped _ => true
  | _ => false

/-! ## Scenarios -/

/-- The outcome of one scenario. -/
structure ScenarioRun where
  scenario : String
  steps : List StepOutcome
  startHookFailure : Option String
  stopHookFailure : Option String
deriving DecidableEq

inductive FailureKind where
  | action
  | check
  | startHook
  | stopHook
deriving DecidableEq

/-- A failure, with what is needed to find the call that failed. -/
structure Failure where
  scenario : String
  position : Option Nat
  node : Option Name
  check : Option Name
  kind : FailureKind
  detail : String
deriving DecidableEq

/-- The failures of a step: of its action, then of its checks. -/
def StepOutcome.failures (scenario : String) (outcome : StepOutcome) : List Failure :=
  let failure (check : Option Name) (kind : FailureKind) (detail : String) : Failure :=
    ⟨scenario, some outcome.position, some outcome.node, check, kind, detail⟩
  let ofAction := match outcome.action with
    | .failed detail => [failure none .action detail]
    | _ => []
  ofAction ++ outcome.checks.filterMap fun check =>
    match check.status with
    | .failed detail => some (failure (some check.name) .check detail)
    | _ => none

namespace ScenarioRun

def hookFailures (run : ScenarioRun) (kind : FailureKind) (detail : Option String) :
    List Failure :=
  (detail.map fun detail => ⟨run.scenario, none, none, none, kind, detail⟩).toList

/-- Start hook, then step by step, then stop hook. -/
def failures (run : ScenarioRun) : List Failure :=
  run.hookFailures .startHook run.startHookFailure
    ++ run.steps.flatMap (StepOutcome.failures run.scenario)
    ++ run.hookFailures .stopHook run.stopHookFailure

def skippedSteps (run : ScenarioRun) : List StepOutcome := run.steps.filter StepOutcome.isSkipped

/-- Nothing failed and no step was skipped. -/
def isSuccess (run : ScenarioRun) : Bool := run.failures.isEmpty && run.skippedSteps.isEmpty

end ScenarioRun

/-! ## Suites -/

/-- The outcomes of all scenarios of a suite, in order. -/
structure SuiteRun where
  results : List ScenarioRun
deriving DecidableEq

namespace SuiteRun

def passed (run : SuiteRun) : Nat := run.results.countP ScenarioRun.isSuccess

def failed (run : SuiteRun) : Nat := run.results.length - run.passed

def isSuccess (run : SuiteRun) : Bool := run.failed = 0

def failures (run : SuiteRun) : List Failure := run.results.flatMap ScenarioRun.failures

end SuiteRun

end ScenarioGraph
