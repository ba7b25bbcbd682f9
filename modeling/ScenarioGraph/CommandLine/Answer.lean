/-
# ScenarioGraph.CommandLine.Answer -- the tasks and what they find

Each task gives an answer or says why there is none (`Failure`).  Answers have a
text and a JSON form.
-/
import ScenarioGraph.CommandLine.Files
import ScenarioGraph.Document.Graph
import ScenarioGraph.Document.Parser
import ScenarioGraph.Document.Schema
import ScenarioGraph.Json.Reader
import ScenarioGraph.Plan.Suite
import ScenarioGraph.Report.Plan
import ScenarioGraph.Settings

namespace ScenarioGraph.CommandLine

set_option autoImplicit false

/-! ## Failures -/

/-- Why there is no answer. -/
inductive Failure where
  | settingsUnreadable (path : String) (cause : ReadFailure)
  | settingsInvalid (path explanation : String)
  | graphUnreadable (path : String) (cause : ReadFailure)
  | notJson (path : String) (cause : Json.ReadError)
  | notDocument (path : String) (cause : DocumentError)
  | graphInvalid (cause : GraphError)
deriving DecidableEq

def Failure.message : Failure → String
  | settingsUnreadable path cause => s!"could not read '{path}': {cause.message}"
  | settingsInvalid path explanation => s!"could not parse '{path}': {explanation}"
  | graphUnreadable path cause => s!"error reading file '{path}': {cause.message}"
  | notJson path cause => s!"error parsing JSON in '{path}': {cause.message}"
  | notDocument path cause => s!"error loading '{path}': {cause.message}"
  | graphInvalid cause => s!"configuration error: {cause.message}"

/-! ## Reading -/

/-- The settings file that is used when there is one and no other is named. -/
def defaultSettingsPath : String := "trellis.toml"

/-- What is said about a settings text that is no valid one.  The words are those of the
library that reads such texts. -/
abbrev Explainer : Type := String → String

/-- Nothing is said; dots stand for the explanation. -/
def unexplained : Explainer := fun _ => "..."

def readSettings (explain : Explainer) (files : Files) (path : String) :
    Except Failure Settings := do
  let text ← (files.readText path).mapError (.settingsUnreadable path)
  match Settings.read text with
  | some settings => .ok settings
  | none => .error (.settingsInvalid path (explain text))

/-- The settings of the file named, or of the default file if it is there. -/
def findSettings (explain : Explainer) (files : Files) : Option String → Except Failure Settings
  | some path => readSettings explain files path
  | none =>
      if files.isFile defaultSettingsPath then readSettings explain files defaultSettingsPath
      else .ok .empty

def readJson (files : Files) (path : String) : Except Failure Json := do
  let text ← (files.readText path).mapError (.graphUnreadable path)
  (Json.read text).mapError (.notJson path)

/-- The document at a path, and its graph. -/
def loadGraph (files : Files) (path : String) : Except Failure (Document × Graph Unit) := do
  let json ← readJson files path
  let document ← (Document.parse json).mapError (.notDocument path)
  let graph ← document.toGraph.mapError .graphInvalid
  .ok (document, graph)

/-! ## Plans -/

structure PlanAnswer where
  /-- The identifier of the document. -/
  id : String
  overview : Overview
  scenarios : List ScenarioOutline

def planAnswer (files : Files) (path : String) (repetitions : Nat) :
    Except Failure PlanAnswer := do
  let (document, graph) ← loadGraph files path
  let overview ← (graph.overview repetitions).mapError .graphInvalid
  let suite ← (graph.planScenarios repetitions overview.scenarios).mapError .graphInvalid
  .ok ⟨document.id, overview, suite.outline⟩

def PlanAnswer.toJson (answer : PlanAnswer) : Json :=
  .obj
    [("cycles", cyclesJson answer.overview.cycles), ("id", .str answer.id),
      ("repeat", .ofNat answer.overview.repetitions),
      ("scenarios", .arr (answer.scenarios.map ScenarioOutline.toJson)),
      ("start", .str answer.overview.start), ("summary", answer.overview.summary.toJson),
      ("trails", sequencesJson answer.overview.trails)]

/-- The label with blanks after it, up to the width. -/
def padded (width : Nat) (label : String) : String :=
  label ++ String.ofList (List.replicate (width - label.length) ' ')

def stepLine (width : Nat) (step : StepOutline) : String :=
  let input := step.input.getD "-"
  let checks := if step.checks.isEmpty then "-" else commaList step.checks
  s!"  {padded width step.label}  input: {input}  checks: {checks}"

/-- A blank line, the name of the scenario, and a line for each of its steps.  The labels
are as wide as the bytes of the longest one are many. -/
def scenarioLines (outline : ScenarioOutline) : List String :=
  let width := (outline.steps.map fun step => step.label.utf8ByteSize).foldl max 0
  "" :: s!"[{outline.index}] {outline.name}" :: outline.steps.map (stepLine width)

def PlanAnswer.lines (answer : PlanAnswer) : List String :=
  let overview := answer.overview
  let summary := overview.summary
  [s!"Scenario plan for '{answer.id}'",
    s!"  start: {overview.start}, repeat: {overview.repetitions}",
    s!"  {summary.trailCount} trail(s), {summary.cycleCount} cycle(s), " ++
      s!"{summary.scenarioCount} scenario(s), longest {summary.longestScenario} step(s)"]
    ++ answer.scenarios.flatMap scenarioLines

/-! ## Checks -/

structure CheckAnswer where
  /-- The identifier of the document. -/
  id : String
  repetitions : Nat
  scenarioCount : Nat
  /-- The number of steps of all scenarios together. -/
  stepCount : Nat
deriving DecidableEq

def checkAnswer (files : Files) (path : String) (repetitions : Nat) :
    Except Failure CheckAnswer := do
  let (document, graph) ← loadGraph files path
  let suite ← (graph.planSuite repetitions).mapError .graphInvalid
  .ok ⟨document.id, repetitions, suite.scenarios.length, suite.stepCount⟩

def CheckAnswer.toJson (answer : CheckAnswer) : Json :=
  .obj
    [("id", .str answer.id), ("ok", .bool true), ("repeat", .ofNat answer.repetitions),
      ("scenarios", .ofNat answer.scenarioCount), ("steps", .ofNat answer.stepCount)]

def CheckAnswer.line (answer : CheckAnswer) : String :=
  s!"ok: '{answer.id}' compiles to {answer.scenarioCount} scenario(s), " ++
    s!"{answer.stepCount} step(s) (repeat {answer.repetitions})"

/-! ## Validation -/

/-- The violations of the rules on documents, as texts in order.  Which rule is tried first
is left to the validator, so its order of violations means nothing; sorted, the report
depends on the document alone.  A text stands in it as often as it is found. -/
def violationTexts (files : Files) (path : String) : Except Failure (List String) := do
  let json ← readJson files path
  .ok (((Document.violations json).map Schema.Violation.message).mergeSort fun a b => a ≤ b)

end ScenarioGraph.CommandLine
