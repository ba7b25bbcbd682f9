/-
# ScenarioGraph.CommandLine.Run -- running an invocation

`Invocation.run` gives the exit code and the two output texts of an invocation.
Settings are read before the graph document; options override them.  Answers go
to the output, failures to the error output, each in the format that is set.
When quiet, nothing is written, but for the violations of a document in JSON.
What is said about invalid settings is a parameter.
-/
import ScenarioGraph.CommandLine.Answer
import ScenarioGraph.CommandLine.Arguments

namespace ScenarioGraph.CommandLine

set_option autoImplicit false

/-- The end of a run. -/
structure Outcome where
  code : Nat
  output : String
  errors : String
deriving DecidableEq

/-- Lines with their ends. -/
def unlines (lines : List String) : String := String.join (lines.map fun line => line ++ "\n")

namespace Outcome

/-- A run that worked, with the lines it writes. -/
def success (lines : List String) : Outcome := ⟨0, unlines lines, ""⟩

def failure (format : OutputFormat) (quiet : Bool) (cause : Failure) : Outcome :=
  let line := match format with
    | .text => cause.message
    | .json => (Json.obj [("error", .str cause.message)]).compact
  ⟨1, "", if quiet then "" else unlines [line]⟩

/-- A run that found violations. -/
def violations (format : OutputFormat) (quiet : Bool) (texts : List String) : Outcome :=
  match format with
  | .text =>
      let lines := "invalid graph document" :: texts.map fun text => "  - " ++ text
      ⟨1, "", if quiet then "" else unlines lines⟩
  | .json =>
      let report := Json.obj [("errors", .ofStrings texts), ("valid", .bool false)]
      ⟨1, "", unlines [report.pretty]⟩

/-- The outcome of an answer or of its failure.  When quiet, the lines of the answer are
not even made. -/
def ofAnswer {α : Type} (format : OutputFormat) (quiet : Bool) (lines : α → List String) :
    Except Failure α → Outcome
  | .ok answer => success (if quiet then [] else lines answer)
  | .error cause => failure format quiet cause

end Outcome

/-! ## Tasks -/

def runPlan (files : Files) (format : OutputFormat) (quiet : Bool) (path : String)
    (repetitions : Nat) : Outcome :=
  let lines (answer : PlanAnswer) : List String := match format with
    | .text => answer.lines
    | .json => [answer.toJson.pretty]
  .ofAnswer format quiet lines (planAnswer files path repetitions)

def runCheck (files : Files) (format : OutputFormat) (quiet : Bool) (path : String)
    (repetitions : Nat) : Outcome :=
  let lines (answer : CheckAnswer) : List String := match format with
    | .text => [answer.line]
    | .json => [answer.toJson.compact]
  .ofAnswer format quiet lines (checkAnswer files path repetitions)

def runValidate (files : Files) (format : OutputFormat) (quiet : Bool) (path : String) :
    Outcome :=
  match violationTexts files path with
  | .error cause => .failure format quiet cause
  | .ok [] =>
      let line := match format with
        | .text => "valid"
        | .json => (Json.obj [("valid", .bool true)]).compact
      .success (if quiet then [] else [line])
  | .ok texts => .violations format quiet texts

/-! ## Invocations -/

/-- Run a task; settings fill in what the options leave open. -/
def Invocation.run (explain : Explainer) (files : Files) (invocation : Invocation) : Outcome :=
  let options := invocation.options
  match findSettings explain files options.config with
  | .error cause => .failure (options.output.getD .text) options.quiet cause
  | .ok settings =>
      let format := (options.output <|> settings.output).getD .text
      let repetitions (given : Option Nat) : Nat := (given <|> settings.repetitions).getD 0
      match invocation.task with
      | .plan path given => runPlan files format options.quiet path (repetitions given)
      | .check path given => runCheck files format options.quiet path (repetitions given)
      | .validate path => runValidate files format options.quiet path

/-- The paths that a run looks at. -/
def Invocation.paths (invocation : Invocation) : List String :=
  let graph := match invocation.task with
    | .plan path _ | .check path _ | .validate path => path
  [invocation.options.config.getD defaultSettingsPath, graph]

/-! ## No invocation -/

def usage : List String :=
  ["Usage: trellis [OPTIONS] <COMMAND>", "",
    "Commands:",
    "  plan <GRAPH> [--repeat <N>]   List every scenario of a graph with its steps",
    "  check <GRAPH> [--repeat <N>]  Compile every scenario and report configuration errors",
    "  validate <GRAPH>              Validate a graph document",
    "  help                          Print this text", "",
    "Options:",
    "  --output <text|json>  Output format [default: text]",
    "  --quiet               Suppress non-essential output",
    "  --config <PATH>       Path to a trellis.toml configuration file",
    "  -h, --help            Print this text",
    "  -V, --version         Print the version"]

/-- The outcome when there is nothing to do. -/
def Stop.outcome : Stop → Outcome
  | .help => ⟨0, unlines usage, ""⟩
  | .version => ⟨0, unlines ["trellis 0.1.0"], ""⟩
  | .misuse cause => ⟨2, "", unlines (("error: " ++ cause.message) :: "" :: usage)⟩

/-- What comes of the arguments. -/
def outcomeWith (explain : Explainer) (files : Files) (arguments : List String) : Outcome :=
  match Invocation.ofArguments arguments with
  | .ok invocation => invocation.run explain files
  | .error stop => stop.outcome

/-- What comes of the arguments when invalid settings are not explained. -/
def outcomeOf : Files → List String → Outcome := outcomeWith unexplained

end ScenarioGraph.CommandLine
