/-
# ScenarioGraph.Proofs.CommandLine.Invocation -- invocations and how they end

What an invocation is read from, and what becomes of its run when it is quiet.  To be quiet
is to write nothing, and to end with the same exit code.  Answers and causes of failure
keep to this in every task.  Violations keep to it as text; as JSON they are written all
the same.

* `invocation_eq_ok_iff`: the words that make an invocation of a task.
* `findSettings_eq_error_iff`: the files for which settings fail.
* `Options.WritesIn`: the format that options and settings come to.
* `Invocation.ReportsInJson`: the runs that do not keep quiet.
* `Invocation.run_quieted`: a quiet run is the silenced run, but for these.
-/
import ScenarioGraph.CommandLine.Run
import ScenarioGraph.Proofs.Attempt

namespace ScenarioGraph.CommandLine

set_option autoImplicit false

variable {explain : Explainer} {files : Files} {path : String}

/-! ## Reading -/

/-- The task of a name, and whether it has repetitions. -/
def namedTask? : String → Option (Bool × (String → Option Nat → Task))
  | "plan" => some (true, .plan)
  | "check" => some (true, .check)
  | "validate" => some (false, fun path _ => .validate path)
  | _ => none

/-- An invocation is read from its name and from one path at least among the words after it. -/
theorem invocation_eq_ok_iff {before : Options} {name : String} {rest : List Word}
    {made : Invocation} :
    invocation before name rest = .ok made ↔
      ∃ repeats task, namedTask? name = some (repeats, task) ∧
        ∃ given, readTask repeats .empty rest = .ok given ∧ ∃ path, given.path = some path ∧
          made = ⟨before.join given.options, task path given.repetitions⟩ := by
  unfold invocation namedTask?
  split
  case h_4 => simp
  case h_5 => simp [misused]
  all_goals
    simp only [Option.some.injEq, Prod.mk.injEq, and_assoc, exists_and_left, exists_eq_left']
    rw [bind_eq_ok_iff]
    refine exists_congr fun given => and_congr_right fun _ => ?_
    cases given.path <;> simp [misused, eq_comm]

/-! ## Options -/

/-- Settings fail for the file named, or for the default file that is there.  A file that is
there and cannot be read is not passed over. -/
theorem findSettings_eq_error_iff {config : Option String} {cause : Failure} :
    findSettings explain files config = .error cause ↔
      ∃ path, (config = some path ∨
          config = none ∧ path = defaultSettingsPath ∧ files.isFile path = true) ∧
        readSettings explain files path = .error cause := by
  unfold findSettings
  cases config with
  | some path => simp
  | none =>
      by_cases there : files.isFile defaultSettingsPath = true <;> simp [there]

/-- The settings can be read, and with them the format is this one. -/
def Options.WritesIn (options : Options) (explain : Explainer) (files : Files)
    (format : OutputFormat) : Prop :=
  ∃ settings, findSettings explain files options.config = .ok settings ∧
    (options.output <|> settings.output).getD .text = format

def Options.quieted (options : Options) : Options := { options with quiet := true }

def Invocation.quieted (invocation : Invocation) : Invocation :=
  { invocation with options := invocation.options.quieted }

/-! ## Outcomes -/

/-- The same end with nothing written. -/
def Outcome.silenced (outcome : Outcome) : Outcome := ⟨outcome.code, "", ""⟩

theorem Outcome.ofAnswer_quiet {α : Type} (format : OutputFormat) (quiet : Bool)
    (lines : α → List String) (answer : Except Failure α) :
    ofAnswer format true lines answer = (ofAnswer format quiet lines answer).silenced := by
  cases answer <;> rfl

/-- A line has its end, at least. -/
theorem unlines_singleton_ne_empty (line : String) : unlines [line] ≠ "" := by
  intro empty
  have ended : ("" ++ (line ++ "\n")) = "" := empty
  rw [String.append_eq_empty_iff, String.append_eq_empty_iff] at ended
  exact absurd ended.2.2 (by decide)

/-! ## Validation -/

/-- Without violations to report, or with text to report them in, validation keeps quiet. -/
theorem runValidate_quiet {format : OutputFormat} (quiet : Bool)
    (textual : ∀ texts, violationTexts files path = .ok texts → texts ≠ [] → format = .text) :
    runValidate files format true path = (runValidate files format quiet path).silenced := by
  unfold runValidate
  cases found : violationTexts files path with
  | error cause => rfl
  | ok texts =>
      cases texts with
      | nil => rfl
      | cons first rest =>
          obtain rfl := textual _ found (List.cons_ne_nil _ _)
          rfl

/-- Violations are reported in JSON whether or not the run is quiet. -/
theorem runValidate_json {texts : List String} (found : violationTexts files path = .ok texts)
    (nonempty : texts ≠ []) (quiet : Bool) :
    runValidate files .json true path = runValidate files .json quiet path ∧
      (runValidate files .json quiet path).code = 1 ∧
      (runValidate files .json quiet path).output = "" ∧
      (runValidate files .json quiet path).errors ≠ "" := by
  unfold runValidate
  rw [found]
  cases texts with
  | nil => exact absurd rfl nonempty
  | cons first rest => exact ⟨rfl, rfl, rfl, unlines_singleton_ne_empty _⟩

theorem exists_violationTexts_iff :
    (∃ texts, violationTexts files path = .ok texts ∧ texts ≠ []) ↔
      ∃ json, readJson files path = .ok json ∧ Document.violations json ≠ [] := by
  simp [violationTexts, bind_eq_ok_iff, ← List.length_eq_zero_iff]

/-! ## Runs -/

/-- The run finds violations and reports them in JSON. -/
def Invocation.ReportsInJson (invocation : Invocation) (explain : Explainer) (files : Files) :
    Prop :=
  ∃ path, invocation.task = .validate path ∧ invocation.options.WritesIn explain files .json ∧
    ∃ texts, violationTexts files path = .ok texts ∧ texts ≠ []

theorem Invocation.run_of_reportsInJson {invocation : Invocation}
    (reports : invocation.ReportsInJson explain files) :
    invocation.quieted.run explain files = invocation.run explain files ∧
      (invocation.run explain files).code = 1 ∧ (invocation.run explain files).output = "" ∧
      (invocation.run explain files).errors ≠ "" := by
  obtain ⟨⟨output, quiet, config⟩, task⟩ := invocation
  obtain ⟨path, rfl, ⟨settings, found, format⟩, texts, violated, nonempty⟩ := reports
  unfold run quieted Options.quieted
  dsimp only at found format ⊢
  rw [found]
  dsimp only
  rw [format]
  exact runValidate_json violated nonempty quiet

/-- A quiet run ends with the same exit code and writes nothing, unless it reports in JSON. -/
theorem Invocation.run_quieted {invocation : Invocation}
    (keeps : ¬ invocation.ReportsInJson explain files) :
    invocation.quieted.run explain files = (invocation.run explain files).silenced := by
  obtain ⟨⟨output, quiet, config⟩, task⟩ := invocation
  unfold run quieted Options.quieted
  dsimp only
  cases found : findSettings explain files config with
  | error cause => rfl
  | ok settings =>
      cases task with
      | plan path given => exact Outcome.ofAnswer_quiet _ quiet _ _
      | check path given => exact Outcome.ofAnswer_quiet _ quiet _ _
      | validate path =>
          apply runValidate_quiet quiet
          intro texts violated nonempty
          cases format : (output <|> settings.output).getD .text with
          | text => rfl
          | json =>
              exact absurd ⟨path, rfl, ⟨settings, found, format⟩, texts, violated, nonempty⟩ keeps

end ScenarioGraph.CommandLine
