/-
# ScenarioGraph.Proofs.CommandLine.Consistency -- plans and checks agree

The tasks `plan` and `check` come to their suites in different ways: one enumerates trails
and cycles for its report and plans the scenarios found, the other plans at once.  On the
same file with the same options they fail alike, and a check counts what a plan lists.

* `Alike`: two attempts that fail for one cause, or succeed with answers that belong together.
* `answers_alike`: the attempts of plan and check are such, with one suite behind both.
* `Counts`: what it means for the JSON values that both write.
* `plan_check_agree`: what this says about runs.
-/
import ScenarioGraph.Proofs.CommandLine.Invocation
import ScenarioGraph.Proofs.Plan.FirstAmbiguity
import ScenarioGraph.Proofs.Scenario.Coverage

namespace ScenarioGraph.CommandLine

set_option autoImplicit false

variable {files : Files} {path : String}

/-! ## Two attempts -/

/-- Both attempts fail for the same cause, or both succeed and their answers belong together. -/
inductive Alike {α β : Type} (together : α → β → Prop) :
    Except Failure α → Except Failure β → Prop where
  | failed (cause : Failure) : Alike together (.error cause) (.error cause)
  | answered {a : α} {b : β} (pair : together a b) : Alike together (.ok a) (.ok b)

theorem Alike.bind {α β γ : Type} {together : α → β → Prop} {first : Except Failure γ}
    {next : γ → Except Failure α} {next' : γ → Except Failure β}
    (rest : ∀ c, first = .ok c → Alike together (next c) (next' c)) :
    Alike together (first >>= next) (first >>= next') := by
  cases first with
  | error cause => exact .failed cause
  | ok c => exact rest c rfl

/-! ## Answers -/

/-- The numbers of steps of the scenarios, in order. -/
def PlanAnswer.stepCounts (plan : PlanAnswer) : List Nat :=
  plan.scenarios.map fun outline => outline.steps.length

/-- The counts of a check, and of the summary of a plan, are those of the scenarios listed. -/
structure PlanAnswer.Agrees (plan : PlanAnswer) (check : CheckAnswer) : Prop where
  listed : plan.overview.summary.scenarioCount = plan.stepCounts.length
  longest : plan.stepCounts.max? = some plan.overview.summary.longestScenario
  scenarios : check.scenarioCount = plan.stepCounts.length
  steps : check.stepCount = total plan.stepCounts

theorem built_of_loadGraph {document : Document} {graph : Graph Unit}
    (loaded : loadGraph files path = .ok (document, graph)) :
    document.declaration.build = .ok graph := by
  obtain ⟨json, -, loaded⟩ := bind_eq_ok_iff.1 loaded
  obtain ⟨document, -, loaded⟩ := bind_eq_ok_iff.1 loaded
  obtain ⟨graph, built, loaded⟩ := bind_eq_ok_iff.1 loaded
  cases loaded
  exact mapError_eq_ok_iff.1 built

theorem stepCounts_outline (suite : Suite Unit) :
    (suite.outline.map fun outline => outline.steps.length) =
      suite.scenarios.map fun planned => planned.steps.length := by
  rw [Suite.outline, List.map_map]
  apply List.map_congr_left
  intro planned _
  exact List.length_map ..

/-- A planned suite has a step for each node of each scenario. -/
theorem stepCounts_eq {g : Graph Unit} {repetitions : Nat} {scenarios : List Scenario}
    {suite : Suite Unit} (planned : g.planScenarios repetitions scenarios = .ok suite) :
    (suite.scenarios.map fun planned => planned.steps.length) =
      scenarios.map fun scenario => scenario.nodes.length := by
  obtain ⟨-, rfl, steps⟩ := Graph.planScenarios_eq_ok planned
  rw [List.map_map]
  apply List.map_congr_left
  intro planned member
  show planned.steps.length = planned.scenario.nodes.length
  rw [← steps planned member, List.length_map]

/-- There is always a scenario, the start node alone at least. -/
theorem nameScenarios_sequences_ne_nil (g : Graph Unit) (start : Name) (repetitions : Nat) :
    nameScenarios (g.sequences start repetitions) ≠ [] := by
  intro none
  have sequences := map_nodes_nameScenarios (g.sequences start repetitions)
  rw [none] at sequences
  exact g.sequences_ne_nil start repetitions sequences.symm

theorem max?_eq_foldl {counts : List Nat} (nonempty : counts ≠ []) :
    counts.max? = some (counts.foldl max 0) := by
  rw [List.foldl_max]
  cases found : counts.max? with
  | none => exact absurd (List.max?_eq_none_iff.1 found) nonempty
  | some longest => rw [Option.getD_some, Nat.zero_max]

/-- Plan and check answer alike, since the suite of both is planned from the same scenarios. -/
theorem answers_alike (files : Files) (path : String) (repetitions : Nat) :
    Alike PlanAnswer.Agrees (planAnswer files path repetitions)
      (checkAnswer files path repetitions) := by
  unfold planAnswer checkAnswer
  apply Alike.bind
  rintro ⟨document, graph⟩ loaded
  have wf := wellFormed_of_build (built_of_loadGraph loaded)
  dsimp only
  rw [Graph.overview_eq_ok wf.start_mem, Graph.planSuite_eq wf.start_mem, mapError_ok, ok_bind]
  apply Alike.bind
  intro suite planned
  have nonempty := nameScenarios_sequences_ne_nil graph graph.start repetitions
  have counted := stepCounts_eq (mapError_eq_ok_iff.1 planned)
  have listed := (stepCounts_outline suite).trans counted
  refine .answered ⟨?_, ?_, ?_, ?_⟩
  all_goals unfold PlanAnswer.stepCounts
  · rw [listed, List.length_map]
    rfl
  · rw [listed, max?_eq_foldl fun none => nonempty (List.map_eq_nil_iff.1 none)]
    rfl
  · rw [List.length_map, Suite.outline, List.length_map]
  · rw [stepCounts_outline]
    rfl

/-! ## Values -/

/-- The number of steps in the value of a scenario. -/
def stepsOf? (scenario : Json) : Option Nat := do
  let steps ← (← scenario.get? "steps").asArray?
  some steps.length

/-- The numbers of steps of the scenarios that the value of a plan lists. -/
def listedSteps? (plan : Json) : Option (List Nat) := do
  let scenarios ← (← plan.get? "scenarios").asArray?
  scenarios.mapM stepsOf?

/-- The value of a check counts the scenarios and steps that the value of a plan lists, and so
does its summary. -/
def Counts (plan check : Json) : Prop :=
  ∃ counts summary longest, listedSteps? plan = some counts ∧ plan.get? "summary" = some summary ∧
    summary.get? "scenario_count" = some (.ofNat counts.length) ∧
    counts.max? = some longest ∧ summary.get? "longest_scenario" = some (.ofNat longest) ∧
    check.get? "scenarios" = some (.ofNat counts.length) ∧
    check.get? "steps" = some (.ofNat (total counts))

theorem listedSteps?_toJson (plan : PlanAnswer) :
    listedSteps? plan.toJson = some plan.stepCounts := by
  have each : stepsOf? ∘ ScenarioOutline.toJson = fun outline => pure outline.steps.length := by
    funext outline
    show some (outline.steps.map StepOutline.toJson).length = some outline.steps.length
    rw [List.length_map]
  show (plan.scenarios.map ScenarioOutline.toJson).mapM stepsOf? = some plan.stepCounts
  rw [List.mapM_map, each]
  exact List.mapM_pure

theorem PlanAnswer.Agrees.counts {plan : PlanAnswer} {check : CheckAnswer}
    (agrees : plan.Agrees check) : Counts plan.toJson check.toJson := by
  refine ⟨plan.stepCounts, plan.overview.summary.toJson, _, listedSteps?_toJson plan, ?_, ?_,
    agrees.longest, ?_, ?_, ?_⟩
  · rfl
  · rw [← agrees.listed]
    rfl
  · rfl
  · rw [← agrees.scenarios]
    rfl
  · rw [← agrees.steps]
    rfl

/-! ## Runs -/

/-- The outcomes of a plan and of a check that go together: the same failure, or two answers
that agree wherever their values are written. -/
def Outcome.Consistent (planned checked : Outcome) (written : Prop) : Prop :=
  (planned.code ≠ 0 ∧ planned = checked) ∨
    planned.code = 0 ∧ checked.code = 0 ∧
      (written → ∃ plan check : Json, planned.output = unlines [plan.pretty] ∧
        checked.output = unlines [check.compact] ∧ Counts plan check)

theorem consistent_runPlan (files : Files) (format : OutputFormat) (quiet : Bool) (path : String)
    (repetitions : Nat) :
    (runPlan files format quiet path repetitions).Consistent
      (runCheck files format quiet path repetitions) (quiet = false ∧ format = .json) := by
  have alike := answers_alike files path repetitions
  unfold runPlan runCheck
  generalize planAnswer files path repetitions = answer at *
  generalize checkAnswer files path repetitions = answer' at *
  cases alike with
  | failed cause => exact Or.inl ⟨Nat.one_ne_zero, rfl⟩
  | @answered plan check agrees =>
      refine Or.inr ⟨rfl, rfl, ?_⟩
      rintro ⟨rfl, rfl⟩
      exact ⟨plan.toJson, check.toJson, rfl, rfl, agrees.counts⟩

theorem consistent_run (explain : Explainer) (files : Files) (options : Options) (path : String)
    (given : Option Nat) :
    (Invocation.run explain files ⟨options, .plan path given⟩).Consistent
      (Invocation.run explain files ⟨options, .check path given⟩)
      (options.quiet = false ∧ options.WritesIn explain files .json) := by
  unfold Invocation.run
  dsimp only
  cases found : findSettings explain files options.config with
  | error cause => exact Or.inl ⟨Nat.one_ne_zero, rfl⟩
  | ok settings =>
      have consistent := consistent_runPlan files ((options.output <|> settings.output).getD .text)
        options.quiet path ((given <|> settings.repetitions).getD 0)
      refine consistent.imp_right fun ⟨done, doneToo, agree⟩ => ⟨done, doneToo, ?_⟩
      rintro ⟨loud, settings', found', format⟩
      obtain rfl := Except.ok.inj (found.symm.trans found')
      exact agree ⟨loud, format⟩

/-- After their names, plan and check take the same words, and refuse the same for one cause. -/
theorem invocation_plan_check (before : Options) (words : List Word) :
    (∃ options path given, invocation before "plan" words = .ok ⟨options, .plan path given⟩ ∧
        invocation before "check" words = .ok ⟨options, .check path given⟩) ∨
      ∃ stop, invocation before "plan" words = .error stop ∧
        invocation before "check" words = .error stop := by
  unfold invocation
  cases readTask true .empty words with
  | error stop => exact Or.inr ⟨stop, rfl, rfl⟩
  | ok given =>
      cases found : given.path with
      | none => exact Or.inr ⟨.misuse .noGraph, by simp [found, misused], by simp [found, misused]⟩
      | some path =>
          exact Or.inl ⟨before.join given.options, path, given.repetitions, by simp [found],
            by simp [found]⟩

/-- **Plan and check agree.**  What follows their names on the command line is read alike.  On
the same file with the same options, both end with the same exit code, and with the same
outcome if they fail.  If they succeed, the JSON values that they write agree: the check
counts the scenarios and the steps that the plan lists, and the summary of the plan counts
the scenarios and the steps of the longest one. -/
theorem plan_check_agree (explain : Explainer) (files : Files) :
    (∀ before words,
      (∃ options path given, invocation before "plan" words = .ok ⟨options, .plan path given⟩ ∧
          invocation before "check" words = .ok ⟨options, .check path given⟩) ∨
        ∃ stop, invocation before "plan" words = .error stop ∧
          invocation before "check" words = .error stop) ∧
      ∀ options path given,
        let planned := Invocation.run explain files ⟨options, .plan path given⟩
        let checked := Invocation.run explain files ⟨options, .check path given⟩
        planned.code = checked.code ∧ (planned.code ≠ 0 → planned = checked) ∧
          (planned.code = 0 → options.quiet = false → options.WritesIn explain files .json →
            ∃ plan check : Json, planned.output = unlines [plan.pretty] ∧
              checked.output = unlines [check.compact] ∧ Counts plan check) := by
  refine ⟨invocation_plan_check, fun options path given => ?_⟩
  intro planned checked
  rcases consistent_run explain files options path given with ⟨failed, same⟩ | ⟨done, doneToo, agree⟩
  · refine ⟨congrArg Outcome.code same, fun _ => same, ?_⟩
    intro done
    exact absurd done failed
  · refine ⟨done.trans doneToo.symm, fun failed => absurd done failed, ?_⟩
    intro _ loud written
    exact agree ⟨loud, written⟩

/-- A file with a document of one node, which follows itself. -/
def lampFiles : Files where
  read path :=
    if path = "lamp.json" then
      .ok ("\x7b\"id\":\"lamp\",\"nodes\":[\x7b\"name\":\"On\",\"predecessors\":[\"On\"]\x7d]," ++
        "\"start\":\"On\",\"trellis\":\"1.0\"\x7d").toUTF8
    else .error .missing
  isFile path := path = "lamp.json"

/-- Both tasks plan the document, and what they write agrees. -/
theorem lamp_plan_check_agree :
    let options : Options := ⟨some .json, false, none⟩
    let planned := Invocation.run unexplained lampFiles ⟨options, .plan "lamp.json" (some 2)⟩
    let checked := Invocation.run unexplained lampFiles ⟨options, .check "lamp.json" (some 2)⟩
    planned.code = 0 ∧ checked.code = 0 ∧ ∃ plan check : Json,
      planned.output = unlines [plan.pretty] ∧ checked.output = unlines [check.compact] ∧
        Counts plan check := by
  intro options planned checked
  have done : planned.code = 0 := by decide +kernel
  have settings : findSettings unexplained lampFiles none = .ok .empty := by decide +kernel
  obtain ⟨same, -, agree⟩ := (plan_check_agree unexplained lampFiles).2 options "lamp.json" (some 2)
  exact ⟨done, same.symm.trans done, agree done rfl ⟨.empty, settings, rfl⟩⟩

end ScenarioGraph.CommandLine
