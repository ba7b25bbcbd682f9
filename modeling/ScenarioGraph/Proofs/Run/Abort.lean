/-
# ScenarioGraph.Proofs.Run.Abort -- a run ends at its first failing action

A run has an index `f`.  Of the steps before it everything is called, of the step at it
only the action, which fails, and of the steps after it nothing; if `f` is the number
of steps, no action failed.  `StopsAt` says so of the calls and the outcomes together:
what was called, step by step, and what is reported of it.

* `StopsAt.completed`, `StopsAt.failed`: one more step at the front of a run;
  `StopsAt.cons_cases` takes it off again.
* `StopsFrom.cons`: what becomes of a step, by how the call of its action ends.
* `runScenario_stops`: every run of a scenario stops somewhere, whatever the calls do.
-/
import ScenarioGraph.Proofs.Run.Record
import Mathlib.Data.List.Forall2

namespace ScenarioGraph

set_option autoImplicit false

variable {κ σ : Type}

/-! ## Single steps -/

/-- The outcome has the place, the node, the labels and the checks of the step. -/
structure Step.Reports (step : Step κ) (outcome : StepOutcome) : Prop where
  position : outcome.position = step.position
  node : outcome.node = step.node
  label : outcome.label = step.label
  input : outcome.input = step.input.map ChosenInput.label
  checks : outcome.checks.map CheckOutcome.name = step.checks.map ChosenCheck.name

/-- The call of an action that does not fail, and its report. -/
inductive Step.Acts (step : Step κ) : List (Call κ) → ActionOutcome → Prop
  | absent (none : step.input = none) : step.Acts [] .absent
  | passed {input : ChosenInput κ} (chosen : step.input = some input) :
      step.Acts [⟨input.action, .done⟩] .passed

/-- The action, if there is one, and then every check was called and is reported. -/
def Step.Completes (step : Step κ) (calls : List (Call κ)) (outcome : StepOutcome) : Prop :=
  ∃ acted checked, calls = acted ++ checked ∧ step.Acts acted outcome.action ∧
    ReportedBy step.checks checked outcome.checks

/-- Only the action was called, and it failed; the checks are skipped. -/
def Step.Fails (step : Step κ) (calls : List (Call κ)) (outcome : StepOutcome)
    (reason : String) : Prop :=
  ∃ input result detail, step.input = some input ∧ calls = [⟨input.action, result⟩] ∧
    result.failure? = some detail ∧ outcome.action = .failed detail ∧
    (∀ check ∈ outcome.checks, check.status = .skipped reason) ∧
    reason = "input '" ++ input.label ++ "' of step " ++ step.label ++ " failed"

/-- Nothing of the step ran. -/
structure StepOutcome.SkippedFor (outcome : StepOutcome) (reason : String) : Prop where
  action : outcome.action = .skipped reason
  checks : ∀ check ∈ outcome.checks, check.status = .skipped reason

namespace Step

variable (step : Step κ)

theorem reports_outcome (action : ActionOutcome) {checks : List CheckOutcome}
    (names : checks.map CheckOutcome.name = step.checks.map ChosenCheck.name) :
    step.Reports (step.outcome action checks) :=
  ⟨rfl, rfl, rfl, rfl, names⟩

theorem names_skippedChecks (reason : String) :
    (step.skippedChecks reason).map CheckOutcome.name = step.checks.map ChosenCheck.name := by
  rw [skippedChecks, List.map_map]
  rfl

theorem status_of_mem_skippedChecks {reason : String} {check : CheckOutcome}
    (member : check ∈ step.skippedChecks reason) : check.status = .skipped reason := by
  obtain ⟨chosen, -, rfl⟩ := List.mem_map.1 member
  rfl

theorem reports_skipped (reason : String) : step.Reports (step.skipped reason) :=
  step.reports_outcome _ (step.names_skippedChecks reason)

theorem skippedFor_skipped (reason : String) : (step.skipped reason).SkippedFor reason :=
  ⟨rfl, fun _ member => step.status_of_mem_skippedChecks member⟩

variable {step}

theorem Acts.completes {acted checked : List (Call κ)} {action : ActionOutcome}
    {checks : List CheckOutcome} (acts : step.Acts acted action)
    (reported : ReportedBy step.checks checked checks) :
    step.Completes (acted ++ checked) (step.outcome action checks) :=
  ⟨acted, checked, rfl, acts, reported⟩

theorem fails_of_failure {input : ChosenInput κ} {result : CallResult} {detail : String}
    (chosen : step.input = some input) (failure : result.failure? = some detail) :
    step.Fails [⟨input.action, result⟩]
      (step.outcome (.failed detail) (step.skippedChecks (step.abortReason input)))
      (step.abortReason input) :=
  ⟨input, result, detail, chosen, rfl, failure, rfl,
    fun _ member => step.status_of_mem_skippedChecks member, rfl⟩

end Step

/-! ## Runs -/

/-- The run of `steps` gets through the first `f` and no further: `segments` are the calls
of those, one list for each step, `last` is the call that made it stop, if one did. -/
structure StopsAt (steps : List (Step κ)) (f : Nat) (segments : List (List (Call κ)))
    (last : List (Call κ)) (outcomes : List StepOutcome) : Prop where
  le_length : f ≤ steps.length
  length_segments : segments.length = f
  reports : List.Forall₂ Step.Reports steps outcomes
  before : ∀ i < f, ∃ step calls outcome, steps[i]? = some step ∧ segments[i]? = some calls ∧
    outcomes[i]? = some outcome ∧ step.Completes calls outcome
  at_end : f = steps.length → last = []
  inside : f < steps.length → ∃ step outcome reason, steps[f]? = some step ∧
    outcomes[f]? = some outcome ∧ step.Fails last outcome reason ∧
    ∀ i later, f < i → outcomes[i]? = some later → later.SkippedFor reason

namespace StopsAt

variable {step : Step κ} {rest : List (Step κ)} {outcome : StepOutcome}

theorem nil : StopsAt ([] : List (Step κ)) 0 [] [] [] where
  le_length := Nat.le_refl 0
  length_segments := rfl
  reports := .nil
  before i early := absurd early (Nat.not_lt_zero i)
  at_end _ := rfl
  inside early := absurd early (Nat.not_lt_zero 0)

/-- A step that completes moves the place where the run stops one further. -/
theorem completed {f : Nat} {segments : List (List (Call κ))} {last calls : List (Call κ)}
    {outcomes : List StepOutcome} (reported : step.Reports outcome)
    (completes : step.Completes calls outcome) (stops : StopsAt rest f segments last outcomes) :
    StopsAt (step :: rest) (f + 1) (calls :: segments) last (outcome :: outcomes) where
  le_length := Nat.succ_le_succ stops.le_length
  length_segments := congrArg (· + 1) stops.length_segments
  reports := .cons reported stops.reports
  before i early := by
    cases i with
    | zero => exact ⟨step, calls, outcome, rfl, rfl, rfl, completes⟩
    | succ i => exact stops.before i (Nat.lt_of_succ_lt_succ early)
  at_end ended := stops.at_end (Nat.succ.inj ended)
  inside early := by
    obtain ⟨failing, report, reason, found, reported, fails, skipped⟩ :=
      stops.inside (Nat.lt_of_succ_lt_succ early)
    refine ⟨failing, report, reason, found, reported, fails, fun i later beyond isLater => ?_⟩
    cases i with
    | zero => exact absurd beyond (Nat.not_lt_zero _)
    | succ i => exact skipped i later (Nat.lt_of_succ_lt_succ beyond) isLater

/-- A step that fails is where the run stops. -/
theorem failed {last : List (Call κ)} {reason : String} (reported : step.Reports outcome)
    (fails : step.Fails last outcome reason) :
    StopsAt (step :: rest) 0 [] last (outcome :: rest.map (·.skipped reason)) where
  le_length := Nat.zero_le _
  length_segments := rfl
  reports := by
    refine .cons reported ?_
    rw [List.forall₂_map_right_iff, List.forall₂_same]
    exact fun later _ => later.reports_skipped reason
  before i early := absurd early (Nat.not_lt_zero i)
  at_end ended := absurd ended (Nat.succ_ne_zero _).symm
  inside _ := by
    refine ⟨step, outcome, reason, rfl, rfl, fails, fun i later beyond isLater => ?_⟩
    obtain ⟨i, rfl⟩ := Nat.exists_eq_succ_of_ne_zero (Nat.pos_iff_ne_zero.1 beyond)
    rw [List.getElem?_cons_succ] at isLater
    obtain ⟨skipped, -, rfl⟩ := List.mem_map.1 (List.mem_of_getElem? isLater)
    exact skipped.skippedFor_skipped reason

/-- A run of some steps fails at the first of them, or completes it and goes on with the
run of the others. -/
theorem cons_cases {f : Nat} {segments : List (List (Call κ))} {last : List (Call κ)}
    {outcomes : List StepOutcome} (stops : StopsAt (step :: rest) f segments last outcomes) :
    (∃ outcome others reason, segments = [] ∧ outcomes = outcome :: others ∧
      step.Fails last outcome reason ∧ ∀ later ∈ others, later.SkippedFor reason) ∨
    ∃ n calls later outcome others, segments = calls :: later ∧ outcomes = outcome :: others ∧
      step.Completes calls outcome ∧ StopsAt rest n later last others := by
  obtain ⟨outcome, others, -, reports, rfl⟩ := List.forall₂_cons_left_iff.1 stops.reports
  cases f with
  | zero =>
      obtain ⟨failing, report, reason, isStep, isOutcome, fails, skipped⟩ :=
        stops.inside (Nat.succ_pos rest.length)
      obtain rfl := Option.some.inj isStep
      obtain rfl := Option.some.inj isOutcome
      refine Or.inl ⟨outcome, others, reason, List.length_eq_zero_iff.1 stops.length_segments,
        rfl, fails, fun later member => ?_⟩
      obtain ⟨i, found⟩ := List.mem_iff_getElem?.1 member
      exact skipped (i + 1) later (Nat.succ_pos i) found
  | succ n =>
      obtain ⟨calls, later, rfl⟩ := List.exists_cons_of_length_eq_add_one stops.length_segments
      obtain ⟨first, made, report, isStep, isCalls, isOutcome, completes⟩ :=
        stops.before 0 (Nat.succ_pos n)
      obtain rfl := Option.some.inj isStep
      obtain rfl := Option.some.inj isCalls
      obtain rfl := Option.some.inj isOutcome
      refine Or.inr ⟨n, calls, later, outcome, others, rfl, rfl, completes, ?_⟩
      exact
        { le_length := Nat.le_of_succ_le_succ stops.le_length
          length_segments := Nat.succ.inj stops.length_segments
          reports
          before := fun i early => stops.before (i + 1) (Nat.succ_lt_succ early)
          at_end := fun ended => stops.at_end (congrArg (· + 1) ended)
          inside := fun early => by
            obtain ⟨failing, report, reason, isStep, isOutcome, fails, skipped⟩ :=
              stops.inside (Nat.succ_lt_succ early)
            exact ⟨failing, report, reason, isStep, isOutcome, fails, fun i later beyond found =>
              skipped (i + 1) later (Nat.succ_lt_succ beyond) found⟩ }

end StopsAt

/-- From `world` the run of the steps stops somewhere, with a log and without. -/
def StopsFrom (call : κ → StateM σ CallResult) (world : σ) (steps : List (Step κ)) : Prop :=
  ∃ f segments last outcomes final,
    Performs (runSteps call steps) (runSteps (recording call) steps) world
      (segments.flatten ++ last) outcomes final ∧
    StopsAt steps f segments last outcomes

section

variable {call : κ → StateM σ CallResult} {step : Step κ} {rest : List (Step κ)}

/-- Once the action of a step is over and has not failed, the checks are called, and then
the run stops where the run of the other steps does. -/
theorem exists_performs_completed {acted : List (Call κ)} {action : ActionOutcome}
    (acts : step.Acts acted action) (stopping : ∀ world, StopsFrom call world rest) (world : σ) :
    ∃ f checked segments last outcomes final,
      Performs
        (do
          let checks ← step.checks.mapM (runCheck call)
          let later ← runSteps call rest
          return step.outcome action checks :: later)
        (do
          let checks ← step.checks.mapM (runCheck (recording call))
          let later ← runSteps (recording call) rest
          return step.outcome action checks :: later)
        world (checked ++ (segments.flatten ++ last)) outcomes final ∧
      StopsAt (step :: rest) f ((acted ++ checked) :: segments) last outcomes := by
  obtain ⟨checked, checks, middle, checking, reported⟩ :=
    exists_performs_checks call step.checks world
  obtain ⟨f, segments, last, outcomes, final, running, stops⟩ := stopping middle
  have reports := step.reports_outcome action reported.names
  exact ⟨f + 1, checked, segments, last, step.outcome action checks :: outcomes, final,
    checking.bind (running.returning (step.outcome action checks :: ·)),
    stops.completed reports (acts.completes reported)⟩

/-- Without an action a step completes; with one, how the call ends decides whether it
completes or the run stops at it. -/
theorem StopsFrom.cons (stopping : ∀ world, StopsFrom call world rest) (world : σ) :
    StopsFrom call world (step :: rest) := by
  unfold StopsFrom runSteps
  cases chosen : step.input with
  | none =>
      obtain ⟨f, checked, segments, last, outcomes, final, running, stops⟩ :=
        exists_performs_completed (Step.Acts.absent chosen) stopping world
      refine ⟨f, checked :: segments, last, outcomes, final, ?_, stops⟩
      rw [List.flatten_cons, List.append_assoc]
      exact running
  | some input =>
      rcases ended : (call input.action).run world with ⟨result, after⟩
      have acting := performs_invoke ended
      cases failure : result.failure? with
      | none =>
          obtain rfl := CallResult.eq_done_of_failure?_eq_none failure
          obtain ⟨f, checked, segments, last, outcomes, final, running, stops⟩ :=
            exists_performs_completed (Step.Acts.passed chosen) stopping after
          refine ⟨f, ([⟨input.action, .done⟩] ++ checked) :: segments, last, outcomes, final, ?_,
            stops⟩
          rw [List.flatten_cons, List.append_assoc, List.append_assoc]
          exact acting.bind running
      | some detail =>
          rw [failure] at acting
          have reports := step.reports_outcome (.failed detail)
            (step.names_skippedChecks (step.abortReason input))
          exact ⟨0, [], [⟨input.action, result⟩], _, after,
            acting.bind (performs_pure _ after),
            .failed reports (Step.fails_of_failure chosen failure)⟩

end

theorem stopsFrom (call : κ → StateM σ CallResult) (world : σ) (steps : List (Step κ)) :
    StopsFrom call world steps := by
  induction steps generalizing world with
  | nil => exact ⟨0, [], [], [], world, performs_pure [] world, .nil⟩
  | cons step rest ih => exact StopsFrom.cons ih world

/-- **A run ends at its first failing action.**  Whatever actions and checks do, and
however they change the world, a run of a scenario has an index at which it stops, and
its calls and outcomes are those `StopsAt` allows. -/
theorem runScenario_stops (call : κ → StateM σ CallResult) (scenario : String)
    (steps : List (Step κ)) (world : σ) :
    ∃ (f : Nat) (segments : List (List (Call κ))) (last : List (Call κ))
        (outcomes : List StepOutcome) (final : σ),
      (runScenario call scenario steps).run world = (⟨scenario, outcomes, none, none⟩, final) ∧
      (runScenario (recording call) scenario steps).run (world, []) =
        (⟨scenario, outcomes, none, none⟩, final, segments.flatten ++ last) ∧
      StopsAt steps f segments last outcomes := by
  obtain ⟨f, segments, last, outcomes, final, performed, stops⟩ :=
    stopsFrom call world steps
  have finished := performed.returning fun outcomes =>
    (⟨scenario, outcomes, none, none⟩ : ScenarioRun)
  exact ⟨f, segments, last, outcomes, final, finished.plain_run, finished.recorded_run [], stops⟩

end ScenarioGraph
