/-
# ScenarioGraph.Proofs.Run.Failure -- a run that lists no failure is a success

The places of a run where something can fail stand in the order of the calls: the start
hook, then step by step the action before its checks, then the stop hook.  The failures
listed for a run are the records of the places that failed, each once and in this order
(`ScenarioRun.Records`); this holds of any outcome whatever.

What a run adds is that steps are skipped for a reason that is itself listed: an action
that failed, of which there is one at most, or the start hook.  Hence a run that lists
no failure skipped nothing, and lists are empty for exactly the runs that succeed.

* `Records.append`, `Records.flatMap`: records of one part of a run after another.
* `ScenarioRun.records`: the failures of any run are its records.
* `StopsAt.exists_failed_of_skipped`, `StopsAt.countP_actionFailed_le_one`: what the place
  where a run stops says about its outcomes.
* `runs_list_failures`: all of it, for runs with and without hooks, and for suites.
-/
import ScenarioGraph.Proofs.Attempt
import ScenarioGraph.Proofs.Run.Bracket

namespace ScenarioGraph

set_option autoImplicit false

variable {κ σ α : Type}

/-! ## Places of a run -/

/-- A place of a run where something can fail; steps and checks are counted from zero. -/
inductive Place where
  | startHook
  | action (step : Nat)
  | check (step index : Nat)
  | stopHook
deriving DecidableEq

/-- Places stand in the lexicographic order of their ranks: the action of a step comes
before its checks, and these before the next action. -/
def Place.rank : Place → List Nat
  | startHook => [0]
  | action step => [1, step]
  | check step index => [1, step, index]
  | stopHook => [2]

/-- The place is the action or a check of this step. -/
def Place.InStep (step : Nat) (place : Place) : Prop :=
  place = .action step ∨ ∃ index, place = .check step index

/-- Something failed at the place, and this is the record of it. -/
inductive ScenarioRun.FailedAt (run : ScenarioRun) : Place → Failure → Prop
  | startHook {detail : String} (failed : run.startHookFailure = some detail) :
      FailedAt run .startHook ⟨run.scenario, none, none, none, .startHook, detail⟩
  | action {step : Nat} {outcome : StepOutcome} {detail : String}
      (found : run.steps[step]? = some outcome) (failed : outcome.action = .failed detail) :
      FailedAt run (.action step)
        ⟨run.scenario, some outcome.position, some outcome.node, none, .action, detail⟩
  | check {step index : Nat} {outcome : StepOutcome} {check : CheckOutcome} {detail : String}
      (found : run.steps[step]? = some outcome) (listed : outcome.checks[index]? = some check)
      (failed : check.status = .failed detail) :
      FailedAt run (.check step index)
        ⟨run.scenario, some outcome.position, some outcome.node, some check.name, .check, detail⟩
  | stopHook {detail : String} (failed : run.stopHookFailure = some detail) :
      FailedAt run .stopHook ⟨run.scenario, none, none, none, .stopHook, detail⟩

/-- The failures are the records of the places in `span` that failed, each once and in the
order of the places. -/
def ScenarioRun.Records (run : ScenarioRun) (span : Place → Prop) (failures : List Failure) :
    Prop :=
  ∃ places : List Place, places.Pairwise (fun first second => first.rank < second.rank) ∧
    (∀ place, place ∈ places ↔ span place ∧ ∃ failure, run.FailedAt place failure) ∧
    List.Forall₂ run.FailedAt places failures

namespace ScenarioRun.Records

variable {run : ScenarioRun} {span early late : Place → Prop} {failures others : List Failure}

/-- One place has a record if it failed. -/
theorem single {place : Place} {record : Option Failure}
    (exact_record : ∀ failure, run.FailedAt place failure ↔ record = some failure) :
    run.Records (· = place) record.toList := by
  cases record with
  | none =>
      refine ⟨[], .nil, fun other => ?_, .nil⟩
      simp only [List.not_mem_nil, false_iff, not_and, not_exists]
      rintro rfl failure failed
      cases (exact_record failure).1 failed
  | some failure =>
      have failed := (exact_record failure).2 rfl
      refine ⟨[place], List.pairwise_singleton _ _, fun other => ?_, .cons failed .nil⟩
      rw [List.mem_singleton]
      constructor
      · rintro rfl
        exact ⟨rfl, failure, failed⟩
      · exact And.left

/-- The records of two parts, the one before the other. -/
theorem append (first : run.Records early failures) (second : run.Records late others)
    (apart : ∀ one two, early one → late two → one.rank < two.rank) :
    run.Records (fun place => early place ∨ late place) (failures ++ others) := by
  obtain ⟨before, increasing, memBefore, recorded⟩ := first
  obtain ⟨after, increasingAfter, memAfter, recordedAfter⟩ := second
  refine ⟨before ++ after, ?_, fun place => ?_, List.rel_append recorded recordedAfter⟩
  · refine List.pairwise_append.2 ⟨increasing, increasingAfter, fun one inBefore two inAfter => ?_⟩
    exact apart one two ((memBefore one).1 inBefore).1 ((memAfter two).1 inAfter).1
  · rw [List.mem_append, memBefore, memAfter, or_and_right]

/-- Only places that failed matter. -/
theorem congr (recorded : run.Records early failures)
    (same : ∀ place failure, run.FailedAt place failure → (early place ↔ late place)) :
    run.Records late failures := by
  obtain ⟨places, increasing, mem, recorded⟩ := recorded
  refine ⟨places, increasing, fun place => ?_, recorded⟩
  rw [mem]
  refine and_congr_left fun failed => ?_
  obtain ⟨failure, failed⟩ := failed
  exact same place failure failed

/-- The records of parts that come one after another. -/
theorem flatMap {items : List α} {listed : α → List Failure} {span : Nat → Place → Prop}
    (each : ∀ k item, items[k]? = some item → run.Records (span k) (listed item))
    (apart : ∀ k l one two, k < l → span k one → span l two → one.rank < two.rank) :
    run.Records (fun place => ∃ k < items.length, span k place) (items.flatMap listed) := by
  induction items generalizing span with
  | nil =>
      refine ⟨[], .nil, fun place => ?_, .nil⟩
      simp
  | cons item rest ih =>
      have first := each 0 item rfl
      have later := ih (fun k other found => each (k + 1) other found)
        fun k l one two below => apart (k + 1) (l + 1) one two (Nat.succ_lt_succ below)
      rw [List.flatMap_cons]
      refine (first.append later ?_).congr fun place failure failed => ?_
      · rintro one two atFirst ⟨k, -, atLater⟩
        exact apart 0 (k + 1) one two (Nat.succ_pos k) atFirst atLater
      · constructor
        · rintro (atFirst | ⟨k, within, atLater⟩)
          · exact ⟨0, Nat.succ_pos _, atFirst⟩
          · exact ⟨k + 1, Nat.succ_lt_succ within, atLater⟩
        · rintro ⟨k, within, atPart⟩
          cases k with
          | zero => exact Or.inl atPart
          | succ k => exact Or.inr ⟨k, Nat.lt_of_succ_lt_succ within, atPart⟩

end ScenarioRun.Records

/-! ## The failures of a run -/

namespace Place.InStep

variable {first second : Nat} {one two : Place}

theorem startHook_lt (inStep : one.InStep first) : startHook.rank < one.rank := by
  have ordered : ∀ rest : List Nat, [0] < 1 :: rest := by
    intro rest
    simp [List.cons_lt_cons_iff]
  rcases inStep with rfl | ⟨index, rfl⟩ <;> exact ordered _

theorem lt_stopHook (inStep : one.InStep first) : one.rank < stopHook.rank := by
  have ordered : ∀ rest : List Nat, 1 :: rest < [2] := by
    intro rest
    simp [List.cons_lt_cons_iff]
  rcases inStep with rfl | ⟨index, rfl⟩ <;> exact ordered _

theorem rank_lt_rank (inFirst : one.InStep first) (inSecond : two.InStep second)
    (below : first < second) : one.rank < two.rank := by
  have ordered : ∀ front back : List Nat, 1 :: first :: front < 1 :: second :: back := by
    intro front back
    simp [List.cons_lt_cons_iff, below]
  rcases inFirst with rfl | ⟨index, rfl⟩ <;> rcases inSecond with rfl | ⟨other, rfl⟩ <;>
    exact ordered _ _

end Place.InStep

namespace StepOutcome

/-- The record of the action, if it failed. -/
def actionFailure? (scenario : String) (outcome : StepOutcome) : Option Failure :=
  match outcome.action with
  | .failed detail => some ⟨scenario, some outcome.position, some outcome.node, none, .action, detail⟩
  | _ => none

/-- The record of one of the checks, if it failed. -/
def checkFailure? (scenario : String) (outcome : StepOutcome) (check : CheckOutcome) :
    Option Failure :=
  match check.status with
  | .failed detail =>
      some ⟨scenario, some outcome.position, some outcome.node, some check.name, .check, detail⟩
  | _ => none

theorem failures_eq (scenario : String) (outcome : StepOutcome) :
    outcome.failures scenario = (outcome.actionFailure? scenario).toList ++
      outcome.checks.filterMap (outcome.checkFailure? scenario) := by
  unfold failures actionFailure?
  cases outcome.action <;> rfl

end StepOutcome

namespace ScenarioRun

variable (run : ScenarioRun)

theorem records_startHook :
    run.Records (· = .startHook) (run.hookFailures .startHook run.startHookFailure) := by
  refine Records.single fun failure => ?_
  rw [Option.map_eq_some_iff]
  constructor
  · intro failedAt
    cases failedAt with
    | startHook failed => exact ⟨_, failed, rfl⟩
  · rintro ⟨detail, failed, rfl⟩
    exact .startHook failed

theorem records_stopHook :
    run.Records (· = .stopHook) (run.hookFailures .stopHook run.stopHookFailure) := by
  refine Records.single fun failure => ?_
  rw [Option.map_eq_some_iff]
  constructor
  · intro failedAt
    cases failedAt with
    | stopHook failed => exact ⟨_, failed, rfl⟩
  · rintro ⟨detail, failed, rfl⟩
    exact .stopHook failed

variable {run}

theorem records_action {step : Nat} {outcome : StepOutcome}
    (found : run.steps[step]? = some outcome) :
    run.Records (· = .action step) (outcome.actionFailure? run.scenario).toList := by
  refine Records.single fun failure => ?_
  unfold StepOutcome.actionFailure?
  constructor
  · intro failedAt
    cases failedAt with
    | action isOutcome failed =>
        obtain rfl := Option.some.inj (found.symm.trans isOutcome)
        rw [failed]
  · intro recorded
    split at recorded
    · rename_i detail failed
      cases recorded
      exact .action found failed
    · cases recorded

theorem records_check {step index : Nat} {outcome : StepOutcome} {check : CheckOutcome}
    (found : run.steps[step]? = some outcome) (listed : outcome.checks[index]? = some check) :
    run.Records (· = .check step index) (outcome.checkFailure? run.scenario check).toList := by
  refine Records.single fun failure => ?_
  unfold StepOutcome.checkFailure?
  constructor
  · intro failedAt
    cases failedAt with
    | check isOutcome isCheck failed =>
        obtain rfl := Option.some.inj (found.symm.trans isOutcome)
        obtain rfl := Option.some.inj (listed.symm.trans isCheck)
        rw [failed]
  · intro recorded
    split at recorded
    · rename_i detail failed
      cases recorded
      exact .check found listed failed
    · cases recorded

/-- The records of a step: of its action, then of its checks. -/
theorem records_step {step : Nat} {outcome : StepOutcome}
    (found : run.steps[step]? = some outcome) :
    run.Records (Place.InStep step) (outcome.failures run.scenario) := by
  have checks : run.Records (fun place => ∃ index < outcome.checks.length, place = .check step index)
      (outcome.checks.filterMap (outcome.checkFailure? run.scenario)) := by
    rw [List.filterMap_eq_flatMap_toList]
    refine Records.flatMap (fun index check listed => records_check found listed) ?_
    rintro first second _ _ below rfl rfl
    simp [Place.rank, List.cons_lt_cons_iff, below]
  have both := (records_action found).append checks fun one two isAction isCheck => by
    obtain ⟨index, -, rfl⟩ := isCheck
    subst isAction
    simp [Place.rank]
  rw [StepOutcome.failures_eq]
  refine both.congr fun place failure failedAt => or_congr_right ?_
  constructor
  · rintro ⟨index, -, isCheck⟩
    exact ⟨index, isCheck⟩
  · rintro ⟨index, rfl⟩
    cases failedAt with
    | check isOutcome isCheck failed =>
        obtain rfl := Option.some.inj (found.symm.trans isOutcome)
        exact ⟨index, (List.getElem?_eq_some_iff.1 isCheck).1, rfl⟩

/-- The failures of a run are the records of the places that failed. -/
theorem records (run : ScenarioRun) : run.Records (fun _ => True) run.failures := by
  have steps : run.Records (fun place => ∃ step < run.steps.length, place.InStep step)
      (run.steps.flatMap (StepOutcome.failures run.scenario)) :=
    Records.flatMap (fun step outcome found => records_step found)
      fun first second one two below inFirst inSecond => inFirst.rank_lt_rank inSecond below
  have begun := run.records_startHook.append steps fun one two atStart inStep => by
    obtain ⟨step, -, inStep⟩ := inStep
    subst atStart
    exact inStep.startHook_lt
  have ended := begun.append run.records_stopHook fun one two before atStop => by
    subst atStop
    rcases before with rfl | ⟨step, -, inStep⟩
    · decide
    · exact inStep.lt_stopHook
  refine ended.congr fun place failure failedAt => iff_of_true ?_ trivial
  cases failedAt with
  | startHook failed => exact Or.inl (Or.inl rfl)
  | @action step outcome detail found failed =>
      exact Or.inl (Or.inr ⟨step, (List.getElem?_eq_some_iff.1 found).1, Or.inl rfl⟩)
  | @check step index outcome check detail found listed failed =>
      exact Or.inl (Or.inr ⟨step, (List.getElem?_eq_some_iff.1 found).1, Or.inr ⟨index, rfl⟩⟩)
  | stopHook failed => exact Or.inr rfl

/-- What failed is listed. -/
theorem FailedAt.exists_mem_failures {place : Place} {failure : Failure}
    (failedAt : run.FailedAt place failure) :
    ∃ listed ∈ run.failures, run.FailedAt place listed := by
  obtain ⟨places, -, mem, recorded⟩ := run.records
  exact exists_mem_of_forall₂ recorded.flip ((mem place).2 ⟨trivial, failure, failedAt⟩)

end ScenarioRun

/-! ## What a run adds -/

/-- The action of the step failed. -/
def StepOutcome.actionFailed (outcome : StepOutcome) : Bool :=
  match outcome.action with
  | .failed _ => true
  | _ => false

theorem StepOutcome.actionFailed_iff {outcome : StepOutcome} :
    outcome.actionFailed = true ↔ ∃ detail, outcome.action = .failed detail := by
  unfold actionFailed
  cases outcome.action <;> simp

/-- Of a step the action is listed if it failed, and checks are listed as checks. -/
theorem countP_action_stepFailures (scenario : String) (outcome : StepOutcome) :
    (outcome.failures scenario).countP (fun failure => failure.kind = .action) =
      if outcome.actionFailed then 1 else 0 := by
  have checks : ∀ failure ∈ outcome.checks.filterMap (outcome.checkFailure? scenario),
      ¬ decide (failure.kind = .action) = true := by
    intro failure listed
    obtain ⟨check, -, recorded⟩ := List.mem_filterMap.1 listed
    unfold StepOutcome.checkFailure? at recorded
    split at recorded
    · cases recorded
      exact nofun
    · cases recorded
  rw [StepOutcome.failures_eq, List.countP_append, List.countP_eq_zero.2 checks, Nat.add_zero]
  unfold StepOutcome.actionFailure? StepOutcome.actionFailed
  cases outcome.action <;> rfl

theorem countP_action_failures (run : ScenarioRun) :
    run.failures.countP (fun failure => failure.kind = .action) =
      run.steps.countP StepOutcome.actionFailed := by
  have hooks (kind : FailureKind) (other : kind ≠ .action) (detail : Option String) :
      (run.hookFailures kind detail).countP (fun failure => failure.kind = .action) = 0 := by
    cases detail <;> simp [ScenarioRun.hookFailures, other]
  have steps (outcomes : List StepOutcome) :
      (outcomes.flatMap (StepOutcome.failures run.scenario)).countP
        (fun failure => failure.kind = .action) = outcomes.countP StepOutcome.actionFailed := by
    induction outcomes with
    | nil => rfl
    | cons outcome rest ih =>
        rw [List.flatMap_cons, List.countP_append, ih, countP_action_stepFailures,
          List.countP_cons, Nat.add_comm]
  unfold ScenarioRun.failures
  rw [List.countP_append, List.countP_append, hooks .startHook nofun, hooks .stopHook nofun, steps]
  omega

section

variable {step : Step κ} {steps : List (Step κ)} {calls : List (Call κ)} {outcome : StepOutcome}

/-- A step that completes was not skipped, and its action did not fail. -/
theorem Step.Completes.not_failed_or_skipped (completes : step.Completes calls outcome) :
    outcome.actionFailed = false ∧ outcome.isSkipped = false := by
  obtain ⟨acted, checked, -, acts, -⟩ := completes
  unfold StepOutcome.actionFailed StepOutcome.isSkipped
  generalize outcome.action = action at acts
  cases acts <;> exact ⟨rfl, rfl⟩

theorem Step.Fails.actionFailed {reason : String} (fails : step.Fails calls outcome reason) :
    outcome.actionFailed = true := by
  obtain ⟨input, result, detail, -, -, -, failed, -⟩ := fails
  exact StepOutcome.actionFailed_iff.2 ⟨detail, failed⟩

theorem StepOutcome.SkippedFor.not_actionFailed {reason : String}
    (skipped : outcome.SkippedFor reason) : ¬ outcome.actionFailed = true := by
  unfold StepOutcome.actionFailed
  rw [skipped.action]
  exact nofun

variable {f : Nat} {segments : List (List (Call κ))} {last : List (Call κ)}
  {outcomes : List StepOutcome}

/-- A run stops at the first action that fails, so no other one does. -/
theorem StopsAt.countP_actionFailed_le_one (stops : StopsAt steps f segments last outcomes) :
    outcomes.countP StepOutcome.actionFailed ≤ 1 := by
  induction steps generalizing f segments outcomes with
  | nil =>
      rw [List.forall₂_nil_left_iff.1 stops.reports]
      exact Nat.zero_le 1
  | cons step rest ih =>
      rcases stops.cons_cases with
        ⟨outcome, others, reason, -, rfl, fails, skipped⟩ |
        ⟨n, calls, later, outcome, others, -, rfl, completes, stops⟩
      · have none := List.countP_eq_zero.2 fun later member =>
          (skipped later member).not_actionFailed
        rw [List.countP_cons_of_pos fails.actionFailed]
        omega
      · rw [List.countP_cons_of_neg (by simp [completes.not_failed_or_skipped.1])]
        exact ih stops

/-- A step is skipped only after an action that failed. -/
theorem StopsAt.exists_failed_of_skipped (stops : StopsAt steps f segments last outcomes)
    (member : outcome ∈ outcomes) (skipped : outcome.isSkipped = true) :
    ∃ failing ∈ outcomes, failing.actionFailed = true := by
  induction steps generalizing f segments outcomes with
  | nil =>
      rw [List.forall₂_nil_left_iff.1 stops.reports] at member
      cases member
  | cons step rest ih =>
      rcases stops.cons_cases with
        ⟨first, others, reason, -, rfl, fails, -⟩ |
        ⟨n, calls, later, first, others, -, rfl, completes, stops⟩
      · exact ⟨first, List.mem_cons_self, fails.actionFailed⟩
      · rcases List.mem_cons.1 member with rfl | member
        · rw [completes.not_failed_or_skipped.2] at skipped
          cases skipped
        · obtain ⟨failing, found, failed⟩ := ih stops member
          exact ⟨failing, List.mem_cons_of_mem _ found, failed⟩

end

/-! ## Results of runs -/

/-- What is listed for a run tells whether and where it failed. -/
structure ScenarioRun.ListsFailures (run : ScenarioRun) : Prop where
  success_iff : run.isSuccess = true ↔ run.failures = []
  skipped : ∀ outcome ∈ run.steps, outcome.isSkipped = true →
    ∃ failure ∈ run.failures, failure.kind = .startHook ∨ failure.kind = .action
  records : run.Records (fun _ => True) run.failures
  actions : run.failures.countP (fun failure => failure.kind = .action) ≤ 1

/-- The reason for skipping a step is listed: the start hook, or an action. -/
theorem RunsBetween.exists_failure_of_skipped {steps : List (Step κ)} {run : ScenarioRun}
    {inner : List (Call κ)}
    (between : RunsBetween steps run.startHookFailure inner run.steps) {outcome : StepOutcome}
    (member : outcome ∈ run.steps) (skipped : outcome.isSkipped = true) :
    ∃ failure ∈ run.failures, failure.kind = .startHook ∨ failure.kind = .action := by
  generalize started : run.startHookFailure = startFailure at between
  generalize reported : run.steps = outcomes at between member
  cases between with
  | ran stops =>
      obtain ⟨failing, found, failed⟩ := stops.exists_failed_of_skipped member skipped
      obtain ⟨detail, failed⟩ := StepOutcome.actionFailed_iff.1 failed
      rw [← reported] at found
      obtain ⟨step, found⟩ := List.mem_iff_getElem?.1 found
      obtain ⟨failure, listed, failedAt⟩ :=
        (ScenarioRun.FailedAt.action found failed).exists_mem_failures
      cases failedAt
      exact ⟨_, listed, Or.inr rfl⟩
  | kept detail =>
      obtain ⟨failure, listed, failedAt⟩ :=
        (ScenarioRun.FailedAt.startHook started).exists_mem_failures
      cases failedAt
      exact ⟨_, listed, Or.inl rfl⟩

theorem RunsBetween.listsFailures {steps : List (Step κ)} {run : ScenarioRun}
    {inner : List (Call κ)}
    (between : RunsBetween steps run.startHookFailure inner run.steps) : run.ListsFailures where
  success_iff := by
    unfold ScenarioRun.isSuccess ScenarioRun.skippedSteps
    rw [Bool.and_eq_true, List.isEmpty_iff, List.isEmpty_iff, and_iff_left_iff_imp]
    intro none
    rw [List.filter_eq_nil_iff]
    intro outcome member skipped
    obtain ⟨failure, listed, -⟩ := between.exists_failure_of_skipped member skipped
    rw [none] at listed
    cases listed
  skipped outcome member skipped := between.exists_failure_of_skipped member skipped
  records := run.records
  actions := by
    rw [countP_action_failures]
    generalize run.startHookFailure = startFailure at between
    generalize run.steps = outcomes at between
    cases between with
    | ran stops => exact stops.countP_actionFailed_le_one
    | kept detail reports skipped =>
        rw [List.countP_eq_zero.2 fun outcome member => (skipped outcome member).not_actionFailed]
        exact Nat.zero_le 1

/-! ## Runs and suites -/

/-- What a run of steps reports, it reports as if they ran between absent hooks. -/
theorem runScenario_listsFailures (call : κ → StateM σ CallResult) (scenario : String)
    (steps : List (Step κ)) (world : σ) :
    ((runScenario call scenario steps).run world).1.ListsFailures := by
  obtain ⟨f, segments, last, outcomes, final, performed, stops⟩ := stopsFrom call world steps
  have finished := (performed.returning fun outcomes =>
    (⟨scenario, outcomes, none, none⟩ : ScenarioRun)).plain_run
  unfold runScenario
  rw [finished]
  exact RunsBetween.listsFailures (RunsBetween.ran stops)

theorem Hooks.Brackets.listsFailures {hooks : Hooks κ} {planned : PlannedScenario κ}
    {calls : List (Call κ)} {result : ScenarioRun}
    (brackets : hooks.Brackets planned calls result) : result.ListsFailures := by
  obtain ⟨started, inner, stopped, -, -, between, -⟩ := brackets.bracketed
  exact between.listsFailures

namespace SuiteRun

variable {run : SuiteRun}

theorem passed_add_failed (run : SuiteRun) : run.passed + run.failed = run.results.length := by
  unfold failed passed
  exact Nat.add_sub_of_le List.countP_le_length

/-- A suite succeeds if no scenario of it lists a failure. -/
theorem isSuccess_iff (listed : ∀ result ∈ run.results, result.ListsFailures) :
    run.isSuccess = true ↔ run.failures = [] := by
  unfold isSuccess failures
  have counted := run.passed_add_failed
  have none_failed : run.failed = 0 ↔ run.passed = run.results.length := by omega
  rw [decide_eq_true_iff, none_failed, passed, List.countP_eq_length, List.flatMap_eq_nil_iff]
  exact forall₂_congr fun result member => (listed result member).success_iff

end SuiteRun

/-- **A run succeeds exactly if it lists no failure.**  Whatever the calls do, the result of
a run, with hooks or without, lists one failure for each place that failed, in the order of
the places, and of these one action at most; a step is skipped only for a failure that is
listed.  In a suite every scenario has passed or failed, and the suite succeeds exactly if
no failure is listed. -/
theorem runs_list_failures (call : κ → StateM σ CallResult) (world : σ) :
    (∀ scenario steps, ((runScenario call scenario steps).run world).1.ListsFailures) ∧
      (∀ (hooks : Hooks κ) planned, ((hooks.run call planned).run world).1.ListsFailures) ∧
      ∀ (suite : Suite κ) hooks,
        let report := ((suite.run hooks call).run world).1
        report.passed + report.failed = suite.scenarios.length ∧
          (report.isSuccess = true ↔ report.failures = []) := by
  refine ⟨fun scenario steps => runScenario_listsFailures call scenario steps world, ?_, ?_⟩
  · intro hooks planned
    obtain ⟨calls, result, final, performed, brackets⟩ :=
      exists_performs_scenario call hooks planned world
    rw [performed.plain_run]
    exact brackets.listsFailures
  · intro suite hooks
    obtain ⟨made, final, performed, brackets⟩ :=
      exists_performs_scenarios call hooks suite.scenarios world
    have finished := (performed.returning SuiteRun.mk).plain_run
    have listed : ∀ result ∈ made.map Prod.snd, result.ListsFailures := by
      intro result member
      obtain ⟨one, inMade, rfl⟩ := List.mem_map.1 member
      obtain ⟨planned, -, bracketed⟩ := exists_mem_of_forall₂ brackets inMade
      exact bracketed.listsFailures
    unfold Suite.run
    rw [finished]
    constructor
    · rw [SuiteRun.passed_add_failed, List.length_map, brackets.length_eq]
    · exact SuiteRun.isSuccess_iff listed

end ScenarioGraph
