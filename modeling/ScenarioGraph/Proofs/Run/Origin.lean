/-
# ScenarioGraph.Proofs.Run.Origin -- a failure leads back to the call that failed

A failure that is listed gives the name of its scenario, the position and the node of
its step, and the name of its check if it is one.  In the run of a planned suite this is
enough: the scenario is found by its name, the step by its position, and of the step the
action or the only check of that name is the handle whose call failed.

* `RunsBetween.outcome_cases`: what became of one step of a run.
* `FailedAt.eq_of_key_eq`: in a run whose steps are numbered, failures at different
  places have different keys.
* `Suite.LeadsBack`: the handle that a failure leads back to, found in the suite alone.
* `failures_lead_back`: no two failures of a suite have one key, and each leads back to
  one handle, whose call failed.
-/
import ScenarioGraph.Proofs.Plan.Numbering
import ScenarioGraph.Proofs.Run.Failure

namespace ScenarioGraph

set_option autoImplicit false

variable {κ σ : Type}

/-! ## What became of a step -/

section

variable {steps : List (Step κ)} {step : Step κ} {outcomes : List StepOutcome}
  {outcome : StepOutcome} {i : Nat}

/-- A step before the place where the run stops completes, the one there fails, and those
after it are skipped. -/
theorem StopsAt.outcome_cases {f : Nat} {segments : List (List (Call κ))}
    {last : List (Call κ)} (stops : StopsAt steps f segments last outcomes)
    (isStep : steps[i]? = some step) (isOutcome : outcomes[i]? = some outcome) :
    (∃ calls ∈ segments, step.Completes calls outcome) ∨
      (∃ reason, step.Fails last outcome reason) ∨ ∃ reason, outcome.SkippedFor reason := by
  have within : i < steps.length := (List.getElem?_eq_some_iff.1 isStep).1
  rcases Nat.lt_or_ge i f with early | late
  · obtain ⟨found, calls, report, isFound, isCalls, isReport, completes⟩ := stops.before i early
    obtain rfl := Option.some.inj (isStep.symm.trans isFound)
    obtain rfl := Option.some.inj (isOutcome.symm.trans isReport)
    exact Or.inl ⟨calls, List.mem_of_getElem? isCalls, completes⟩
  · obtain ⟨found, report, reason, isFound, isReport, fails, skipped⟩ :=
      stops.inside (Nat.lt_of_le_of_lt late within)
    rcases Nat.eq_or_lt_of_le late with rfl | beyond
    · obtain rfl := Option.some.inj (isStep.symm.trans isFound)
      obtain rfl := Option.some.inj (isOutcome.symm.trans isReport)
      exact Or.inr (Or.inl ⟨reason, fails⟩)
    · exact Or.inr (Or.inr ⟨reason, skipped i outcome beyond isOutcome⟩)

variable {startFailure : Option String} {inner : List (Call κ)}

theorem RunsBetween.outcome_cases (between : RunsBetween steps startFailure inner outcomes)
    (isStep : steps[i]? = some step) (isOutcome : outcomes[i]? = some outcome) :
    (∃ calls ⊆ inner, step.Completes calls outcome) ∨
      (∃ calls ⊆ inner, ∃ reason, step.Fails calls outcome reason) ∨
      ∃ reason, outcome.SkippedFor reason := by
  cases between with
  | @ran f segments last outcomes stops =>
      rcases stops.outcome_cases isStep isOutcome with
        ⟨calls, member, completes⟩ | ⟨reason, fails⟩ | skipped
      · refine Or.inl ⟨calls, fun made inCalls => ?_, completes⟩
        exact List.mem_append_left _ (List.mem_flatten.2 ⟨calls, member, inCalls⟩)
      · exact Or.inr (Or.inl ⟨last, List.subset_append_right _ _, reason, fails⟩)
      · exact Or.inr (Or.inr skipped)
  | kept detail reports skipped =>
      exact Or.inr (Or.inr ⟨_, skipped outcome (List.mem_of_getElem? isOutcome)⟩)

theorem RunsBetween.reports (between : RunsBetween steps startFailure inner outcomes) :
    List.Forall₂ Step.Reports steps outcomes := by
  cases between with
  | ran stops => exact stops.reports
  | kept detail reports skipped => exact reports

/-! ## The calls that failed -/

/-- An action that is reported as failed was called, and its call failed like this. -/
theorem RunsBetween.exists_call_of_action
    (between : RunsBetween steps startFailure inner outcomes)
    (isStep : steps[i]? = some step) (isOutcome : outcomes[i]? = some outcome) {detail : String}
    (failed : outcome.action = .failed detail) :
    ∃ input result, step.input = some input ∧ (⟨input.action, result⟩ : Call κ) ∈ inner ∧
      result.failure? = some detail := by
  rcases between.outcome_cases isStep isOutcome with
    ⟨calls, -, completes⟩ | ⟨calls, within, reason, fails⟩ | ⟨reason, skipped⟩
  · have spared := completes.not_failed_or_skipped.1
    rw [StepOutcome.actionFailed_iff.2 ⟨detail, failed⟩] at spared
    cases spared
  · obtain ⟨input, result, text, chosen, rfl, failure, reported, -⟩ := fails
    rw [reported, ActionOutcome.failed.injEq] at failed
    exact ⟨input, result, chosen, within List.mem_cons_self, failed ▸ failure⟩
  · rw [skipped.action] at failed
    cases failed

theorem CallResult.failure?_of_status {result : CallResult} {detail : String}
    (failed : result.status = .failed detail) : result.failure? = some detail := by
  unfold CallResult.status at failed
  split at failed
  · cases failed
  · rename_i text ended
    cases failed
    exact ended

/-- Each check that is reported was called, and is reported by its call. -/
theorem ReportedBy.exists_call {checks : List (ChosenCheck κ)} {calls : List (Call κ)}
    {reports : List CheckOutcome} (reported : ReportedBy checks calls reports)
    {report : CheckOutcome} (listed : report ∈ reports) :
    ∃ check ∈ checks, ∃ result, check.name = report.name ∧
      (⟨check.body, result⟩ : Call κ) ∈ calls ∧ report.status = result.status := by
  obtain ⟨index, found⟩ := List.mem_iff_getElem?.1 listed
  have names := congrArg (·[index]?) reported.names
  have statuses := congrArg (·[index]?) reported.statuses
  have handles := congrArg (·[index]?) reported.handles
  simp only [List.getElem?_map, found, Option.map_some] at names statuses handles
  obtain ⟨check, isCheck, named⟩ := Option.map_eq_some_iff.1 names.symm
  obtain ⟨⟨handle, result⟩, isCall, status⟩ := Option.map_eq_some_iff.1 statuses.symm
  rw [isCheck, isCall, Option.map_some, Option.map_some, Option.some.injEq] at handles
  subst handles
  exact ⟨check, List.mem_of_getElem? isCheck, result, named, List.mem_of_getElem? isCall,
    status.symm⟩

/-- A check that is reported as failed was called, and its call failed like this. -/
theorem RunsBetween.exists_call_of_check
    (between : RunsBetween steps startFailure inner outcomes)
    (isStep : steps[i]? = some step) (isOutcome : outcomes[i]? = some outcome)
    {report : CheckOutcome} (listed : report ∈ outcome.checks) {detail : String}
    (failed : report.status = .failed detail) :
    ∃ check ∈ step.checks, ∃ result, check.name = report.name ∧
      (⟨check.body, result⟩ : Call κ) ∈ inner ∧ result.failure? = some detail := by
  rcases between.outcome_cases isStep isOutcome with
    ⟨calls, within, completes⟩ | ⟨calls, within, reason, fails⟩ | ⟨reason, skipped⟩
  · obtain ⟨acted, checked, rfl, -, reported⟩ := completes
    obtain ⟨check, member, result, named, made, status⟩ := reported.exists_call listed
    rw [failed] at status
    exact ⟨check, member, result, named, within (List.mem_append_right _ made),
      CallResult.failure?_of_status status.symm⟩
  · obtain ⟨-, -, -, -, -, -, -, skipped, -⟩ := fails
    rw [skipped report listed] at failed
    cases failed
  · rw [skipped.checks report listed] at failed
    cases failed

end

/-! ## Keys -/

/-- What a failure is told apart by. -/
def Failure.key (failure : Failure) : String × FailureKind × Option Nat × Option Name :=
  (failure.scenario, failure.kind, failure.position, failure.check)

/-- Positions count the outcomes, and the checks of an outcome have different names. -/
def ScenarioRun.Numbered (run : ScenarioRun) : Prop :=
  ∀ (i : Nat) (outcome : StepOutcome), run.steps[i]? = some outcome →
    outcome.position = i ∧ (outcome.checks.map CheckOutcome.name).Nodup

/-- Outcomes are numbered as the steps that they report. -/
theorem NumberedFrom.numbered {steps : List (Step κ)} {run : ScenarioRun}
    (numbered : NumberedFrom 0 steps) (reports : List.Forall₂ Step.Reports steps run.steps) :
    run.Numbered := by
  intro i outcome found
  obtain ⟨step, isStep, report⟩ := exists_getElem?_of_forall₂ reports found
  obtain ⟨position, distinct⟩ := numbered i step isStep
  rw [report.position, report.checks, position, Nat.zero_add]
  exact ⟨rfl, distinct⟩

namespace ScenarioRun

variable {run : ScenarioRun} {place other : Place} {failure later : Failure}

theorem FailedAt.scenario (failedAt : run.FailedAt place failure) :
    failure.scenario = run.scenario := by
  cases failedAt <;> rfl

/-- What is listed was recorded at a place that failed. -/
theorem exists_failedAt_of_mem (listed : failure ∈ run.failures) :
    ∃ place, run.FailedAt place failure := by
  obtain ⟨places, -, -, recorded⟩ := run.records
  obtain ⟨place, -, failedAt⟩ := exists_mem_of_forall₂ recorded listed
  exact ⟨place, failedAt⟩

/-- The key of a failure tells the place where it happened. -/
theorem FailedAt.eq_of_key_eq (numbered : run.Numbered) (first : run.FailedAt place failure)
    (second : run.FailedAt other later) (same : failure.key = later.key) : place = other := by
  cases first with
  | startHook => cases second <;> first | rfl | simp [Failure.key] at same
  | stopHook => cases second <;> first | rfl | simp [Failure.key] at same
  | @action step outcome _ found =>
      cases second with
      | @action next report _ isReport =>
          simp only [Failure.key, Prod.mk.injEq, Option.some.injEq, true_and, and_true] at same
          rw [(numbered step outcome found).1, (numbered next report isReport).1] at same
          rw [same]
      | _ => simp [Failure.key] at same
  | @check step index outcome check _ found listed =>
      cases second with
      | @check next second report other _ isReport isOther =>
          simp only [Failure.key, Prod.mk.injEq, Option.some.injEq, true_and] at same
          obtain ⟨positions, names⟩ := same
          rw [(numbered step outcome found).1, (numbered next report isReport).1] at positions
          subst positions
          obtain rfl := Option.some.inj (found.symm.trans isReport)
          have distinct := (numbered step outcome found).2
          have within := (List.getElem?_eq_some_iff.1 listed).1
          have atSame : (outcome.checks.map CheckOutcome.name)[index]? =
              (outcome.checks.map CheckOutcome.name)[second]? := by
            rw [List.getElem?_map, List.getElem?_map, listed, isOther, Option.map_some,
              Option.map_some, names]
          rw [(List.getElem?_inj (by rwa [List.length_map]) distinct).1 atSame]
      | _ => simp [Failure.key] at same

/-- No two failures of a numbered run have one key. -/
theorem Numbered.nodup_keys (numbered : run.Numbered) : (run.failures.map Failure.key).Nodup := by
  obtain ⟨places, increasing, -, recorded⟩ := run.records
  have distinct : places.Nodup := by
    refine increasing.imp fun {one two} below same => ?_
    rw [same] at below
    exact lt_irrefl _ below
  exact nodup_map_of_forall₂ recorded distinct fun first second same =>
    first.eq_of_key_eq numbered second same

end ScenarioRun

/-! ## The handle that a failure leads back to -/

/-- The handle is that of the step's action, or of its only check of the name given. -/
inductive Step.Answers (step : Step κ) (failure : Failure) : κ → Prop
  | action {input : ChosenInput κ} (kind : failure.kind = .action)
      (chosen : step.input = some input) : step.Answers failure input.action
  | check {check : ChosenCheck κ} (kind : failure.kind = .check)
      (only : step.checks.filter (fun other => failure.check = some other.name) = [check]) :
      step.Answers failure check.body

/-- The handle is found in the suite by what the failure says. -/
def Suite.LeadsBack (suite : Suite κ) (failure : Failure) (handle : κ) : Prop :=
  ∃ planned position step, suite.get? failure.scenario = some planned ∧
    failure.position = some position ∧ planned.steps[position]? = some step ∧
    failure.node = some step.node ∧ step.Answers failure handle

theorem Step.Answers.eq {step : Step κ} {failure : Failure} {handle other : κ}
    (first : step.Answers failure handle) (second : step.Answers failure other) :
    handle = other := by
  cases first with
  | action kind chosen =>
      cases second with
      | action _ found =>
          rw [Option.some.inj (chosen.symm.trans found)]
      | check isCheck =>
          rw [kind] at isCheck
          cases isCheck
  | check kind only =>
      cases second with
      | action isAction =>
          rw [kind] at isAction
          cases isAction
      | check _ found =>
          rw [List.singleton_inj.1 (only.symm.trans found)]

/-- A failure leads back to one handle at most. -/
theorem Suite.LeadsBack.eq {suite : Suite κ} {failure : Failure} {handle other : κ}
    (first : suite.LeadsBack failure handle) (second : suite.LeadsBack failure other) :
    handle = other := by
  obtain ⟨planned, position, step, found, positioned, isStep, -, answers⟩ := first
  obtain ⟨again, place, next, foundAgain, placed, isNext, -, answersAgain⟩ := second
  obtain rfl := Option.some.inj (found.symm.trans foundAgain)
  obtain rfl := Option.some.inj (positioned.symm.trans placed)
  obtain rfl := Option.some.inj (isStep.symm.trans isNext)
  exact answers.eq answersAgain

/-- A failure of an action or a check has the position of its step, which answers it with
a handle that was called and failed like this. -/
theorem RunsBetween.exists_answers {steps : List (Step κ)} {run : ScenarioRun}
    {inner : List (Call κ)}
    (between : RunsBetween steps run.startHookFailure inner run.steps)
    (numbered : NumberedFrom 0 steps) {place : Place} {failure : Failure}
    (failedAt : run.FailedAt place failure)
    (kind : failure.kind = .action ∨ failure.kind = .check) :
    ∃ position step handle result, failure.position = some position ∧
      steps[position]? = some step ∧ failure.node = some step.node ∧
      step.Answers failure handle ∧ (⟨handle, result⟩ : Call κ) ∈ inner ∧
      result.failure? = some failure.detail := by
  cases failedAt with
  | startHook => simp at kind
  | stopHook => simp at kind
  | @action position outcome detail found failed =>
      obtain ⟨step, isStep, report⟩ := exists_getElem?_of_forall₂ between.reports found
      obtain ⟨input, result, chosen, made, failure⟩ :=
        between.exists_call_of_action isStep found failed
      refine ⟨position, step, input.action, result, ?_, isStep, congrArg some report.node,
        .action rfl chosen, made, failure⟩
      exact congrArg some (numbered.numbered between.reports position outcome found).1
  | @check position index outcome report detail found listed failed =>
      obtain ⟨step, isStep, reported⟩ := exists_getElem?_of_forall₂ between.reports found
      obtain ⟨check, member, result, named, made, failure⟩ :=
        between.exists_call_of_check isStep found (List.mem_of_getElem? listed) failed
      refine ⟨position, step, check.body, result, ?_, isStep, congrArg some reported.node,
        .check rfl ?_, made, failure⟩
      · exact congrArg some (numbered.numbered between.reports position outcome found).1
      · rw [← filter_key_eq (numbered position step isStep).2 member]
        refine List.filter_congr fun other _ => decide_eq_decide.2 ?_
        rw [← named]
        exact Option.some_inj.trans eq_comm

/-! ## Suites -/

/-- The results of a suite have the names of its scenarios. -/
theorem names_of_brackets {hooks : Hooks κ} {scenarios : List (PlannedScenario κ)}
    {made : List (List (Call κ) × ScenarioRun)}
    (brackets : List.Forall₂ (fun planned (calls, result) => hooks.Brackets planned calls result)
      scenarios made) :
    (made.map Prod.snd).map ScenarioRun.scenario = scenarios.map PlannedScenario.name := by
  induction brackets with
  | nil => rfl
  | cons first _ ih =>
      rw [List.map_cons, List.map_cons, List.map_cons, first.named, ih]

theorem Hooks.Brackets.numbered {hooks : Hooks κ} {planned : PlannedScenario κ}
    {calls : List (Call κ)} {result : ScenarioRun} (brackets : hooks.Brackets planned calls result)
    (numbered : NumberedFrom 0 planned.steps) : result.Numbered := by
  obtain ⟨started, inner, stopped, -, -, between, -⟩ := brackets.bracketed
  exact numbered.numbered between.reports

/-- A failure of a scenario leads back to a call made in it. -/
theorem Hooks.Brackets.exists_leadsBack {hooks : Hooks κ} {suite : Suite κ}
    {planned : PlannedScenario κ} {calls : List (Call κ)} {result : ScenarioRun}
    (brackets : hooks.Brackets planned calls result)
    (found : suite.get? planned.name = some planned) (numbered : NumberedFrom 0 planned.steps)
    {failure : Failure} (listed : failure ∈ result.failures)
    (kind : failure.kind = .action ∨ failure.kind = .check) :
    ∃ handle ended, suite.LeadsBack failure handle ∧ (⟨handle, ended⟩ : Call κ) ∈ calls ∧
      ended.failure? = some failure.detail := by
  obtain ⟨place, failedAt⟩ := ScenarioRun.exists_failedAt_of_mem listed
  obtain ⟨started, inner, stopped, rfl, -, between, -⟩ := brackets.bracketed
  obtain ⟨position, step, handle, ended, positioned, isStep, node, answers, inInner, failed⟩ :=
    between.exists_answers numbered failedAt kind
  refine ⟨handle, ended, ⟨planned, position, step, ?_, positioned, isStep, node, answers⟩, ?_,
    failed⟩
  · rw [failedAt.scenario, brackets.named]
    exact found
  · exact List.mem_append_left _ (List.mem_append_right _ inInner)

/-- Where scenarios have different names and numbered steps, keys differ. -/
theorem SuiteRun.nodup_keys {run : SuiteRun}
    (names : (run.results.map ScenarioRun.scenario).Nodup)
    (numbered : ∀ result ∈ run.results, result.Numbered) :
    (run.failures.map Failure.key).Nodup := by
  unfold failures
  rw [List.map_flatMap, List.nodup_flatMap]
  constructor
  · exact fun result member => (numbered result member).nodup_keys
  · refine (List.pairwise_map.1 names).imp fun {one two} differ key inOne inTwo => ?_
    obtain ⟨failure, listed, rfl⟩ := List.mem_map.1 inOne
    obtain ⟨other, listedToo, same⟩ := List.mem_map.1 inTwo
    obtain ⟨place, failedAt⟩ := ScenarioRun.exists_failedAt_of_mem listed
    obtain ⟨place, failedToo⟩ := ScenarioRun.exists_failedAt_of_mem listedToo
    refine differ ?_
    rw [← failedAt.scenario, ← failedToo.scenario]
    exact (congrArg Prod.fst same).symm

/-- **A failure leads back to the call that failed.**  When a planned suite runs, whatever
the calls do, no two failures that it lists have one key; and each failure of an action or
a check leads back, through the suite alone, to one handle, whose call failed like this. -/
theorem failures_lead_back {d : Declaration κ} {g : Graph κ} (built : d.build = .ok g)
    {repetitions : Nat} {suite : Suite κ} (made : g.planSuite repetitions = .ok suite)
    (hooks : Hooks κ) (call : κ → StateM σ CallResult) (world : σ) :
    ∃ report final log, (suite.run hooks call).run world = (report, final) ∧
      (suite.run hooks (recording call)).run (world, []) = (report, final, log) ∧
      (report.failures.map Failure.key).Nodup ∧
      ∀ failure ∈ report.failures, failure.kind = .action ∨ failure.kind = .check →
        ∃ handle, (∀ other, suite.LeadsBack failure other ↔ other = handle) ∧
          ∃ result, (⟨handle, result⟩ : Call κ) ∈ log ∧ result.failure? = some failure.detail := by
  obtain ⟨distinct, numbered⟩ := planSuite_numbered built made
  obtain ⟨runs, final, performed, brackets⟩ :=
    exists_performs_scenarios call hooks suite.scenarios world
  have finished := performed.returning SuiteRun.mk
  refine ⟨⟨runs.map Prod.snd⟩, final, runs.flatMap Prod.fst, finished.plain_run,
    finished.recorded_run [], ?_, ?_⟩
  · refine SuiteRun.nodup_keys ?_ fun result member => ?_
    · rw [names_of_brackets brackets]
      exact distinct
    · obtain ⟨one, inRuns, rfl⟩ := List.mem_map.1 member
      obtain ⟨planned, inSuite, bracketed⟩ := exists_mem_of_forall₂ brackets inRuns
      exact bracketed.numbered (numbered planned inSuite)
  · intro failure listed kind
    obtain ⟨result, member, listed⟩ := List.mem_flatMap.1 listed
    obtain ⟨one, inRuns, rfl⟩ := List.mem_map.1 member
    obtain ⟨planned, inSuite, bracketed⟩ := exists_mem_of_forall₂ brackets inRuns
    obtain ⟨handle, ended, leads, called, failed⟩ :=
      bracketed.exists_leadsBack (Suite.get?_name distinct inSuite) (numbered planned inSuite)
        listed kind
    refine ⟨handle, fun other => ⟨fun again => again.eq leads, ?_⟩, ended, ?_, failed⟩
    · rintro rfl
      exact leads
    · exact List.mem_flatMap.2 ⟨one, inRuns, called⟩

namespace Turnstile

/-- Calls are counted, and the third one fails. -/
def worn (_ : Unit) : StateM Nat CallResult := do
  let calls ← getModify (· + 1)
  return if calls = 2 then .failed "worn" else .done

/-- After a push and a coin, the third call is that of the check. -/
theorem keys_of_worn :
    (graph.planSuite 0).toOption.map
        (fun suite => ((suite.run graph.hooks worn).run 0).1.failures.map Failure.key) =
      some [("Locked-Unlocked-Locked", .check, some 1, some "was_locked")] := by
  decide +kernel

end Turnstile

/-- The check of the turnstile that fails is found again in its suite. -/
theorem turnstile_failure_leads_back :
    Turnstile.declaration.build = .ok Turnstile.graph ∧
      ∃ suite, Turnstile.graph.planSuite 0 = .ok suite ∧
        ∃ report final log,
          (suite.run Turnstile.graph.hooks Turnstile.worn).run 0 = (report, final) ∧
          (suite.run Turnstile.graph.hooks (recording Turnstile.worn)).run (0, []) =
            (report, final, log) ∧
          report.failures.map Failure.key =
            [("Locked-Unlocked-Locked", .check, some 1, some "was_locked")] ∧
          ∀ failure ∈ report.failures, failure.kind = .action ∨ failure.kind = .check →
            ∃ handle, (∀ other, suite.LeadsBack failure other ↔ other = handle) ∧
              ∃ result, (⟨handle, result⟩ : Call Unit) ∈ log ∧
                result.failure? = some failure.detail := by
  have keys := Turnstile.keys_of_worn
  cases made : Turnstile.graph.planSuite 0 with
  | error failure =>
      rw [made] at keys
      cases keys
  | ok suite =>
      obtain ⟨report, final, log, plain, recorded, -, back⟩ :=
        failures_lead_back Turnstile.build_declaration made Turnstile.graph.hooks
          Turnstile.worn 0
      rw [made, Except.toOption, Option.map_some, plain, Option.some.injEq] at keys
      exact ⟨Turnstile.build_declaration, suite, rfl, report, final, log, plain, recorded, keys,
        back⟩

end ScenarioGraph
