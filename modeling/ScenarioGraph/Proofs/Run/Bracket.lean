/-
# ScenarioGraph.Proofs.Run.Bracket -- each scenario runs between its hooks

A suite runs its scenarios one after another.  Around the calls of a scenario's steps
stand the call of the start hook and the call of the stop hook; the stop hook is called
in any case, and what it does has no part in the outcomes of the steps.

Which handle comes next is a matter of one scenario.  Its handles have an order, and a
start hook or an action that fails leaves nothing but the stop hook (`nextDue`); so the
results of the calls made in a scenario decide the next one, and nothing that happened
in a scenario before it does.

* `Hooks.Brackets`: what the calls and the outcomes of one scenario look like.
* `suite_run_brackets`: every scenario of a suite is bracketed, in the order of the
  suite, whatever the calls do.
-/
import ScenarioGraph.Proofs.Run.Abort

namespace ScenarioGraph

set_option autoImplicit false

variable {κ σ : Type}

/-! ## Hooks -/

/-- A hook that may be absent was called once, if there is one, and this is its failure. -/
inductive CalledOnce : Option κ → List (Call κ) → Option String → Prop
  | absent : CalledOnce none [] none
  | called (hook : κ) (result : CallResult) :
      CalledOnce (some hook) [⟨hook, result⟩] result.failure?

/-- What runs between the hooks: the steps, or nothing at all once the start hook failed. -/
inductive RunsBetween (steps : List (Step κ)) :
    Option String → List (Call κ) → List StepOutcome → Prop
  | ran {f : Nat} {segments : List (List (Call κ))} {last : List (Call κ)}
      {outcomes : List StepOutcome} (stops : StopsAt steps f segments last outcomes) :
      RunsBetween steps none (segments.flatten ++ last) outcomes
  | kept (detail : String) {outcomes : List StepOutcome}
      (reports : List.Forall₂ Step.Reports steps outcomes)
      (skipped : ∀ outcome ∈ outcomes, outcome.SkippedFor "scenario start hook failed") :
      RunsBetween steps (some detail) [] outcomes

/-- The calls of a scenario and its result: the start hook, then what runs between, then
the stop hook. -/
structure Hooks.Brackets (hooks : Hooks κ) (planned : PlannedScenario κ)
    (calls : List (Call κ)) (result : ScenarioRun) : Prop where
  named : result.scenario = planned.name
  bracketed : ∃ started inner stopped, calls = started ++ inner ++ stopped ∧
    CalledOnce hooks.start started result.startHookFailure ∧
    RunsBetween planned.steps result.startHookFailure inner result.steps ∧
    CalledOnce hooks.stop stopped result.stopHookFailure

section

variable (call : κ → StateM σ CallResult)

theorem exists_performs_hook (hook : Option κ) (world : σ) :
    ∃ calls failure final,
      Performs (Hooks.invokeHook call hook) (Hooks.invokeHook (recording call) hook) world calls
        failure final ∧
      CalledOnce hook calls failure := by
  cases hook with
  | none => exact ⟨[], none, world, performs_pure none world, .absent⟩
  | some hook =>
      rcases ended : (call hook).run world with ⟨result, after⟩
      exact ⟨[⟨hook, result⟩], result.failure?, after, performs_invoke ended,
        .called hook result⟩

/-- A scenario is run between its hooks, and its result is under its name. -/
theorem exists_performs_scenario (hooks : Hooks κ) (planned : PlannedScenario κ) (world : σ) :
    ∃ calls result final,
      Performs (hooks.run call planned) (hooks.run (recording call) planned) world calls result
        final ∧
      hooks.Brackets planned calls result := by
  obtain ⟨started, startFailure, begun, starting, calledStart⟩ :=
    exists_performs_hook call hooks.start world
  cases startFailure with
  | none =>
      obtain ⟨f, segments, last, outcomes, ended, running, stops⟩ :=
        stopsFrom call begun planned.steps
      obtain ⟨stopped, stopFailure, final, stopping, calledStop⟩ :=
        exists_performs_hook call hooks.stop ended
      have after := stopping.returning fun failure =>
        (⟨planned.name, outcomes, none, failure⟩ : ScenarioRun)
      refine ⟨_, _, final, starting.bind (running.bind after), rfl, ?_⟩
      refine ⟨started, segments.flatten ++ last, stopped, ?_, calledStart, .ran stops, calledStop⟩
      rw [List.append_assoc started]
  | some detail =>
      obtain ⟨stopped, stopFailure, final, stopping, calledStop⟩ :=
        exists_performs_hook call hooks.stop begun
      let outcomes := planned.steps.map (·.skipped "scenario start hook failed")
      have after := stopping.returning fun failure =>
        (⟨planned.name, outcomes, some detail, failure⟩ : ScenarioRun)
      have reports : List.Forall₂ Step.Reports planned.steps outcomes := by
        rw [List.forall₂_map_right_iff, List.forall₂_same]
        exact fun step _ => step.reports_skipped _
      have skipped : ∀ outcome ∈ outcomes, outcome.SkippedFor "scenario start hook failed" := by
        intro outcome member
        obtain ⟨step, -, rfl⟩ := List.mem_map.1 member
        exact step.skippedFor_skipped _
      refine ⟨_, _, final, starting.bind ((performs_pure outcomes begun).bind after), rfl, ?_⟩
      exact ⟨started, [], stopped, by simp, calledStart, .kept detail reports skipped, calledStop⟩

/-- Scenarios run one after another, each from where the one before it left the world. -/
theorem exists_performs_scenarios (hooks : Hooks κ) (scenarios : List (PlannedScenario κ))
    (world : σ) :
    ∃ (made : List (List (Call κ) × ScenarioRun)) (final : σ),
      Performs (scenarios.mapM (hooks.run call)) (scenarios.mapM (hooks.run (recording call))) world
        (made.flatMap Prod.fst) (made.map Prod.snd) final ∧
      List.Forall₂ (fun planned (calls, result) => hooks.Brackets planned calls result) scenarios
        made := by
  induction scenarios generalizing world with
  | nil => exact ⟨[], world, performs_pure [] world, .nil⟩
  | cons planned rest ih =>
      obtain ⟨calls, result, middle, performed, brackets⟩ :=
        exists_performs_scenario call hooks planned world
      obtain ⟨made, final, running, others⟩ := ih middle
      refine ⟨(calls, result) :: made, final, ?_, .cons brackets others⟩
      rw [List.mapM_cons, List.mapM_cons]
      exact performed.bind (running.returning (result :: ·))

/-- The stop hook comes last, and adds its own entry to the result. -/
theorem Hooks.run_eq (hooks : Hooks κ) (planned : PlannedScenario κ) :
    hooks.run call planned = (do
      let result ← Hooks.run ⟨hooks.start, none⟩ call planned
      let failure ← Hooks.invokeHook call hooks.stop
      return { result with stopHookFailure := failure }) := by
  unfold Hooks.run
  rw [bind_assoc]
  refine bind_congr fun startFailure => ?_
  cases startFailure with
  | none =>
      simp only [bind_assoc, Hooks.invokeHook, pure_bind]
  | some detail =>
      simp only [Hooks.invokeHook, pure_bind]

end

/-! ## The handle that comes next -/

/-- A handle of a scenario; once a vital one fails, nothing but the stop hook is called. -/
structure Duty (κ : Type) where
  handle : κ
  vital : Bool

/-- What is left to do once the call of `duty` has ended. -/
def Duty.remaining (duty : Duty κ) (result : CallResult) (rest : List (Duty κ)) :
    List (Duty κ) :=
  if duty.vital && result.failure?.isSome then [] else rest

/-- The action, then the checks; checks are not vital. -/
def Step.duties (step : Step κ) : List (Duty κ) :=
  (step.input.map fun input => ⟨input.action, true⟩).toList ++
    step.checks.map fun check => ⟨check.body, false⟩

/-- The handle called after calls that ended in `results`, if there is one; the stop hook
comes when nothing else is left. -/
def nextDue (stop : Option κ) : List (Duty κ) → List CallResult → Option κ
  | [], [] => stop
  | [], _ :: _ => none
  | duty :: _, [] => some duty.handle
  | duty :: rest, result :: results => nextDue stop (duty.remaining result rest) results

/-- The handle that a scenario calls next, by how its own calls so far have ended. -/
def Hooks.nextDue (hooks : Hooks κ) (planned : PlannedScenario κ) : List CallResult → Option κ :=
  ScenarioGraph.nextDue hooks.stop
    ((hooks.start.map fun hook => ⟨hook, true⟩).toList ++ planned.steps.flatMap Step.duties)

/-- Every call was the next one by the results before it, and after the last call there
was none. -/
def Follows (next : List CallResult → Option κ) (calls : List (Call κ)) : Prop :=
  ∀ k ≤ calls.length, next ((calls.take k).map Call.result) = calls[k]?.map Call.handle

section

variable {stop : Option κ} {duties : List (Duty κ)} {calls : List (Call κ)} {step : Step κ}

/-- The first duty is called, and how its call ends decides what is left. -/
theorem Follows.cons (duty : Duty κ) {result : CallResult}
    (later : Follows (nextDue stop (duty.remaining result duties)) calls) :
    Follows (nextDue stop (duty :: duties)) (⟨duty.handle, result⟩ :: calls) := by
  intro k within
  cases k with
  | zero =>
      rw [List.take_zero, List.map_nil, nextDue]
      rfl
  | succ k =>
      rw [List.take_succ_cons, List.map_cons, nextDue, List.getElem?_cons_succ]
      exact later k (Nat.le_of_succ_le_succ within)

/-- When nothing else is left, the stop hook is called, and that is all. -/
theorem CalledOnce.follows {failure : Option String} (once : CalledOnce stop calls failure) :
    Follows (nextDue stop []) calls := by
  cases once with
  | absent =>
      intro k within
      obtain rfl := Nat.le_zero.1 within
      rw [List.take_zero, List.map_nil, nextDue]
      rfl
  | called hook result =>
      intro k within
      have : k = 0 ∨ k = 1 := by
        rw [List.length_singleton] at within
        omega
      rcases this with rfl | rfl
      · rw [List.take_zero, List.map_nil, nextDue]
        rfl
      · show nextDue (some hook) [] [result] = none
        rw [nextDue]

/-- A start hook that fails leaves nothing but the stop hook. -/
theorem CalledOnce.follows_before {start : Option κ} {started : List (Call κ)}
    {failure : Option String} (once : CalledOnce start started failure)
    (later : Follows (nextDue stop (if failure.isSome then [] else duties)) calls) :
    Follows (nextDue stop ((start.map fun hook => ⟨hook, true⟩).toList ++ duties))
      (started ++ calls) := by
  cases once with
  | absent => exact later
  | called hook result =>
      refine Follows.cons ⟨hook, true⟩ ?_
      rw [Duty.remaining, Bool.true_and]
      exact later

/-- A check takes its turn, whether it fails or not. -/
theorem Follows.checks {checks : List (ChosenCheck κ)} {checked : List (Call κ)}
    (handles : checked.map Call.handle = checks.map ChosenCheck.body)
    (later : Follows (nextDue stop duties) calls) :
    Follows (nextDue stop ((checks.map fun check => ⟨check.body, false⟩) ++ duties))
      (checked ++ calls) := by
  induction checks generalizing checked with
  | nil =>
      rw [List.map_eq_nil_iff.1 handles]
      exact later
  | cons check rest ih =>
      cases checked with
      | nil => cases handles
      | cons made checked =>
          rw [List.map_cons, List.map_cons, List.cons.injEq] at handles
          have front : made = ⟨check.body, made.result⟩ := by rw [← handles.1]
          rw [front]
          exact Follows.cons ⟨check.body, false⟩ (ih handles.2)

/-- A step that completes leaves what comes after it. -/
theorem Step.Completes.follows {made : List (Call κ)} {outcome : StepOutcome}
    (completes : step.Completes made outcome) (later : Follows (nextDue stop duties) calls) :
    Follows (nextDue stop (step.duties ++ duties)) (made ++ calls) := by
  obtain ⟨acted, checked, rfl, acts, reported⟩ := completes
  have checking := later.checks reported.handles
  unfold Step.duties
  rw [List.append_assoc, List.append_assoc]
  generalize outcome.action = action at acts
  cases acts with
  | absent none =>
      rw [none]
      exact checking
  | @passed input chosen =>
      rw [chosen]
      exact Follows.cons ⟨input.action, true⟩ checking

/-- A step that fails leaves nothing but the stop hook. -/
theorem Step.Fails.follows {last : List (Call κ)} {outcome : StepOutcome} {reason : String}
    (fails : step.Fails last outcome reason) (ended : Follows (nextDue stop []) calls) :
    Follows (nextDue stop (step.duties ++ duties)) (last ++ calls) := by
  obtain ⟨input, result, detail, chosen, rfl, failure, -⟩ := fails
  unfold Step.duties
  rw [chosen]
  refine Follows.cons ⟨input.action, true⟩ ?_
  rw [Duty.remaining, failure]
  exact ended

end

/-- The calls of a run follow the order of the steps, up to the action that fails. -/
theorem StopsAt.follows {stop : Option κ} {steps : List (Step κ)} {f : Nat}
    {segments : List (List (Call κ))} {last stopped : List (Call κ)}
    {outcomes : List StepOutcome} (stops : StopsAt steps f segments last outcomes)
    (ended : Follows (nextDue stop []) stopped) :
    Follows (nextDue stop (steps.flatMap Step.duties)) (segments.flatten ++ last ++ stopped) := by
  induction steps generalizing f segments outcomes with
  | nil =>
      have none : f = 0 := Nat.le_zero.1 stops.le_length
      rw [List.length_eq_zero_iff.1 (stops.length_segments.trans none), stops.at_end none]
      exact ended
  | cons step rest ih =>
      rw [List.flatMap_cons]
      rcases stops.cons_cases with
        ⟨outcome, others, reason, rfl, rfl, fails, -⟩ |
        ⟨n, calls, later, outcome, others, rfl, rfl, completes, stops⟩
      · exact fails.follows ended
      · rw [List.flatten_cons, List.append_assoc, List.append_assoc, ← List.append_assoc later.flatten]
        exact completes.follows (ih stops)

/-- The results of a scenario's own calls decide which handle it calls next. -/
theorem Hooks.Brackets.follows {hooks : Hooks κ} {planned : PlannedScenario κ}
    {calls : List (Call κ)} {result : ScenarioRun} (brackets : hooks.Brackets planned calls result) :
    Follows (hooks.nextDue planned) calls := by
  obtain ⟨started, inner, stopped, rfl, starting, between, stopping⟩ := brackets.bracketed
  have ended := stopping.follows
  unfold Hooks.nextDue
  rw [List.append_assoc]
  apply starting.follows_before
  generalize result.startHookFailure = startFailure at between
  generalize result.steps = outcomes at between
  cases between with
  | ran stops => exact stops.follows ended
  | kept detail => exact ended

/-! ## Suites -/

/-- **Every scenario of a suite is bracketed by its hooks**, in the order of the suite and
whatever the calls do: there is one result for each scenario, and the calls made are those
of the scenarios, one scenario after the other.  Which handle a scenario calls next is
decided by the results of its own calls; and what the stop hook does becomes one entry of
the result, in which the steps are those of a run without it. -/
theorem suite_run_brackets (hooks : Hooks κ) (suite : Suite κ) (call : κ → StateM σ CallResult)
    (world : σ) :
    (∃ (made : List (List (Call κ) × ScenarioRun)) (final : σ),
      (suite.run hooks call).run world = (⟨made.map Prod.snd⟩, final) ∧
      (suite.run hooks (recording call)).run (world, []) =
        (⟨made.map Prod.snd⟩, final, made.flatMap Prod.fst) ∧
      List.Forall₂ (fun planned (calls, result) => hooks.Brackets planned calls result ∧
        Follows (hooks.nextDue planned) calls) suite.scenarios made) ∧
    ∀ planned, hooks.run call planned = (do
      let result ← Hooks.run ⟨hooks.start, none⟩ call planned
      let failure ← Hooks.invokeHook call hooks.stop
      return { result with stopHookFailure := failure }) := by
  refine ⟨?_, Hooks.run_eq call hooks⟩
  obtain ⟨made, final, performed, brackets⟩ :=
    exists_performs_scenarios call hooks suite.scenarios world
  have finished := performed.returning SuiteRun.mk
  refine ⟨made, final, finished.plain_run, finished.recorded_run [], ?_⟩
  exact brackets.imp fun planned made brackets => ⟨brackets, brackets.follows⟩

end ScenarioGraph
