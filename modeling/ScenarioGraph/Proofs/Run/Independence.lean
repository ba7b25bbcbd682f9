/-
# ScenarioGraph.Proofs.Run.Independence -- scenarios do not depend on each other

All scenarios of a suite share one world, and each leaves it as it pleases to those that
come after.  The only thing that a scenario can learn of the world is how its own calls
end.  So if each handle always ends in the same way, whatever it does to the world, no
scenario has an effect on the result of another: it may run alone, again, or at another
place of the suite.

* `Steady`: a program that returns the same in every world.  Steady programs compose, so
  a run of steady handles is steady.
* `Steady.run_mapM`: the results of a list of programs are those of each of them alone.
* `scenarios_independent`: what this says about scenarios and suites.
-/
import ScenarioGraph.Run.Execution
import Mathlib.Data.List.Basic

namespace ScenarioGraph

set_option autoImplicit false

variable {κ σ α β : Type}

/-! ## Steady programs -/

/-- The program returns the same in every world; what it does to the world is open. -/
def Steady (program : StateM σ α) : Prop :=
  ∀ world world', (program.run world).1 = (program.run world').1

theorem steady_pure (value : α) : Steady (σ := σ) (pure value) := by
  intro world world'
  rfl

theorem Steady.bind {program : StateM σ α} {next : α → StateM σ β} (first : Steady program)
    (rest : ∀ value, Steady (next value)) : Steady (program >>= next) := by
  intro world world'
  rw [StateT.run_bind, StateT.run_bind]
  show ((next (program.run world).1).run _).1 = ((next (program.run world').1).run _).1
  rw [first world world']
  apply rest

/-- One after another, steady programs return what each of them returns alone. -/
theorem Steady.run_mapM {body : α → StateM σ β} (each : ∀ item, Steady (body item))
    (items : List α) (world alone : σ) :
    ((items.mapM body).run world).1 = items.map fun item => ((body item).run alone).1 := by
  induction items generalizing world with
  | nil => rfl
  | cons item rest ih =>
      rw [List.mapM_cons, List.map_cons, ← ih ((body item).run world).2, each item alone world]
      rfl

theorem steady_mapM {body : α → StateM σ β} (each : ∀ item, Steady (body item))
    (items : List α) : Steady (items.mapM body) := by
  intro world world'
  rw [Steady.run_mapM each items world world, Steady.run_mapM each items world' world]

/-! ## Steady handles -/

section

variable {call : κ → StateM σ CallResult} (steady : ∀ handle, Steady (call handle))
include steady

theorem steady_invoke (handle : κ) : Steady (invoke call handle) :=
  (steady handle).bind fun _ => steady_pure _

theorem steady_runCheck (check : ChosenCheck κ) : Steady (runCheck call check) := by
  apply (steady_invoke steady check.body).bind
  intro failure
  cases failure <;> exact steady_pure _

/-- A run of steps is steady, wherever it stops. -/
theorem steady_runSteps (steps : List (Step κ)) : Steady (runSteps call steps) := by
  induction steps with
  | nil => exact steady_pure []
  | cons step rest ih =>
      -- the checks and the later steps run unless the action fails
      have goesOn (action : ActionOutcome) : Steady (do
          let checks ← step.checks.mapM (runCheck call)
          let later ← runSteps call rest
          return step.outcome action checks :: later) := by
        apply (steady_mapM (steady_runCheck steady) step.checks).bind
        intro checks
        apply ih.bind
        exact fun later => steady_pure _
      rw [runSteps]
      cases step.input with
      | none => exact goesOn .absent
      | some input =>
          apply (steady_invoke steady input.action).bind
          intro failure
          cases failure with
          | none => exact goesOn .passed
          | some detail => exact steady_pure _

theorem steady_invokeHook (hook : Option κ) : Steady (Hooks.invokeHook call hook) := by
  cases hook with
  | none => exact steady_pure none
  | some handle => exact steady_invoke steady handle

theorem Hooks.steady_run (hooks : Hooks κ) (planned : PlannedScenario κ) :
    Steady (hooks.run call planned) := by
  apply (steady_invokeHook steady hooks.start).bind
  intro startFailure
  have stops (outcomes : List StepOutcome) : Steady (do
      let stopFailure ← Hooks.invokeHook call hooks.stop
      return (⟨planned.name, outcomes, startFailure, stopFailure⟩ : ScenarioRun)) :=
    (steady_invokeHook steady hooks.stop).bind fun _ => steady_pure _
  cases startFailure with
  | none => exact (steady_runSteps steady planned.steps).bind stops
  | some detail => exact (steady_pure _).bind stops

/-- The results of a suite are those of its scenarios, each run alone. -/
theorem Suite.results_run (hooks : Hooks κ) (suite : Suite κ) (world alone : σ) :
    ((suite.run hooks call).run world).1.results =
      suite.scenarios.map fun planned => ((hooks.run call planned).run alone).1 :=
  Steady.run_mapM (hooks.steady_run steady) suite.scenarios world alone

end

/-! ## Independence -/

/-- **Scenarios do not depend on each other.**  If each handle always ends in the same way,
a suite gives for each scenario the result that it gives alone, in any world, and gives
again.  Scenarios at other places have their results at these places; and in another order
as many of them pass and fail, with the same failures. -/
theorem scenarios_independent {call : κ → StateM σ CallResult}
    (steady : ∀ handle, Steady (call handle)) (hooks : Hooks κ) :
    (∀ planned world world',
        ((hooks.run call planned).run world).1 = ((hooks.run call planned).run world').1) ∧
      ∀ (suite : Suite κ) world,
        let report := ((suite.run hooks call).run world).1
        (∀ alone, report.results =
          suite.scenarios.map fun planned => ((hooks.run call planned).run alone).1) ∧
        ∀ (other : Suite κ) world',
          let report' := ((other.run hooks call).run world').1
          (∀ places : List Nat, other.scenarios = places.filterMap (suite.scenarios[·]?) →
            report'.results = places.filterMap (report.results[·]?)) ∧
          (other.scenarios.Perm suite.scenarios →
            report'.passed = report.passed ∧ report'.failed = report.failed ∧
              report'.failures.Perm report.failures) := by
  refine ⟨hooks.steady_run steady, fun suite world => ?_⟩
  refine ⟨Suite.results_run steady hooks suite world, fun other world' => ⟨?_, ?_⟩⟩
  · intro places moved
    rw [Suite.results_run steady hooks suite world world,
      Suite.results_run steady hooks other world' world, moved, List.map_filterMap]
    simp only [List.getElem?_map]
  · intro perm
    have results : ((other.run hooks call).run world').1.results.Perm
        ((suite.run hooks call).run world).1.results := by
      rw [Suite.results_run steady hooks suite world world,
        Suite.results_run steady hooks other world' world]
      exact perm.map _
    have passed := results.countP_eq ScenarioRun.isSuccess
    refine ⟨passed, ?_, results.flatMap_right _⟩
    unfold SuiteRun.failed SuiteRun.passed
    rw [passed, results.length_eq]

namespace Tally

/-- Count the call in the world; only a fine handle ends well. -/
def call (fine : Bool) : StateM Nat CallResult := do
  modify (· + 1)
  return if fine then .done else .failed "stuck"

theorem steady_call (fine : Bool) : Steady (call fine) := by
  intro world world'
  rfl

def hooks : Hooks Bool := ⟨some true, none⟩

/-- A scenario that visits the node only, where it calls one handle. -/
def visit (node : Name) (fine : Bool) : PlannedScenario Bool :=
  ⟨⟨0, node, [node]⟩, [⟨0, node, stepLabel 0 node, some ⟨"push", fine⟩, []⟩]⟩

def forth : Suite Bool := ⟨0, [visit "A" true, visit "B" false]⟩

def back : Suite Bool := ⟨0, [visit "B" false, visit "A" true]⟩

end Tally

open Tally in
theorem tally_scenarios_independent :
    (∀ fine, Steady (call fine)) ∧ back.scenarios = [1, 0].filterMap (forth.scenarios[·]?) ∧
      ((back.run hooks call).run 5).1.results =
        [1, 0].filterMap (((forth.run hooks call).run 0).1.results[·]?) := by
  have moved : back.scenarios = [1, 0].filterMap (forth.scenarios[·]?) := rfl
  have placed := (((scenarios_independent steady_call hooks).2 forth 0).2 back 5).1
  exact ⟨steady_call, moved, placed [1, 0] moved⟩

end ScenarioGraph
