/-
# ScenarioGraph.Proofs.Plan.Numbering -- finding a check in a suite

Three things find a check of a suite again: the name of its scenario, the position of
its step and its own name.  Scenarios have different names, positions count the steps of
a scenario from zero, and the checks of a step are some of the checks of its node, which
have different names in every graph that is built.

* `increasing_checkNames_of_build`, `nodup_checkNames_of_build`: the checks of a node come in
  name order, under different names.
* `numbered_stepsAfter`: positions count on from the length of the history.
* `planSuite_numbered`: every scenario of a planned suite is numbered, and its name finds
  it.
-/
import ScenarioGraph.Proofs.Graph.Representation
import ScenarioGraph.Proofs.Plan.Lookup

namespace ScenarioGraph

set_option autoImplicit false

variable {κ : Type}

/-! ## The checks of a node -/

/-- The checks of a node of a built graph come in strict name order. -/
theorem increasing_checkNames_of_build {d : Declaration κ} {g : Graph κ}
    (built : d.build = .ok g) :
    ∀ node ∈ g.nodes, (node.checks.map Check.name).Pairwise (· < ·) := by
  intro node member
  obtain ⟨_, -, represents⟩ := exists_represents_of_mem built member
  exact represents.increasing

/-- They have different names. -/
theorem nodup_checkNames_of_build {d : Declaration κ} {g : Graph κ} (built : d.build = .ok g) :
    ∀ node ∈ g.nodes, (node.checks.map Check.name).Nodup := by
  intro node member
  exact (increasing_checkNames_of_build built node member).imp String.ne_of_lt

/-! ## The steps of a scenario -/

/-- Positions count the steps from `first` on, and the checks of a step have different
names. -/
def NumberedFrom (first : Nat) (steps : List (Step κ)) : Prop :=
  ∀ i step, steps[i]? = some step →
    step.position = first + i ∧ (step.checks.map ChosenCheck.name).Nodup

theorem NumberedFrom.cons {first : Nat} {step : Step κ} {rest : List (Step κ)}
    (position : step.position = first) (distinct : (step.checks.map ChosenCheck.name).Nodup)
    (later : NumberedFrom (first + 1) rest) : NumberedFrom first (step :: rest) := by
  intro i other found
  cases i with
  | zero =>
      obtain rfl := Option.some.inj found
      exact ⟨position, distinct⟩
  | succ i =>
      obtain ⟨position, distinct⟩ := later i other found
      exact ⟨by omega, distinct⟩

namespace Graph

variable {g : Graph κ} {scenario : String} {history : History} {name : Name}

/-- A step stands where the history ends, and its checks are those that apply there. -/
theorem stepAt_eq_ok {step : Step κ} (planned : g.stepAt scenario history name = .ok step) :
    step.position = history.size ∧ ∃ node ∈ g.nodes,
      step.checks = (node.applicable history).map fun check => ⟨check.name, check.body⟩ := by
  obtain ⟨node, found, -, rfl⟩ := stepAt_eq_ok_iff.1 planned
  exact ⟨rfl, node, List.mem_of_find?_eq_some found, rfl⟩

theorem nodup_checkNames_of_stepAt
    (distinct : ∀ node ∈ g.nodes, (node.checks.map Check.name).Nodup) {step : Step κ}
    (planned : g.stepAt scenario history name = .ok step) :
    (step.checks.map ChosenCheck.name).Nodup := by
  obtain ⟨-, node, member, checks⟩ := stepAt_eq_ok planned
  have names : step.checks.map ChosenCheck.name = (node.applicable history).map Check.name := by
    rw [checks, List.map_map]
    rfl
  rw [names]
  exact (distinct node member).sublist (List.filter_sublist.map Check.name)

theorem numbered_stepsAfter (distinct : ∀ node ∈ g.nodes, (node.checks.map Check.name).Nodup)
    {nodes : NodeSequence} {steps : List (Step κ)}
    (planned : g.stepsAfter scenario history nodes = .ok steps) :
    NumberedFrom history.size steps := by
  induction nodes generalizing history steps with
  | nil =>
      cases planned
      exact fun i step found => by cases found
  | cons name rest ih =>
      obtain ⟨step, later, now, others, rfl⟩ := stepsAfter_cons_eq_ok_iff.1 planned
      have numbered := ih others
      rw [Array.size_push] at numbered
      exact .cons (stepAt_eq_ok now).1 (nodup_checkNames_of_stepAt distinct now) numbered

/-- Each planned scenario has the steps of its scenario. -/
theorem steps_of_mem_planScenarios {repetitions : Nat} {scenarios : List Scenario}
    {suite : Suite κ} (made : g.planScenarios repetitions scenarios = .ok suite) :
    ∀ planned ∈ suite.scenarios, g.steps planned.scenario = .ok planned.steps := by
  obtain ⟨all, each, made⟩ := bind_eq_ok_iff.1 made
  cases made
  intro planned member
  obtain ⟨scenario, -, plans⟩ := exists_mem_of_forall₂ (mapM_eq_ok_iff.1 each) member
  obtain ⟨steps, found, made⟩ := bind_eq_ok_iff.1 plans
  cases made
  exact found

end Graph

/-! ## The scenarios of a suite -/

/-- The name of a scenario finds it in a planned suite, and its steps are numbered. -/
theorem planSuite_numbered {d : Declaration κ} {g : Graph κ} (built : d.build = .ok g)
    {repetitions : Nat} {suite : Suite κ} (made : g.planSuite repetitions = .ok suite) :
    (suite.scenarios.map PlannedScenario.name).Nodup ∧
      ∀ planned ∈ suite.scenarios, NumberedFrom 0 planned.steps := by
  obtain ⟨sequences, made⟩ := Graph.planScenarios_of_planSuite made
  constructor
  · exact Graph.nodup_names_of_planScenarios made
  · intro planned member
    have steps := Graph.steps_of_mem_planScenarios made planned member
    rw [Graph.steps_eq] at steps
    exact Graph.numbered_stepsAfter (nodup_checkNames_of_build built) steps

end ScenarioGraph
