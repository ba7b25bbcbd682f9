/-
# ScenarioGraph.Proofs.Plan.Step -- planning, one position at a time

Planning a scenario threads the history along its nodes.  `Graph.stepsAfter` is
the same plan as a recursion on the nodes that are left (`steps_eq`), and a plan
succeeds exactly if it succeeds at every position.

* `stepAt_eq_ok_iff`, `exists_stepAt_iff`: a position can be planned if its node is declared
  and at most one input accepts the history, and what the step is then.
* `stepsAfter_cons_eq_ok_iff`: a plan is the step of the first node and the plan of the rest.
* `exists_stepsAfter_iff`, `exists_planSuite_iff`: the same for all positions of a
  scenario, and for all sequences that are enumerated (`Graph.Resolves`).
-/
import ScenarioGraph.Plan.Suite
import ScenarioGraph.Proofs.Attempt
import ScenarioGraph.Proofs.Scenario.Sequence

namespace ScenarioGraph

set_option autoImplicit false

variable {κ : Type}

namespace Graph

variable {g : Graph κ} {scenario : String} {history : History} {name : Name}

/-! ## Positions of a scenario -/

/-- The steps of the nodes that are left, after the history. -/
def stepsAfter (g : Graph κ) (scenario : String) :
    History → NodeSequence → Except GraphError (List (Step κ))
  | _, [] => .ok []
  | history, name :: rest => do
      let step ← g.stepAt scenario history name
      let later ← g.stepsAfter scenario (history.push name) rest
      .ok (step :: later)

theorem run_advance (g : Graph κ) (scenario : String) (history : History) (name : Name) :
    (g.advance scenario name).run history =
      (g.stepAt scenario history name).map fun step => (step, history.push name) := by
  simp only [advance, StateT.run_bind, StateT.run_get, StateT.run_monadLift, StateT.run_set,
    StateT.run_pure, monadLift_self, bind_assoc, pure_bind]
  cases g.stepAt scenario history name <;> rfl

theorem run'_mapM_advance (g : Graph κ) (scenario : String) (history : History)
    (nodes : NodeSequence) :
    (nodes.mapM (g.advance scenario)).run' history = g.stepsAfter scenario history nodes := by
  induction nodes generalizing history with
  | nil => rfl
  | cons name rest ih =>
      rw [stepsAfter, ← ih, List.mapM_cons, StateT.run'_eq, StateT.run_bind, run_advance]
      cases g.stepAt scenario history name with
      | error failure => rfl
      | ok step =>
          change Prod.fst <$> ((rest.mapM (g.advance scenario) >>= fun later =>
            pure (step :: later)).run (history.push name)) = _
          rw [StateT.run_bind, StateT.run'_eq]
          cases (rest.mapM (g.advance scenario)).run (history.push name) <;> rfl

theorem steps_eq (g : Graph κ) (scenario : Scenario) :
    g.steps scenario = g.stepsAfter scenario.name #[] scenario.nodes :=
  g.run'_mapM_advance scenario.name #[] scenario.nodes

/-- A step is planned for a declared node with at most one candidate, which it takes. -/
theorem stepAt_eq_ok_iff {step : Step κ} :
    g.stepAt scenario history name = .ok step ↔ ∃ node, g.node? name = some node ∧
      (node.candidates history).length ≤ 1 ∧ step =
        { position := history.size
          node := name
          label := stepLabel history.size name
          input := (node.candidates history).head?.map fun input => ⟨input.label, input.action⟩
          checks := (node.applicable history).map fun check => ⟨check.name, check.body⟩ } := by
  unfold stepAt
  cases g.node? name with
  | none => simp
  | some node =>
      cases accepting : node.candidates history with
      | nil => simp [accepting, eq_comm]
      | cons input others =>
          cases others with
          | nil => simp [accepting, eq_comm]
          | cons other others => simp [accepting]

/-- A position can be planned if its node is declared and not ambiguous there. -/
theorem exists_stepAt_iff :
    (∃ step, g.stepAt scenario history name = .ok step) ↔
      ∃ node, g.node? name = some node ∧ (node.candidates history).length ≤ 1 := by
  simp only [stepAt_eq_ok_iff]
  constructor
  · rintro ⟨step, node, found, unique, -⟩
    exact ⟨node, found, unique⟩
  · rintro ⟨node, found, unique⟩
    exact ⟨_, node, found, unique, rfl⟩

/-- A plan begins with the step of the first node and goes on after it. -/
theorem stepsAfter_cons_eq_ok_iff {rest : NodeSequence} {steps : List (Step κ)} :
    g.stepsAfter scenario history (name :: rest) = .ok steps ↔
      ∃ step later, g.stepAt scenario history name = .ok step ∧
        g.stepsAfter scenario (history.push name) rest = .ok later ∧ steps = step :: later := by
  rw [stepsAfter, bind_eq_ok_iff]
  simp only [bind_eq_ok_iff, Except.ok.injEq]
  constructor
  · rintro ⟨step, now, later, others, rfl⟩
    exact ⟨step, later, now, others, rfl⟩
  · rintro ⟨step, later, now, others, rfl⟩
    exact ⟨step, now, later, others, rfl⟩

theorem exists_stepsAfter_cons_iff {rest : NodeSequence} :
    (∃ steps, g.stepsAfter scenario history (name :: rest) = .ok steps) ↔
      (∃ step, g.stepAt scenario history name = .ok step) ∧
        ∃ later, g.stepsAfter scenario (history.push name) rest = .ok later := by
  simp only [stepsAfter_cons_eq_ok_iff]
  constructor
  · rintro ⟨_, step, later, now, others, rfl⟩
    exact ⟨⟨step, now⟩, later, others⟩
  · rintro ⟨⟨step, now⟩, later, others⟩
    exact ⟨_, step, later, now, others, rfl⟩

/-- A scenario can be planned if every position can, after the nodes before it. -/
theorem exists_stepsAfter_iff {nodes : NodeSequence} :
    (∃ steps, g.stepsAfter scenario history nodes = .ok steps) ↔
      ∀ front name back, nodes = front ++ name :: back →
        ∃ step, g.stepAt scenario (history ++ front.toArray) name = .ok step := by
  induction nodes generalizing history with
  | nil => simp [stepsAfter]
  | cons first rest ih =>
      rw [exists_stepsAfter_cons_iff, ih]
      constructor
      · rintro ⟨now, later⟩ front name back split
        cases front with
        | nil =>
            obtain ⟨rfl, rfl⟩ := List.cons.inj split
            simpa using now
        | cons _ front =>
            obtain ⟨rfl, rfl⟩ := List.cons.inj split
            simpa using later front name back rfl
      · intro positions
        constructor
        · simpa using positions [] first rest rfl
        · intro front name back split
          have := positions (first :: front) name back (by rw [split, List.cons_append])
          simpa using this

/-! ## Suites -/

theorem exists_planScenario_iff {scenario : Scenario} :
    (∃ planned, g.planScenario scenario = .ok planned) ↔ ∃ steps, g.steps scenario = .ok steps := by
  unfold planScenario
  cases g.steps scenario <;> simp [bind, Except.bind]

theorem exists_planScenarios_iff {repetitions : Nat} {scenarios : List Scenario} :
    (∃ suite, g.planScenarios repetitions scenarios = .ok suite) ↔
      ∀ scenario ∈ scenarios, ∃ steps, g.steps scenario = .ok steps := by
  simp only [← exists_planScenario_iff, ← exists_mapM_ok_iff]
  unfold planScenarios
  cases scenarios.mapM g.planScenario <;> simp [bind, Except.bind]

/-- Every node of the sequence is declared, and at most one of its inputs accepts the
nodes before it. -/
def Resolves (g : Graph κ) (nodes : NodeSequence) : Prop :=
  ∀ front name back, nodes = front ++ name :: back →
    ∃ node, g.node? name = some node ∧ (node.candidates front.toArray).length ≤ 1

theorem exists_steps_iff {scenario : Scenario} :
    (∃ steps, g.steps scenario = .ok steps) ↔ g.Resolves scenario.nodes := by
  simp only [Resolves, steps_eq, exists_stepsAfter_iff, exists_stepAt_iff, Array.empty_append]

theorem planSuite_eq (declared : g.start ∈ g.names) (repetitions : Nat) :
    g.planSuite repetitions =
      g.planScenarios repetitions (nameScenarios (g.sequences g.start repetitions)) := by
  rw [planSuite, scenarios, scenariosFrom_eq_ok declared]
  rfl

/-- A suite can be planned if every position of every sequence can. -/
theorem exists_planSuite_iff {repetitions : Nat} (declared : g.start ∈ g.names) :
    (∃ suite, g.planSuite repetitions = .ok suite) ↔
      ∀ nodes ∈ g.sequences g.start repetitions, g.Resolves nodes := by
  simp only [planSuite_eq declared, exists_planScenarios_iff, exists_steps_iff]
  exact forall_mem_nameScenarios _ g.Resolves

end Graph

end ScenarioGraph
