/-
# ScenarioGraph.Proofs.Plan.FirstAmbiguity -- the defect that planning reports

Every node of an enumerated scenario is declared, so nothing but an ambiguity can
stop the plan of a built graph.  Scenarios are planned in order and each from its
first node on; hence the defect reported is the first ambiguous position of the first
scenario that has one, with all the inputs that accept the history there.

* `stepsAfter_eq_error_iff`: a scenario fails at its first position that fails.
* `Graph.FirstAmbiguity`: what a report of the first ambiguity says.
* `planSuite_first_ambiguity`: planning a built graph fails with that report, or
  plans every scenario with a step for each node.
-/
import ScenarioGraph.Proofs.Plan.Step
import ScenarioGraph.Proofs.Scenario.Coverage

namespace ScenarioGraph

set_option autoImplicit false

variable {κ : Type}

namespace Graph

variable {g : Graph κ} {label : String} {history : History} {name : Name} {failure : GraphError}

/-! ## Positions that fail -/

/-- A declared node fails exactly where several of its inputs accept the history. -/
theorem stepAt_eq_error_iff {node : Node κ} (declared : g.node? name = some node) :
    g.stepAt label history name = .error failure ↔
      2 ≤ (node.candidates history).length ∧
        failure = .ambiguousInput label history.size name
          ((node.candidates history).map Input.label) history := by
  unfold stepAt
  rw [declared]
  cases accepting : node.candidates history with
  | nil => simp [accepting]
  | cons input others =>
      cases others with
      | nil => simp [accepting]
      | cons other others => simp [accepting, eq_comm]

theorem node_of_stepAt {step : Step κ} (planned : g.stepAt label history name = .ok step) :
    step.node = name := by
  obtain ⟨node, -, -, rfl⟩ := stepAt_eq_ok_iff.1 planned
  rfl

theorem stepsAfter_cons_eq_error_iff {rest : NodeSequence} :
    g.stepsAfter label history (name :: rest) = .error failure ↔
      g.stepAt label history name = .error failure ∨
        (∃ step, g.stepAt label history name = .ok step) ∧
          g.stepsAfter label (history.push name) rest = .error failure := by
  rw [stepsAfter, bind_eq_error_iff]
  simp [bind_eq_error_iff]

/-- A scenario fails at its first position that fails, after the nodes before it. -/
theorem stepsAfter_eq_error_iff {nodes : NodeSequence} :
    g.stepsAfter label history nodes = .error failure ↔
      ∃ front name back, nodes = front ++ name :: back ∧
        (∃ steps, g.stepsAfter label history front = .ok steps) ∧
        g.stepAt label (history ++ front.toArray) name = .error failure := by
  induction nodes generalizing history with
  | nil => simp [stepsAfter]
  | cons first rest ih =>
      rw [stepsAfter_cons_eq_error_iff]
      constructor
      · rintro (now | ⟨now, later⟩)
        · exact ⟨[], first, rest, rfl, ⟨[], rfl⟩, by simpa using now⟩
        · obtain ⟨front, name, back, rfl, fine, fails⟩ := ih.1 later
          refine ⟨first :: front, name, back, rfl, ?_, by simpa using fails⟩
          exact exists_stepsAfter_cons_iff.2 ⟨now, fine⟩
      · rintro ⟨front, name, back, split, fine, fails⟩
        cases front with
        | nil =>
            obtain ⟨rfl, rfl⟩ := List.cons.inj split
            exact Or.inl (by simpa using fails)
        | cons _ front =>
            obtain ⟨rfl, rfl⟩ := List.cons.inj split
            obtain ⟨now, fine⟩ := exists_stepsAfter_cons_iff.1 fine
            exact Or.inr ⟨now, ih.2 ⟨front, name, back, rfl, fine, by simpa using fails⟩⟩

/-- Steps come one for each node, in order. -/
theorem map_node_stepsAfter {nodes : NodeSequence} {steps : List (Step κ)}
    (planned : g.stepsAfter label history nodes = .ok steps) : steps.map Step.node = nodes := by
  induction nodes generalizing history steps with
  | nil =>
      cases planned
      rfl
  | cons first rest ih =>
      obtain ⟨step, later, now, others, rfl⟩ := stepsAfter_cons_eq_ok_iff.1 planned
      rw [List.map_cons, node_of_stepAt now, ih others]

/-! ## Ambiguous positions -/

/-- Several inputs of the node `name` accept the history `front`. -/
def Ambiguous (g : Graph κ) (front : NodeSequence) (name : Name) : Prop :=
  ∃ node, g.node? name = some node ∧ 2 ≤ (node.candidates front.toArray).length

/-- Some position of the sequence is ambiguous after the nodes before it. -/
def HasAmbiguity (g : Graph κ) (nodes : NodeSequence) : Prop :=
  ∃ front name back, nodes = front ++ name :: back ∧ g.Ambiguous front name

/-- The failure reports the first ambiguous position of the scenario: no position before
it is ambiguous, and it lists the labels of all inputs that accept the history there. -/
def ReportsFirst (g : Graph κ) (scenario : Scenario) (failure : GraphError) : Prop :=
  ∃ front name back node, scenario.nodes = front ++ name :: back ∧ ¬ g.HasAmbiguity front ∧
    g.node? name = some node ∧ 2 ≤ (node.candidates front.toArray).length ∧
    failure = .ambiguousInput scenario.name front.length name
      ((node.candidates front.toArray).map Input.label) front.toArray

/-- The failure reports the first ambiguous position of the first scenario that has one. -/
def FirstAmbiguity (g : Graph κ) (scenarios : List Scenario) (failure : GraphError) : Prop :=
  ∃ before scenario after, scenarios = before ++ scenario :: after ∧
    (∀ earlier ∈ before, ¬ g.HasAmbiguity earlier.nodes) ∧ g.ReportsFirst scenario failure

theorem exists_node?_iff : (∃ node, g.node? name = some node) ↔ name ∈ g.names := by
  rw [← contains_iff, contains, Option.isSome_iff_exists]

/-- Declared nodes can be planned exactly if they have no ambiguity. -/
theorem exists_stepsAfter_iff_not_hasAmbiguity {nodes : NodeSequence}
    (declared : ∀ name ∈ nodes, name ∈ g.names) :
    (∃ steps, g.stepsAfter label #[] nodes = .ok steps) ↔ ¬ g.HasAmbiguity nodes := by
  rw [exists_stepsAfter_iff]
  constructor
  · rintro planned ⟨front, name, back, split, node, found, several⟩
    obtain ⟨same, isFound, unique⟩ := exists_stepAt_iff.1 (planned front name back split)
    obtain rfl := Option.some.inj (found.symm.trans isFound)
    rw [Array.empty_append] at unique
    omega
  · rintro clear front name back rfl
    obtain ⟨node, found⟩ := exists_node?_iff.2 (declared name (by simp))
    refine exists_stepAt_iff.2 ⟨node, found, ?_⟩
    rw [Array.empty_append]
    by_contra several
    exact clear ⟨front, name, back, rfl, node, found, by omega⟩

/-! ## Scenarios and suites -/

theorem exists_planScenario_iff_not_hasAmbiguity {scenario : Scenario}
    (declared : ∀ name ∈ scenario.nodes, name ∈ g.names) :
    (∃ planned, g.planScenario scenario = .ok planned) ↔ ¬ g.HasAmbiguity scenario.nodes := by
  rw [exists_planScenario_iff, steps_eq, exists_stepsAfter_iff_not_hasAmbiguity declared]

/-- A scenario of declared nodes fails with a report of its first ambiguity. -/
theorem planScenario_eq_error_iff {scenario : Scenario}
    (declared : ∀ name ∈ scenario.nodes, name ∈ g.names) :
    g.planScenario scenario = .error failure ↔ g.ReportsFirst scenario failure := by
  have opened : g.planScenario scenario = .error failure ↔
      g.stepsAfter scenario.name #[] scenario.nodes = .error failure := by
    rw [planScenario, bind_eq_error_iff, steps_eq]
    simp
  rw [opened, stepsAfter_eq_error_iff]
  refine exists_congr fun front => exists_congr fun name => exists_congr fun back => ?_
  constructor
  · rintro ⟨split, fine, fails⟩
    rw [split] at declared
    obtain ⟨node, found⟩ := exists_node?_iff.2 (declared name (by simp))
    have before : ∀ earlier ∈ front, earlier ∈ g.names := fun earlier member =>
      declared earlier (List.mem_append_left _ member)
    have clear := (exists_stepsAfter_iff_not_hasAmbiguity before).1 fine
    rw [Array.empty_append, stepAt_eq_error_iff found] at fails
    exact ⟨node, split, clear, found, fails.1, fails.2⟩
  · rintro ⟨node, split, clear, found, several, reported⟩
    rw [split] at declared
    have before : ∀ earlier ∈ front, earlier ∈ g.names := fun earlier member =>
      declared earlier (List.mem_append_left _ member)
    refine ⟨split, (exists_stepsAfter_iff_not_hasAmbiguity before).2 clear, ?_⟩
    rw [Array.empty_append, stepAt_eq_error_iff found]
    exact ⟨several, reported⟩

/-- Planning scenarios of declared nodes fails with a report of the first ambiguity. -/
theorem planScenarios_eq_error_iff {repetitions : Nat} {scenarios : List Scenario}
    (declared : ∀ scenario ∈ scenarios, ∀ name ∈ scenario.nodes, name ∈ g.names) :
    g.planScenarios repetitions scenarios = .error failure ↔ g.FirstAmbiguity scenarios failure := by
  have opened : g.planScenarios repetitions scenarios = .error failure ↔
      scenarios.mapM g.planScenario = .error failure := by
    rw [planScenarios, bind_eq_error_iff]
    simp
  rw [opened, mapM_eq_error_iff]
  refine exists_congr fun before => exists_congr fun scenario => exists_congr fun after =>
    and_congr_right fun split => ?_
  subst split
  have earlier : (∀ earlier ∈ before, ∃ planned, g.planScenario earlier = .ok planned) ↔
      ∀ earlier ∈ before, ¬ g.HasAmbiguity earlier.nodes :=
    forall₂_congr fun earlier member =>
      exists_planScenario_iff_not_hasAmbiguity (declared earlier (by simp [member]))
  rw [earlier, planScenario_eq_error_iff (declared scenario (by simp))]

/-- A suite plans the scenarios given, in order, with a step for each node. -/
theorem planScenarios_eq_ok {repetitions : Nat} {scenarios : List Scenario} {suite : Suite κ}
    (planned : g.planScenarios repetitions scenarios = .ok suite) :
    suite.repetitions = repetitions ∧
      suite.scenarios.map PlannedScenario.scenario = scenarios ∧
      ∀ planned ∈ suite.scenarios, planned.steps.map Step.node = planned.scenario.nodes := by
  obtain ⟨all, each, made⟩ := bind_eq_ok_iff.1 planned
  cases made
  have pairs : List.Forall₂ (fun scenario planned => planned.scenario = scenario ∧
      planned.steps.map Step.node = planned.scenario.nodes) scenarios all := by
    refine (mapM_eq_ok_iff.1 each).imp fun scenario planned made => ?_
    obtain ⟨steps, found, made⟩ := bind_eq_ok_iff.1 made
    cases made
    rw [steps_eq] at found
    exact ⟨rfl, map_node_stepsAfter found⟩
  clear each planned
  refine ⟨rfl, ?_, ?_⟩
  · induction pairs with
    | nil => rfl
    | cons pair _ ih => exact congrArg₂ List.cons pair.1 ih
  · induction pairs with
    | nil => simp
    | cons pair _ ih => exact List.forall_mem_cons.2 ⟨pair.2, ih⟩

end Graph

/-! ## Suites of a built graph -/

/-- A node with several inputs has them as they were declared, in their order. -/
theorem inputs_of_build {d : Declaration κ} {g : Graph κ} (built : d.build = .ok g)
    {node : Node κ} (member : node ∈ g.nodes) (several : 2 ≤ node.inputs.length) :
    ∃ declared ∈ d.declared, declared.name = node.name ∧ declared.inputs = node.inputs := by
  obtain ⟨declared, listed, rfl⟩ := (Declaration.mem_nodes_of_build built).1 member
  refine ⟨declared, listed, rfl, ?_⟩
  unfold Node.settle Node.relabelSole at several ⊢
  split at several
  · split at several <;> simp at several
  · rfl

/-- **Planning stops at the first ambiguity, and at nothing else.**  For every built graph
and number of repetitions, planning fails exactly with a report of the first ambiguity
along the scenarios, and it fails exactly if some scenario has one.  Without ambiguity
the suite plans the scenarios in order, each with one step for each of its nodes. -/
theorem planSuite_first_ambiguity {d : Declaration κ} {g : Graph κ} (built : d.build = .ok g)
    (repetitions : Nat) :
    ∃ scenarios, g.scenarios repetitions = .ok scenarios ∧
      (∀ failure, g.planSuite repetitions = .error failure ↔ g.FirstAmbiguity scenarios failure) ∧
      ((∃ failure, g.planSuite repetitions = .error failure) ↔
        ∃ scenario ∈ scenarios, g.HasAmbiguity scenario.nodes) ∧
      ((∀ scenario ∈ scenarios, ¬ g.HasAmbiguity scenario.nodes) →
        ∃ suite, g.planSuite repetitions = .ok suite ∧ suite.repetitions = repetitions ∧
          suite.scenarios.map PlannedScenario.scenario = scenarios ∧
          ∀ planned ∈ suite.scenarios, planned.steps.map Step.node = planned.scenario.nodes) ∧
      (∀ node ∈ g.nodes, 2 ≤ node.inputs.length →
        ∃ declared ∈ d.declared, declared.name = node.name ∧ declared.inputs = node.inputs) := by
  have wf := wellFormed_of_build built
  have declared : ∀ scenario ∈ nameScenarios (g.sequences g.start repetitions),
      ∀ name ∈ scenario.nodes, name ∈ g.names :=
    (forall_mem_nameScenarios _ fun nodes => ∀ name ∈ nodes, name ∈ g.names).2
      fun _ enumerated => wf.mem_names_of_visited wf.start_mem enumerated
  have succeeds : (∃ suite, g.planSuite repetitions = .ok suite) ↔
      ∀ scenario ∈ nameScenarios (g.sequences g.start repetitions),
        ¬ g.HasAmbiguity scenario.nodes := by
    rw [Graph.planSuite_eq wf.start_mem, Graph.exists_planScenarios_iff]
    refine forall₂_congr fun scenario member => ?_
    rw [← Graph.exists_planScenario_iff,
      Graph.exists_planScenario_iff_not_hasAmbiguity (declared scenario member)]
  refine ⟨_, Graph.scenariosFrom_eq_ok wf.start_mem repetitions, ?_, ?_, ?_, ?_⟩
  · intro failure
    rw [Graph.planSuite_eq wf.start_mem]
    exact Graph.planScenarios_eq_error_iff declared
  · have fails : (∃ failure, g.planSuite repetitions = .error failure) ↔
        ¬ ∃ suite, g.planSuite repetitions = .ok suite := by
      cases g.planSuite repetitions <;> simp
    rw [fails, succeeds]
    push Not
    rfl
  · intro clear
    obtain ⟨suite, planned⟩ := succeeds.2 clear
    refine ⟨suite, planned, ?_⟩
    rw [Graph.planSuite_eq wf.start_mem] at planned
    exact Graph.planScenarios_eq_ok planned
  · exact fun node member => inputs_of_build built member

namespace Checkout

/-- A cart is paid by card.  After a login the card on file will do too, so then there are two
ways to pay. -/
def declaration : Declaration Unit :=
  { start := none
    hooks := ⟨none, none⟩
    nodes :=
      [ { name := "Cart", predecessors := ["Home", "Login"], inputs := [], checks := [] },
        { name := "Home", predecessors := [], inputs := [], checks := [] },
        { name := "Login", predecessors := ["Home"], inputs := [], checks := [] },
        { name := "Pay"
          predecessors := ["Cart"]
          inputs :=
            [ ⟨some "card", none, ()⟩,
              ⟨some "on_file", some (.when (.moreRecent "Home" "Login")), ()⟩ ]
          checks := [] } ] }

def graph : Graph Unit :=
  { nodes := declaration.declared
    start := "Home"
    hooks := declaration.hooks }

theorem build_declaration : declaration.build = .ok graph := by
  have sound : declaration.defect? = none := by decide +kernel
  have started : declaration.findStart = .ok "Home" := by rfl
  have settled : declaration.declared.map Node.settle = declaration.declared := by
    simp [declaration, Declaration.declared, NodeDeclaration.toNode, Node.settle,
      Node.relabelSole]
  have sorted : declaration.declared.Pairwise fun a b => decide (a.name ≤ b.name) = true := by
    decide +kernel
  exact Declaration.build_of_settled sound started settled sorted

end Checkout

/-- Both scenarios end with the same two nodes.  The first can be planned; the second has been
through the login, so its last position is ambiguous, and that is what planning reports. -/
theorem checkout_planSuite_ambiguous :
    let failure : GraphError := .ambiguousInput "Home-Login-Cart-Pay" 3 "Pay" ["card", "on_file"]
      #["Home", "Login", "Cart"]
    Checkout.declaration.build = .ok Checkout.graph ∧
      Checkout.graph.planSuite 0 = .error failure ∧
      ∃ scenarios, Checkout.graph.scenarios 0 = .ok scenarios ∧
        scenarios.map Scenario.name = ["Home-Cart-Pay", "Home-Login-Cart-Pay"] ∧
        Checkout.graph.FirstAmbiguity scenarios failure ∧
        (∃ scenario ∈ scenarios, Checkout.graph.HasAmbiguity scenario.nodes) ∧
        ∀ node ∈ Checkout.graph.nodes, 2 ≤ node.inputs.length →
          ∃ declared ∈ Checkout.declaration.declared,
            declared.name = node.name ∧ declared.inputs = node.inputs := by
  intro failure
  have fails : Checkout.graph.planSuite 0 = .error failure := by decide +kernel
  have named : (Checkout.graph.scenarios 0).map (List.map Scenario.name) =
      .ok ["Home-Cart-Pay", "Home-Login-Cart-Pay"] := by decide +kernel
  obtain ⟨scenarios, enumerated, reported, ambiguous, -, asDeclared⟩ :=
    planSuite_first_ambiguity Checkout.build_declaration 0
  rw [enumerated] at named
  exact ⟨Checkout.build_declaration, fails, scenarios, enumerated, Except.ok.inj named,
    (reported failure).1 fails, ambiguous.1 ⟨failure, fails⟩, asDeclared⟩

end ScenarioGraph
