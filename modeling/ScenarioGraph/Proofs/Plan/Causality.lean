/-
# ScenarioGraph.Proofs.Plan.Causality -- each step by the nodes up to its own

A scenario is any sequence of names, declared or not, enumerated or not.  Its positions are
planned in order, each after the nodes before it, and the first that cannot be planned is
the defect reported.  What is planned for a position (`Graph.PlannedAt`) or reported of it
(`Graph.DefectAt`) is said here of the nodes up to it, so nothing that comes later can
change it.

* `stepsAfter_inScenario`: the name of a scenario only stands in the reports.
* `take_stepsAfter`: the beginning of a scenario has the beginning of its plan.
* `WellFormed.steps_eq_error_iff`, `WellFormed.exists_steps_iff_not_defectAt`: failure at
  the first position that has a defect, and success without.
* `steps_exact_causal`: all of it for any scenario of a built graph.
-/
import ScenarioGraph.Proofs.Plan.FirstAmbiguity
import ScenarioGraph.Proofs.Plan.Numbering

namespace ScenarioGraph

set_option autoImplicit false

variable {κ α : Type}

/-! ## Places of a list -/

/-- A list splits at each of its places. -/
theorem eq_append_of_getElem? {xs : List α} {i : Nat} {x : α} (found : xs[i]? = some x) :
    xs = xs.take i ++ x :: xs.drop (i + 1) := by
  obtain ⟨inside, rfl⟩ := List.getElem?_eq_some_iff.1 found
  rw [List.getElem_cons_drop, List.take_append_drop]

theorem size_take_of_getElem? {xs : List α} {i : Nat} {x : α} (found : xs[i]? = some x) :
    (xs.take i).toArray.size = i := by
  have inside := (List.getElem?_eq_some_iff.1 found).1
  rw [List.size_toArray, List.length_take_of_le (Nat.le_of_lt inside)]

theorem exists_split_iff {xs : List α} {P : List α → α → Prop} :
    (∃ front x back, xs = front ++ x :: back ∧ P front x) ↔
      ∃ (i : Nat) (x : α), xs[i]? = some x ∧ P (xs.take i) x := by
  constructor
  · rintro ⟨front, x, back, rfl, holds⟩
    refine ⟨front.length, x, by simp, ?_⟩
    rwa [List.take_left]
  · rintro ⟨i, x, found, holds⟩
    exact ⟨_, x, _, eq_append_of_getElem? found, holds⟩

theorem forall_split_iff {xs : List α} {P : List α → α → Prop} :
    (∀ front x back, xs = front ++ x :: back → P front x) ↔
      ∀ (i : Nat) (x : α), xs[i]? = some x → P (xs.take i) x := by
  constructor
  · exact fun holds i x found => holds _ x _ (eq_append_of_getElem? found)
  · rintro holds front x back rfl
    have here := holds front.length x (by simp)
    rwa [List.take_left] at here

/-! ## Plans of a common beginning -/

/-- The same failure, met in the scenario of this name. -/
def GraphError.inScenario (scenario : String) : GraphError → GraphError
  | .ambiguousInput _ position node candidates history =>
      .ambiguousInput scenario position node candidates history
  | failure => failure

namespace Graph

variable {g : Graph κ} {label : String} {history : History} {nodes : NodeSequence}
  {steps : List (Step κ)} {step : Step κ} {i : Nat}

theorem stepAt_inScenario (g : Graph κ) (label other : String) (history : History) (name : Name) :
    g.stepAt other history name = (g.stepAt label history name).mapError (.inScenario other) := by
  unfold stepAt
  cases g.node? name with
  | none => rfl
  | some node =>
      simp only
      split <;> rfl

/-- The name of a scenario only stands in the reports. -/
theorem stepsAfter_inScenario (g : Graph κ) (label other : String) (history : History)
    (nodes : NodeSequence) :
    g.stepsAfter other history nodes =
      (g.stepsAfter label history nodes).mapError (.inScenario other) := by
  induction nodes generalizing history with
  | nil => rfl
  | cons name rest ih =>
      rw [stepsAfter, stepsAfter, g.stepAt_inScenario label other, ih]
      cases g.stepAt label history name with
      | error failure => rfl
      | ok step => cases g.stepsAfter label (history.push name) rest <;> rfl

/-- The beginning of a scenario has the beginning of its plan. -/
theorem take_stepsAfter (planned : g.stepsAfter label history nodes = .ok steps) (n : Nat) :
    g.stepsAfter label history (nodes.take n) = .ok (steps.take n) := by
  induction nodes generalizing history steps n with
  | nil =>
      cases planned
      rw [List.take_nil, List.take_nil, stepsAfter]
  | cons name rest ih =>
      obtain ⟨step, later, now, others, rfl⟩ := stepsAfter_cons_eq_ok_iff.1 planned
      cases n with
      | zero => rfl
      | succ n =>
          rw [List.take_succ_cons, List.take_succ_cons, stepsAfter_cons_eq_ok_iff]
          exact ⟨step, later.take n, now, ih others n, rfl⟩

/-- Each step is that of its node after the nodes before it. -/
theorem stepAt_of_stepsAfter (planned : g.stepsAfter label history nodes = .ok steps)
    (found : steps[i]? = some step) :
    ∃ name, nodes[i]? = some name ∧
      g.stepAt label (history ++ (nodes.take i).toArray) name = .ok step := by
  induction nodes generalizing history steps i with
  | nil =>
      cases planned
      cases found
  | cons name rest ih =>
      obtain ⟨first, later, now, others, rfl⟩ := stepsAfter_cons_eq_ok_iff.1 planned
      cases i with
      | zero =>
          obtain rfl := Option.some.inj found
          exact ⟨name, rfl, by simpa using now⟩
      | succ i =>
          obtain ⟨next, visited, then_⟩ := ih others found
          exact ⟨next, visited, by simpa using then_⟩

end Graph

/-! ## What a position is planned to do -/

/-- The step takes the only input of the node that accepts the history, or none if none
does; its checks are exactly those that accept the history or have no guard, in name
order. -/
structure Node.ResolvesTo (node : Node κ) (history : History) (step : Step κ) : Prop where
  input : (node.candidates history = [] ∧ step.input = none) ∨
    ∃ input, node.candidates history = [input] ∧ step.input = some ⟨input.label, input.action⟩
  checks : ∀ check, check ∈ step.checks ↔ ∃ declared ∈ node.checks,
    (∀ guard, declared.guard = some guard → guard.accepts history = true) ∧
      check = ⟨declared.name, declared.body⟩
  increasing : (step.checks.map ChosenCheck.name).Pairwise (· < ·)

theorem Guard.admits_iff {guard : Option Guard} {history : History} :
    Guard.admits guard history = true ↔
      ∀ given, guard = some given → given.accepts history = true := by
  cases guard <;> simp [Guard.admits]

namespace Graph

variable {g : Graph κ} {scenario other : Scenario} {step : Step κ} {i : Nat}
  {failure : GraphError}

/-- What the step at position `i` is, given the nodes up to there. -/
structure PlannedAt (g : Graph κ) (nodes : NodeSequence) (i : Nat) (step : Step κ) : Prop where
  position : step.position = i
  visited : nodes[i]? = some step.node
  label : step.label = stepLabel i step.node
  resolved : ∃ node ∈ g.nodes, node.name = step.node ∧
    node.ResolvesTo (nodes.take i).toArray step

/-- What is wrong with position `i`, given the nodes up to there. -/
inductive DefectAt (g : Graph κ) (scenario : Scenario) (i : Nat) : GraphError → Prop where
  | unknown {name : Name} (visited : scenario.nodes[i]? = some name)
      (undeclared : name ∉ g.names) : DefectAt g scenario i (.unknownNode name)
  | ambiguous {node : Node κ} (visited : scenario.nodes[i]? = some node.name)
      (declared : node ∈ g.nodes)
      (several : 2 ≤ (node.candidates (scenario.nodes.take i).toArray).length) :
      DefectAt g scenario i
        (.ambiguousInput scenario.name i node.name
          ((node.candidates (scenario.nodes.take i).toArray).map Input.label)
          (scenario.nodes.take i).toArray)

/-- Position `i` is the first with a defect. -/
def FirstDefectAt (g : Graph κ) (scenario : Scenario) (i : Nat) (failure : GraphError) : Prop :=
  g.DefectAt scenario i failure ∧ ∀ j < i, ∀ earlier, ¬ g.DefectAt scenario j earlier

/-- A node resolves to its step after a history. -/
theorem resolvesTo_of_stepAt
    (increasing : ∀ node ∈ g.nodes, (node.checks.map Check.name).Pairwise (· < ·))
    {label : String} {history : History} {name : Name}
    (planned : g.stepAt label history name = .ok step) :
    step.position = history.size ∧ step.node = name ∧
      step.label = stepLabel history.size name ∧
        ∃ node ∈ g.nodes, node.name = name ∧ node.ResolvesTo history step := by
  obtain ⟨node, found, unique, rfl⟩ := stepAt_eq_ok_iff.1 planned
  have member : node ∈ g.nodes := List.mem_of_find?_eq_some found
  have named : node.name = name := by simpa using List.find?_some found
  refine ⟨rfl, rfl, rfl, node, member, named, ?_, fun check => ?_, ?_⟩
  · match accepting : node.candidates history with
    | [] => exact Or.inl ⟨rfl, rfl⟩
    | [input] => exact Or.inr ⟨input, rfl, rfl⟩
    | _ :: _ :: _ => simp [accepting] at unique
  · simp only [Node.applicable, List.mem_map, List.mem_filter, Guard.admits_iff, and_assoc]
    exact exists_congr fun declared => and_congr_right fun _ => and_congr_right fun _ => eq_comm
  · rw [List.map_map]
    exact (increasing node member).sublist (List.filter_sublist.map Check.name)

/-- Each step of a plan is what its position is planned to do. -/
theorem plannedAt_of_steps
    (increasing : ∀ node ∈ g.nodes, (node.checks.map Check.name).Pairwise (· < ·))
    {steps : List (Step κ)} (planned : g.steps scenario = .ok steps)
    (found : steps[i]? = some step) : g.PlannedAt scenario.nodes i step := by
  rw [steps_eq] at planned
  obtain ⟨name, visited, now⟩ := stepAt_of_stepsAfter planned found
  rw [Array.empty_append] at now
  obtain ⟨position, named, labelled, resolved⟩ := resolvesTo_of_stepAt increasing now
  rw [size_take_of_getElem? visited] at position labelled
  subst named
  exact ⟨position, visited, labelled, resolved⟩

/-! ## Defects of positions -/

theorem node?_eq_none_iff {name : Name} : g.node? name = none ↔ name ∉ g.names := by
  rw [← exists_node?_iff, Option.eq_none_iff_forall_ne_some, not_exists]

/-- A position has a defect exactly if its step cannot be planned. -/
theorem WellFormed.defectAt_iff (wf : g.WellFormed) :
    g.DefectAt scenario i failure ↔ ∃ name, scenario.nodes[i]? = some name ∧
      g.stepAt scenario.name (scenario.nodes.take i).toArray name = .error failure := by
  constructor
  · intro defect
    cases defect with
    | @unknown name visited undeclared =>
        refine ⟨name, visited, ?_⟩
        rw [stepAt, node?_eq_none_iff.2 undeclared]
    | @ambiguous node visited declared several =>
        refine ⟨node.name, visited, ?_⟩
        rw [stepAt_eq_error_iff (wf.node?_eq_some_iff.2 ⟨declared, rfl⟩),
          size_take_of_getElem? visited]
        exact ⟨several, rfl⟩
  · rintro ⟨name, visited, fails⟩
    by_cases declared : name ∈ g.names
    · obtain ⟨node, found⟩ := exists_node?_iff.2 declared
      rw [stepAt_eq_error_iff found, size_take_of_getElem? visited] at fails
      obtain ⟨several, rfl⟩ := fails
      obtain ⟨member, rfl⟩ := wf.node?_eq_some_iff.1 found
      exact .ambiguous visited member several
    · rw [stepAt, node?_eq_none_iff.2 declared] at fails
      cases fails
      exact .unknown visited declared

/-- The first `n` positions can be planned exactly if none of them has a defect. -/
theorem WellFormed.exists_take_steps_iff (wf : g.WellFormed) (scenario : Scenario) (n : Nat) :
    (∃ steps, g.stepsAfter scenario.name #[] (scenario.nodes.take n) = .ok steps) ↔
      ∀ j < n, ∀ earlier, ¬ g.DefectAt scenario j earlier := by
  rw [exists_stepsAfter_iff, forall_split_iff]
  constructor
  · intro fine j before earlier defect
    obtain ⟨name, visited, fails⟩ := wf.defectAt_iff.1 defect
    obtain ⟨step, planned⟩ := fine j name (by rw [List.getElem?_take, if_pos before, visited])
    rw [Array.empty_append, List.take_take, Nat.min_eq_left (Nat.le_of_lt before), fails] at planned
    cases planned
  · intro clear j name visited
    rw [List.getElem?_take] at visited
    split at visited
    · rename_i before
      rw [Array.empty_append, List.take_take, Nat.min_eq_left (Nat.le_of_lt before)]
      cases outcome : g.stepAt scenario.name (scenario.nodes.take j).toArray name with
      | ok step => exact ⟨step, rfl⟩
      | error failure =>
          exact absurd (wf.defectAt_iff.2 ⟨name, visited, outcome⟩) (clear j before failure)
    · cases visited

/-- A scenario without defects can be planned. -/
theorem WellFormed.exists_steps_iff_not_defectAt (wf : g.WellFormed) :
    (∃ steps, g.steps scenario = .ok steps) ↔ ∀ i failure, ¬ g.DefectAt scenario i failure := by
  have whole := wf.exists_take_steps_iff scenario scenario.nodes.length
  rw [List.take_length] at whole
  rw [steps_eq, whole]
  constructor
  · intro clear i failure defect
    obtain ⟨name, visited, -⟩ := wf.defectAt_iff.1 defect
    exact clear i (List.getElem?_eq_some_iff.1 visited).1 failure defect
  · exact fun clear i _ => clear i

/-- A scenario fails with the defect of its first position that has one. -/
theorem WellFormed.steps_eq_error_iff (wf : g.WellFormed) :
    g.steps scenario = .error failure ↔ ∃ i, g.FirstDefectAt scenario i failure := by
  rw [steps_eq, stepsAfter_eq_error_iff,
    exists_split_iff (P := fun front name =>
      (∃ steps, g.stepsAfter scenario.name #[] front = .ok steps) ∧
        g.stepAt scenario.name (#[] ++ front.toArray) name = .error failure)]
  refine exists_congr fun i => ?_
  rw [FirstDefectAt, wf.defectAt_iff, ← wf.exists_take_steps_iff]
  simp only [Array.empty_append]
  constructor
  · rintro ⟨name, visited, fine, fails⟩
    exact ⟨⟨name, visited, fails⟩, fine⟩
  · rintro ⟨⟨name, visited, fails⟩, fine⟩
    exact ⟨name, visited, fine, fails⟩

/-! ## Scenarios that begin alike -/

/-- A defect is one of every scenario that is the same up to there. -/
theorem DefectAt.inScenario {n : Nat}
    (alike : scenario.nodes.take n = other.nodes.take n) (before : i < n)
    (defect : g.DefectAt scenario i failure) :
    g.DefectAt other i (failure.inScenario other.name) := by
  have visits : scenario.nodes[i]? = other.nodes[i]? := by
    rw [← List.getElem?_take_of_lt before, alike, List.getElem?_take_of_lt before]
  have history : scenario.nodes.take i = other.nodes.take i := by
    rw [← Nat.min_eq_left (Nat.le_of_lt before), ← List.take_take, alike, List.take_take]
  cases defect with
  | unknown visited undeclared => exact .unknown (visits ▸ visited) undeclared
  | ambiguous visited declared several =>
      rw [history] at several ⊢
      exact .ambiguous (visits ▸ visited) declared several

theorem FirstDefectAt.inScenario {n : Nat}
    (alike : scenario.nodes.take n = other.nodes.take n) (before : i < n)
    (first : g.FirstDefectAt scenario i failure) :
    g.FirstDefectAt other i (failure.inScenario other.name) := by
  refine ⟨first.1.inScenario alike before, fun j earlier failure defect => ?_⟩
  exact first.2 j earlier _ (defect.inScenario alike.symm (Nat.lt_trans earlier before))

/-- Scenarios that begin alike are planned alike as far as that goes. -/
theorem take_steps_eq {steps others : List (Step κ)} {n : Nat}
    (alike : scenario.nodes.take n = other.nodes.take n)
    (planned : g.steps scenario = .ok steps) (plannedToo : g.steps other = .ok others) :
    steps.take n = others.take n := by
  rw [steps_eq] at planned plannedToo
  have begun := take_stepsAfter planned n
  have begunToo := take_stepsAfter plannedToo n
  rw [g.stepsAfter_inScenario scenario.name, ← alike, begun] at begunToo
  exact Except.ok.inj begunToo

end Graph

/-- **Planning a scenario is exact and causal.**  Any sequence of names, under any name, is
planned on a built graph position by position.  It fails with the defect of its first
position that has one; without a defect it has one step for each position, with that
position, its node, the only input that accepts the nodes before it, and the checks that
do, in name order.  Scenarios that share their first `n` nodes share their first `n` steps,
and a failure among these positions is one of both, at the same position. -/
theorem steps_exact_causal {d : Declaration κ} {g : Graph κ} (built : d.build = .ok g)
    (scenario : Scenario) :
    (∀ failure, g.steps scenario = .error failure ↔ ∃ i, g.FirstDefectAt scenario i failure) ∧
    ((∃ steps, g.steps scenario = .ok steps) ↔ ∀ i failure, ¬ g.DefectAt scenario i failure) ∧
    (∀ steps, g.steps scenario = .ok steps → steps.length = scenario.nodes.length ∧
      ∀ (i : Nat) step, steps[i]? = some step → g.PlannedAt scenario.nodes i step) ∧
    ∀ (other : Scenario) (n : Nat), scenario.nodes.take n = other.nodes.take n →
      (∀ steps others, g.steps scenario = .ok steps → g.steps other = .ok others →
        steps.take n = others.take n) ∧
      ∀ i < n, ∀ failure, g.FirstDefectAt scenario i failure →
        g.FirstDefectAt other i (failure.inScenario other.name) ∧
          g.steps other = .error (failure.inScenario other.name) := by
  have wf := wellFormed_of_build built
  refine ⟨fun failure => wf.steps_eq_error_iff, wf.exists_steps_iff_not_defectAt, ?_, ?_⟩
  · intro steps planned
    constructor
    · have nodes := Graph.map_node_stepsAfter (g.steps_eq scenario ▸ planned)
      rw [← nodes, List.length_map]
    · intro i step found
      exact Graph.plannedAt_of_steps (increasing_checkNames_of_build built) planned found
  · intro other n alike
    refine ⟨fun steps others => Graph.take_steps_eq alike, fun i before failure first => ?_⟩
    have firstToo := first.inScenario alike before
    exact ⟨firstToo, wf.steps_eq_error_iff.2 ⟨i, firstToo⟩⟩

namespace Turnstile

/-- Two scenarios with a node that a turnstile does not have, and one without. -/
def forced : Scenario := ⟨0, "forced", ["Locked", "Unlocked", "Broken", "Locked"]⟩

def removed : Scenario := ⟨1, "removed", ["Locked", "Unlocked", "Broken"]⟩

def twiceTipped : Scenario := ⟨2, "tipped", ["Locked", "Unlocked", "Unlocked", "Unlocked"]⟩

end Turnstile

/-- The two fail alike, where they still are the same; tips are planned one by one. -/
theorem turnstile_steps_exact_causal :
    Turnstile.declaration.build = .ok Turnstile.graph ∧
      Turnstile.forced.nodes.take 3 = Turnstile.removed.nodes.take 3 ∧
      (∃ i < 3, Turnstile.graph.FirstDefectAt Turnstile.forced i (.unknownNode "Broken") ∧
        Turnstile.graph.FirstDefectAt Turnstile.removed i (.unknownNode "Broken")) ∧
      ∃ steps, Turnstile.graph.steps Turnstile.twiceTipped = .ok steps ∧ steps.length = 4 ∧
        ∀ (i : Nat) step, steps[i]? = some step →
          Turnstile.graph.PlannedAt Turnstile.twiceTipped.nodes i step := by
  have alike : Turnstile.forced.nodes.take 3 = Turnstile.removed.nodes.take 3 := by decide
  refine ⟨Turnstile.build_declaration, alike, ?_, ?_⟩
  · obtain ⟨fails, -, -, causal⟩ :=
      steps_exact_causal Turnstile.build_declaration Turnstile.forced
    have failed : Turnstile.graph.steps Turnstile.forced = .error (.unknownNode "Broken") := by
      decide +kernel
    obtain ⟨i, first⟩ := (fails _).1 failed
    have before : i < 3 := by
      cases first.1 with
      | unknown visited _ =>
          have inside : i < 4 := (List.getElem?_eq_some_iff.1 visited).1
          rcases Nat.lt_succ_iff_lt_or_eq.1 inside with before | rfl
          · exact before
          · exact absurd visited (by decide)
    exact ⟨i, before, first, ((causal _ 3 alike).2 i before _ first).1⟩
  · obtain ⟨-, -, resolved, -⟩ :=
      steps_exact_causal Turnstile.build_declaration Turnstile.twiceTipped
    have planned : (Turnstile.graph.steps Turnstile.twiceTipped).isOk = true := by decide +kernel
    cases outcome : Turnstile.graph.steps Turnstile.twiceTipped with
    | error failure =>
        rw [outcome] at planned
        cases planned
    | ok steps => exact ⟨steps, rfl, resolved steps outcome⟩

end ScenarioGraph
