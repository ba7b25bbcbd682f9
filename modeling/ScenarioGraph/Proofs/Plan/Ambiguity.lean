/-
# ScenarioGraph.Proofs.Plan.Ambiguity -- ambiguity, read off the edges

A guard on the last node looks at one node of the history only.  So if no input
has a condition as its guard, which inputs of a node are candidates depends on the
node before it alone: at the start those without a guard (`Node.unguarded`), after
`last` also those whose guard names it (`Node.openAfter`).  Scenarios use exactly
the edges that can be reached, so planning succeeds if no start and no such edge
leaves a choice, whatever the number of repetitions.

* `Graph.LocallyUnambiguous`: the criterion on start and edges.
* `WellFormed.locallyUnambiguous`, `LocallyUnambiguous.resolves`: all sequences resolve
  exactly if it holds.
* `planSuite_succeeds_iff`: so does planning, for every graph that is built.
-/
import ScenarioGraph.Proofs.Plan.Step
import ScenarioGraph.Proofs.Scenario.Coverage

namespace ScenarioGraph

set_option autoImplicit false

variable {κ : Type}

/-! ## Inputs that look at the last node only -/

namespace Node

/-- The inputs without a guard. -/
def unguarded (node : Node κ) : List (Input κ) := node.inputs.filter fun input => input.guard.isNone

/-- The inputs without a guard, and those whose guard on the last node names `last`. -/
def openAfter (node : Node κ) (last : Name) : List (Input κ) :=
  node.inputs.filter fun input =>
    match input.guard with
    | none => true
    | some (.after names) => last ∈ names
    | some (.when _) => false

/-- No input is guarded by a condition. -/
def Unconditional (node : Node κ) : Prop :=
  ∀ input ∈ node.inputs, ∀ condition, input.guard ≠ some (.when condition)

/-- At the start of a scenario exactly the inputs without a guard are candidates. -/
theorem Unconditional.candidates_start {node : Node κ} (plain : node.Unconditional) :
    node.candidates #[] = node.unguarded := by
  refine List.filter_congr fun input member => ?_
  have noCondition := plain input member
  cases guarded : input.guard with
  | none => rfl
  | some guard =>
      cases guard with
      | after names => rfl
      | when condition => exact absurd guarded (noCondition condition)

/-- After `last` the candidates do not depend on what came before. -/
theorem Unconditional.candidates_concat {node : Node κ} (plain : node.Unconditional)
    (front : NodeSequence) (last : Name) :
    node.candidates (front ++ [last]).toArray = node.openAfter last := by
  refine List.filter_congr fun input member => ?_
  have noCondition := plain input member
  cases guarded : input.guard with
  | none => rfl
  | some guard =>
      cases guard with
      | after names => simp [Guard.admits, Guard.accepts, History.endsIn]
      | when condition => exact absurd guarded (noCondition condition)

end Node

/-! ## The criterion -/

namespace Graph

variable {g : Graph κ} {repetitions : Nat}

/-- No choice between inputs is left at the start, nor after any edge that can be reached. -/
structure LocallyUnambiguous (g : Graph κ) : Prop where
  start : ∀ node ∈ g.nodes, node.name = g.start → node.unguarded.length ≤ 1
  edge : ∀ node ∈ g.nodes, ∀ last, last ∈ node.predecessors → g.Reaches g.start last →
    (node.openAfter last).length ≤ 1

/-- A sequence that resolves leaves no choice at any of its positions. -/
theorem WellFormed.candidates_le_one (wf : g.WellFormed) {front back : NodeSequence} {node : Node κ}
    (member : node ∈ g.nodes) (resolves : g.Resolves (front ++ node.name :: back)) :
    (node.candidates front.toArray).length ≤ 1 := by
  obtain ⟨found, isFound, unique⟩ := resolves front node.name back rfl
  have same : node = found :=
    Option.some.inj ((wf.node?_eq_some_iff.2 ⟨member, rfl⟩).symm.trans isFound)
  rwa [same]

/-- Every start and every edge that can be reached stands in some sequence. -/
theorem WellFormed.locallyUnambiguous (wf : g.WellFormed)
    (plain : ∀ node ∈ g.nodes, node.Unconditional)
    (resolves : ∀ nodes ∈ g.sequences g.start repetitions, g.Resolves nodes) :
    g.LocallyUnambiguous := by
  constructor
  · intro node member atStart
    obtain ⟨nodes, enumerated⟩ :=
      List.exists_mem_of_ne_nil _ (g.sequences_ne_nil g.start repetitions)
    have begins := (wf.walksFrom_of_mem_sequences enumerated).head
    rw [← atStart] at begins
    obtain ⟨rest, rfl⟩ := List.head?_eq_some_iff.1 begins
    rw [← (plain node member).candidates_start]
    have resolved : g.Resolves ([] ++ node.name :: rest) := resolves _ enumerated
    exact wf.candidates_le_one member resolved
  · intro node member last entered reaches
    have leads : g.Leads last node.name := ⟨node, member, rfl, entered⟩
    obtain ⟨nodes, enumerated, used⟩ := wf.exists_consecutive_iff.2 ⟨leads, reaches⟩
    obtain ⟨front, back, rfl⟩ := mem_consecutive.1 used
    have split : front ++ last :: node.name :: back = (front ++ [last]) ++ node.name :: back := by
      simp
    rw [← (plain node member).candidates_concat front last]
    exact wf.candidates_le_one member (split ▸ resolves _ enumerated)

/-- A sequence begins at the start, and goes on along edges that can be reached. -/
theorem LocallyUnambiguous.resolves (wf : g.WellFormed)
    (plain : ∀ node ∈ g.nodes, node.Unconditional) (unambiguous : g.LocallyUnambiguous) :
    ∀ nodes ∈ g.sequences g.start repetitions, g.Resolves nodes := by
  rintro nodes enumerated front name back rfl
  have walk := wf.walksFrom_of_mem_sequences enumerated
  rcases List.eq_nil_or_concat front with rfl | ⟨before, last, rfl⟩
  · obtain rfl : name = g.start := Option.some.inj walk.head
    obtain ⟨node, member, named⟩ := mem_names.1 wf.start_mem
    refine ⟨node, wf.node?_eq_some_iff.2 ⟨member, named⟩, ?_⟩
    show (node.candidates #[]).length ≤ 1
    rw [(plain node member).candidates_start]
    exact unambiguous.start node member named
  · have used : (last, name) ∈ consecutive (before.concat last ++ name :: back) :=
      mem_consecutive.2 ⟨before, back, by simp⟩
    obtain ⟨leads, reaches⟩ := wf.exists_consecutive_iff.1 ⟨_, enumerated, used⟩
    obtain ⟨node, member, named, entered⟩ := leads
    refine ⟨node, wf.node?_eq_some_iff.2 ⟨member, named⟩, ?_⟩
    rw [List.concat_eq_append, (plain node member).candidates_concat]
    exact unambiguous.edge node member last entered reaches

end Graph

/-! ## Suites of a built graph -/

/-- **Ambiguity does not depend on repetitions.**  If no input of a built graph is
guarded by a condition, then for any number of repetitions planning succeeds exactly
if the start and the edges that can be reached leave no choice; so planning without
repetitions decides it for all of them. -/
theorem planSuite_succeeds_iff {d : Declaration κ} {g : Graph κ} (built : d.build = .ok g)
    (plain : ∀ node ∈ g.nodes, node.Unconditional) :
    (∀ repetitions, (∃ suite, g.planSuite repetitions = .ok suite) ↔ g.LocallyUnambiguous) ∧
      ((∃ suite, g.planSuite 0 = .ok suite) ↔
        ∀ repetitions, ∃ suite, g.planSuite repetitions = .ok suite) := by
  have wf := wellFormed_of_build built
  have criterion : ∀ repetitions,
      (∃ suite, g.planSuite repetitions = .ok suite) ↔ g.LocallyUnambiguous := by
    intro repetitions
    rw [Graph.exists_planSuite_iff wf.start_mem]
    exact ⟨wf.locallyUnambiguous plain, Graph.LocallyUnambiguous.resolves wf plain⟩
  refine ⟨criterion, fun never repetitions => ?_, fun always => always 0⟩
  exact (criterion repetitions).2 ((criterion 0).1 never)

/-- Of the two inputs that lead into its unlocked state a turnstile takes one at a time. -/
theorem turnstile_planSuite_succeeds :
    Turnstile.declaration.build = .ok Turnstile.graph ∧
      (∀ node ∈ Turnstile.graph.nodes, node.Unconditional) ∧
      ((∀ repetitions, (∃ suite, Turnstile.graph.planSuite repetitions = .ok suite) ↔
          Turnstile.graph.LocallyUnambiguous) ∧
        ((∃ suite, Turnstile.graph.planSuite 0 = .ok suite) ↔
          ∀ repetitions, ∃ suite, Turnstile.graph.planSuite repetitions = .ok suite)) := by
  have plain : ∀ node ∈ Turnstile.graph.nodes, node.Unconditional := by
    simp [Turnstile.graph, Turnstile.declaration, Declaration.declared, NodeDeclaration.toNode,
      Node.Unconditional]
  exact ⟨Turnstile.build_declaration, plain,
    planSuite_succeeds_iff Turnstile.build_declaration plain⟩

end ScenarioGraph
