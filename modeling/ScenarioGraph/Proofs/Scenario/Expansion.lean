/-
# ScenarioGraph.Proofs.Scenario.Expansion -- loop expansion never repeats a sequence

`Graph.Expands` says what an expansion of a trail is: each node on a cycle gives
way to one of its cycles, walked a number of times; each other node stays.  The
cycles of one node fork pairwise, and so do the trails from one node.  Repeating
loops and putting them in place of nodes keeps forks, so no two expansions are
equal, within one trail or across trails, and nothing is left out as a duplicate.

* `mem_substitutions_loopsAt`: substitution finds exactly the expansions.
* `WellFormed.sequences_eq`: the sequences, trail by trail.
* `length_sequences`: how many there are, whatever the number of repetitions.
* `scenariosFrom_expand`: all of it, for every graph that is built.
-/
import ScenarioGraph.Proofs.Scenario.Sequence
import Mathlib.Algebra.GroupWithZero.Nat

namespace ScenarioGraph

set_option autoImplicit false

variable {κ : Type}

namespace Graph

variable {g : Graph κ} {start : Name} {repetitions : Nat}

/-! ## Expansions of one sequence -/

/-- The second sequence is the first with one of its cycles, walked `repetitions`
times, in place of each node that is on a cycle. -/
inductive Expands (g : Graph κ) (repetitions : Nat) : NodeSequence → NodeSequence → Prop where
  | nil : Expands g repetitions [] []
  | keep {name : Name} {rest result : NodeSequence} (acyclic : g.cyclesOf name = [])
      (later : Expands g repetitions rest result) :
      Expands g repetitions (name :: rest) (name :: result)
  | loop {name : Name} {cycle rest result : NodeSequence} (found : cycle ∈ g.cyclesOf name)
      (later : Expands g repetitions rest result) :
      Expands g repetitions (name :: rest) (repeatLoop cycle repetitions ++ result)

/-- Substituting loops finds the expansions, and nothing else. -/
theorem mem_substitutions_loopsAt (positive : repetitions ≠ 0) {nodes result : NodeSequence} :
    result ∈ substitutions (g.loopsAt repetitions) nodes ↔ g.Expands repetitions nodes result := by
  constructor
  · intro chosen
    induction nodes generalizing result with
    | nil =>
        rw [List.mem_singleton.1 chosen]
        exact .nil
    | cons name rest ih =>
        obtain ⟨choice, inLoops, tail, foundTail, rfl⟩ := mem_substitutions_cons.1 chosen
        rcases (mem_loopsAt positive).1 inLoops with ⟨acyclic, rfl⟩ | ⟨cycle, found, rfl⟩
        · exact .keep acyclic (ih foundTail)
        · exact .loop found (ih foundTail)
  · intro expands
    induction expands with
    | nil => exact List.mem_singleton_self []
    | @keep name rest result acyclic _ ih =>
        have alone := (mem_loopsAt positive).2 (Or.inl ⟨acyclic, rfl⟩)
        exact mem_substitutions_cons.2 ⟨[name], alone, result, ih, rfl⟩
    | @loop name cycle rest result found _ ih =>
        have looped := (mem_loopsAt positive).2 (Or.inr ⟨cycle, found, rfl⟩)
        exact mem_substitutions_cons.2 ⟨_, looped, result, ih, rfl⟩

/-! ## Expansions of all trails -/

/-- The sequences are all different: trails fork, and so do the loops of a node. -/
theorem WellFormed.nodup_expansions (wf : g.WellFormed) (start : Name) (repetitions : Nat) :
    ((trailsOver g.edges start).flatMap (substitutions (g.loopsAt repetitions))).Nodup :=
  nodup_flatMap_substitutions (g.pairwise_forksBelow_loopsAt repetitions)
    (fun _ _ chosen => (closedWalk_of_mem_loopsAt chosen).head)
    (wf.pairwise_forksBelow_trails start)

/-- Nothing is left out as a duplicate. -/
theorem WellFormed.sequences_eq (wf : g.WellFormed) (positive : repetitions ≠ 0) :
    g.sequences start repetitions =
      (trailsOver g.edges start).flatMap (substitutions (g.loopsAt repetitions)) := by
  rw [sequences_of_ne_zero g start positive]
  exact firstOccurrences_eq_self (wf.nodup_expansions start repetitions)

/-- One factor for each node of a trail, one summand for each trail. -/
theorem WellFormed.length_sequences (wf : g.WellFormed) (positive : repetitions ≠ 0) :
    (g.sequences start repetitions).length =
      ((trailsOver g.edges start).map fun trail =>
        (trail.map fun name => max 1 (g.cyclesOf name).length).prod).sum := by
  rw [wf.sequences_eq positive, List.length_flatMap]
  simp only [length_substitutions, length_loopsAt positive]

end Graph

/-! ## Scenarios of a built graph -/

/-- **Loop expansion never repeats a sequence.**  From a declared node of a built graph
the scenarios come in one block for each trail; a block holds the expansions of its
trail in strictly increasing order.  All sequences are different, and their number is
the sum over the trails of the product over their nodes of the numbers of cycles, a
node on no cycle counting as one; it does not depend on the number of repetitions. -/
theorem scenariosFrom_expand {d : Declaration κ} {g : Graph κ} (built : d.build = .ok g)
    {start : Name} (declared : start ∈ d.names) :
    ∃ trails, g.trails start = .ok trails ∧ ∀ repetitions, 1 ≤ repetitions →
      ∃ scenarios, g.scenariosFrom start repetitions = .ok scenarios ∧
        (scenarios.map Scenario.nodes).Nodup ∧
        scenarios.length = (trails.map fun trail =>
          (trail.map fun name => max 1 (g.cyclesOf name).length).prod).sum ∧
        ∃ blocks : List (List NodeSequence), scenarios.map Scenario.nodes = blocks.flatten ∧
          List.Forall₂ (fun trail block => block.Pairwise (· < ·) ∧
            ∀ nodes, nodes ∈ block ↔ g.Expands repetitions trail nodes) trails blocks := by
  have wf := wellFormed_of_build built
  have mem := (Declaration.names_perm_of_build built).mem_iff.2 declared
  refine ⟨_, Graph.trails_eq_ok mem, fun repetitions atLeast => ?_⟩
  have positive : repetitions ≠ 0 := by omega
  refine ⟨_, Graph.scenariosFrom_eq_ok mem repetitions, ?_, ?_, ?_⟩
  · rw [map_nodes_nameScenarios, wf.sequences_eq positive]
    exact wf.nodup_expansions start repetitions
  · rw [← List.length_map (f := Scenario.nodes), map_nodes_nameScenarios]
    exact wf.length_sequences positive
  · refine ⟨(trailsOver g.edges start).map (substitutions (g.loopsAt repetitions)), ?_, ?_⟩
    · rw [map_nodes_nameScenarios, wf.sequences_eq positive, List.flatMap_def]
    · rw [List.forall₂_map_right_iff, List.forall₂_same]
      intro trail _
      constructor
      · have forks := g.pairwise_forksBelow_loopsAt repetitions
        exact (pairwise_forksBelow_substitutions forks trail).imp ForksBelow.lt
      · intro nodes
        exact Graph.mem_substitutions_loopsAt positive

/-- The expansions of the turnstile, however often its loops are walked. -/
theorem turnstile_scenarios_expand :
    Turnstile.declaration.build = .ok Turnstile.graph ∧ "Locked" ∈ Turnstile.declaration.names ∧
      ∃ trails, Turnstile.graph.trails "Locked" = .ok trails ∧ ∀ repetitions, 1 ≤ repetitions →
        ∃ scenarios, Turnstile.graph.scenariosFrom "Locked" repetitions = .ok scenarios ∧
          (scenarios.map Scenario.nodes).Nodup ∧
          scenarios.length = (trails.map fun trail => (trail.map fun name =>
            max 1 (Turnstile.graph.cyclesOf name).length).prod).sum ∧
          ∃ blocks : List (List NodeSequence), scenarios.map Scenario.nodes = blocks.flatten ∧
            List.Forall₂ (fun trail block => block.Pairwise (· < ·) ∧
              ∀ nodes, nodes ∈ block ↔ Turnstile.graph.Expands repetitions trail nodes)
              trails blocks :=
  have declared : "Locked" ∈ Turnstile.declaration.names := by decide
  ⟨Turnstile.build_declaration, declared,
    scenariosFrom_expand Turnstile.build_declaration declared⟩

end ScenarioGraph
