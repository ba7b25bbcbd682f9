/-
# ScenarioGraph.Proofs.Scenario.Coverage -- scenarios cover what can be reached

Every scenario is a walk from the start node, so it uses edges between reachable
nodes only.  Conversely a reachable node is reached without visiting a node
twice; with one edge more this walk uses no edge twice, so it is the beginning of
a trail, and loops put in place of nodes take no edge away.  Hence the pairs of
nodes that follow each other in scenarios are exactly the edges that can be
reached, whatever the number of repetitions.

* `WellFormed.walksFrom_of_mem_sequences`: scenarios are walks.
* `WellFormed.exists_consecutive_iff`: the pairs that occur.
* `WellFormed.exists_visiting_iff`: the nodes that occur.
* `WellFormed.exists_looping`: the cycles that are walked, as often as asked for.
* `scenariosFrom_cover`, `scenariosFrom_walk_cycles`: all of it, for every graph that
  is built.
-/
import ScenarioGraph.Proofs.Scenario.Sequence

namespace ScenarioGraph

set_option autoImplicit false

variable {κ : Type}

namespace Graph

variable {g : Graph κ} {start name next : Name} {repetitions : Nat}

/-! ## Trails -/

/-- Every edge that can be reached is used by a trail. -/
theorem WellFormed.exists_trail_using (wf : g.WellFormed) (reaches : g.Reaches start name)
    (leads : g.Leads name next) :
    ∃ trail ∈ trailsOver g.edges start, (name, next) ∈ consecutive trail := by
  obtain ⟨front, walk, distinct⟩ := reaches.exists_simple
  have begins : (front ++ [name] ++ [next]).head? = some start := by
    rw [List.head?_append, walk.head, Option.some_or]
  have chain : (front ++ [name] ++ [next]).IsChain g.Leads := by
    refine walk.chain.append (List.isChain_singleton next) ?_
    simpa using leads
  have within : ∀ edge ∈ consecutive (front ++ [name] ++ [next]), edge ∈ g.edges := by
    rintro ⟨source, target⟩ member
    exact wf.mem_edges_iff.2 (isChain_iff_consecutive.1 chain source target member)
  obtain ⟨trail, found, rest, rfl⟩ :=
    exists_trail_extending begins (nodup_consecutive_concat distinct next) within
  refine ⟨_, found, mem_consecutive.2 ⟨front, rest, ?_⟩⟩
  simp only [List.append_assoc, List.cons_append, List.nil_append]

/-! ## Sequences -/

theorem sequences_ne_nil (g : Graph κ) (start : Name) (repetitions : Nat) :
    g.sequences start repetitions ≠ [] := by
  obtain ⟨trail, found⟩ := List.exists_mem_of_ne_nil _ (trailsOver_ne_nil g.edges start)
  obtain ⟨nodes, chosen⟩ :=
    List.exists_mem_of_ne_nil _ (substitutions_ne_nil (g.loopsAt_ne_nil repetitions) trail)
  exact List.ne_nil_of_mem (mem_sequences.2 ⟨trail, found, chosen⟩)

theorem WellFormed.walksFrom_of_mem_sequences (wf : g.WellFormed) {nodes : NodeSequence}
    (enumerated : nodes ∈ g.sequences start repetitions) : g.WalksFrom start nodes := by
  obtain ⟨trail, found, chosen⟩ := mem_sequences.1 enumerated
  exact walksFrom_of_mem_substitutions (fun _ _ => closedWalk_of_mem_loopsAt)
    (wf.mem_trails_iff.1 found).toWalksFrom chosen

/-- The nodes of a sequence are declared. -/
theorem WellFormed.mem_names_of_visited (wf : g.WellFormed) (declared : start ∈ g.names)
    {nodes : NodeSequence} (enumerated : nodes ∈ g.sequences start repetitions) :
    ∀ name ∈ nodes, name ∈ g.names := by
  intro name visited
  have reaches := (wf.walksFrom_of_mem_sequences enumerated).reaches_of_mem visited
  exact reaches.mem_names declared

/-- The pairs of nodes that follow each other are the edges that can be reached. -/
theorem WellFormed.exists_consecutive_iff (wf : g.WellFormed) :
    (∃ nodes ∈ g.sequences start repetitions, (name, next) ∈ consecutive nodes) ↔
      g.Leads name next ∧ g.Reaches start name := by
  constructor
  · rintro ⟨nodes, enumerated, member⟩
    have walk := wf.walksFrom_of_mem_sequences enumerated
    obtain ⟨front, back, rfl⟩ := mem_consecutive.1 member
    exact ⟨walk.leads member, walk.reaches_of_mem (by simp)⟩
  · rintro ⟨leads, reaches⟩
    obtain ⟨trail, found, used⟩ := wf.exists_trail_using reaches leads
    obtain ⟨nodes, chosen⟩ :=
      List.exists_mem_of_ne_nil _ (substitutions_ne_nil (g.loopsAt_ne_nil repetitions) trail)
    refine ⟨nodes, mem_sequences.2 ⟨trail, found, chosen⟩, ?_⟩
    exact consecutive_subset_of_mem_substitutions (fun _ _ => closedWalk_of_mem_loopsAt) chosen
      (name, next) used

/-- The nodes visited are the nodes that can be reached. -/
theorem WellFormed.exists_visiting_iff (wf : g.WellFormed) :
    (∃ nodes ∈ g.sequences start repetitions, name ∈ nodes) ↔ g.Reaches start name := by
  constructor
  · rintro ⟨nodes, enumerated, member⟩
    exact (wf.walksFrom_of_mem_sequences enumerated).reaches_of_mem member
  · intro reaches
    cases reaches with
    | refl =>
        obtain ⟨nodes, enumerated⟩ :=
          List.exists_mem_of_ne_nil _ (g.sequences_ne_nil start repetitions)
        have begins := (wf.walksFrom_of_mem_sequences enumerated).head
        exact ⟨nodes, enumerated, List.mem_of_mem_head? begins⟩
    | tail reaches leads =>
        obtain ⟨nodes, enumerated, member⟩ := wf.exists_consecutive_iff.2 ⟨leads, reaches⟩
        obtain ⟨front, back, rfl⟩ := mem_consecutive.1 member
        exact ⟨_, enumerated, by simp⟩

/-- Each cycle of a node that can be reached is repeated in one piece in some sequence. -/
theorem WellFormed.exists_looping (wf : g.WellFormed) (positive : repetitions ≠ 0)
    (reaches : g.Reaches start name) {cycle : NodeSequence} (found : cycle ∈ g.cyclesOf name) :
    ∃ nodes ∈ g.sequences start repetitions, repeatLoop cycle repetitions <:+: nodes := by
  have visits : ∃ trail ∈ g.sequences start 0, name ∈ trail := wf.exists_visiting_iff.2 reaches
  obtain ⟨trail, isTrail, visited⟩ := visits
  rw [sequences_zero] at isTrail
  have chosen : repeatLoop cycle repetitions ∈ g.loopsAt repetitions name :=
    (mem_loopsAt positive).2 (Or.inr ⟨cycle, found, rfl⟩)
  obtain ⟨nodes, substituted, inside⟩ :=
    exists_substitution_around (g.loopsAt_ne_nil repetitions) visited chosen
  exact ⟨nodes, mem_sequences.2 ⟨trail, isTrail, substituted⟩, inside⟩

end Graph

/-! ## Scenarios of a built graph -/

/-- **Scenarios cover exactly what can be reached**: from a declared node of a built
graph, every scenario is a walk from that node, the pairs of nodes that follow each
other in scenarios are the edges whose source can be reached, and the nodes visited
are the nodes that can be reached. -/
theorem scenariosFrom_cover {d : Declaration κ} {g : Graph κ} (built : d.build = .ok g)
    {start : Name} (declared : start ∈ d.names) (repetitions : Nat) :
    ∃ scenarios, g.scenariosFrom start repetitions = .ok scenarios ∧
      (∀ scenario ∈ scenarios, scenario.nodes.head? = some start ∧
        scenario.nodes.IsChain g.Leads) ∧
      (∀ name next, (∃ scenario ∈ scenarios, (name, next) ∈ consecutive scenario.nodes) ↔
        g.Leads name next ∧ g.Reaches start name) ∧
      (∀ name, (∃ scenario ∈ scenarios, name ∈ scenario.nodes) ↔ g.Reaches start name) := by
  have wf := wellFormed_of_build built
  have mem := (Declaration.names_perm_of_build built).mem_iff.2 declared
  refine ⟨_, Graph.scenariosFrom_eq_ok mem repetitions, ?_, ?_, ?_⟩
  · apply (forall_mem_nameScenarios _ fun nodes =>
      nodes.head? = some start ∧ nodes.IsChain g.Leads).2
    intro nodes enumerated
    have walk := wf.walksFrom_of_mem_sequences enumerated
    exact ⟨walk.head, walk.chain⟩
  · intro name next
    rw [exists_mem_nameScenarios _ fun nodes => (name, next) ∈ consecutive nodes]
    exact wf.exists_consecutive_iff
  · intro name
    rw [exists_mem_nameScenarios _ fun nodes => name ∈ nodes]
    exact wf.exists_visiting_iff

/-- The turnstile is covered from either side, also with loops walked twice. -/
theorem turnstile_scenarios_cover :
    Turnstile.declaration.build = .ok Turnstile.graph ∧ "Unlocked" ∈ Turnstile.declaration.names ∧
      ∃ scenarios, Turnstile.graph.scenariosFrom "Unlocked" 2 = .ok scenarios ∧
        (∀ scenario ∈ scenarios, scenario.nodes.head? = some "Unlocked" ∧
          scenario.nodes.IsChain Turnstile.graph.Leads) ∧
        (∀ name next, (∃ scenario ∈ scenarios, (name, next) ∈ consecutive scenario.nodes) ↔
          Turnstile.graph.Leads name next ∧ Turnstile.graph.Reaches "Unlocked" name) ∧
        (∀ name, (∃ scenario ∈ scenarios, name ∈ scenario.nodes) ↔
          Turnstile.graph.Reaches "Unlocked" name) :=
  have declared : "Unlocked" ∈ Turnstile.declaration.names := by decide
  ⟨Turnstile.build_declaration, declared,
    scenariosFrom_cover Turnstile.build_declaration declared 2⟩

/-- **Scenarios walk every cycle that can be reached**: from a declared node of a built
graph, each cycle of each node that can be reached is walked in one piece, as many times
in a row as loops are repeated, by some scenario. -/
theorem scenariosFrom_walk_cycles {d : Declaration κ} {g : Graph κ} (built : d.build = .ok g)
    {start : Name} (declared : start ∈ d.names) {repetitions : Nat} (positive : 1 ≤ repetitions) :
    ∃ scenarios, g.scenariosFrom start repetitions = .ok scenarios ∧
      ∀ name, g.Reaches start name → ∀ cycle ∈ g.cyclesOf name,
        repeatLoop cycle repetitions =
          (List.replicate repetitions cycle.dropLast).flatten ++ [name] ∧
        (repeatLoop cycle repetitions).length = repetitions * (cycle.length - 1) + 1 ∧
        ∃ scenario ∈ scenarios, repeatLoop cycle repetitions <:+: scenario.nodes := by
  have wf := wellFormed_of_build built
  have mem := (Declaration.names_perm_of_build built).mem_iff.2 declared
  refine ⟨_, Graph.scenariosFrom_eq_ok mem repetitions, ?_⟩
  intro name reaches cycle found
  have walk := Graph.closedWalk_of_mem_cyclesOf found
  refine ⟨walk.repeatLoop_eq_replicate positive, walk.length_repeatLoop positive, ?_⟩
  rw [exists_mem_nameScenarios _ fun nodes => repeatLoop cycle repetitions <:+: nodes]
  exact wf.exists_looping (Nat.ne_of_gt positive) reaches found

/-- The turnstile is unlocked and locked three times in a row. -/
theorem turnstile_scenarios_walk_cycles :
    Turnstile.declaration.build = .ok Turnstile.graph ∧ "Locked" ∈ Turnstile.declaration.names ∧
      1 ≤ 3 ∧
      ∃ scenarios, Turnstile.graph.scenariosFrom "Locked" 3 = .ok scenarios ∧
        ∃ scenario ∈ scenarios,
          ["Locked", "Unlocked", "Locked", "Unlocked", "Locked", "Unlocked", "Locked"] <:+:
            scenario.nodes := by
  have declared : "Locked" ∈ Turnstile.declaration.names := by decide
  have positive : 1 ≤ 3 := by decide
  obtain ⟨scenarios, enumerated, walked⟩ :=
    scenariosFrom_walk_cycles Turnstile.build_declaration declared positive
  obtain ⟨-, -, inside⟩ := walked "Locked" .refl _ Turnstile.mem_cyclesOf_locked
  exact ⟨Turnstile.build_declaration, declared, positive, scenarios, enumerated, inside⟩

end ScenarioGraph
