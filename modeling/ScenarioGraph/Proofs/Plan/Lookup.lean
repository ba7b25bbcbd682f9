/-
# ScenarioGraph.Proofs.Plan.Lookup -- finding a scenario by its name

A suite looks a scenario up by its name and answers with the first that bears it.  All
suites are made of named sequences, by planning a graph or from a list that was named
before, and names are different, so the name of each entry finds that entry.

* `Suite.get?_name`: where names are different, a name finds the scenario that bears it.
* `Graph.planScenarios_of_planSuite`: what is planned from a graph is named sequences.
* `nameScenarios_exact`: which names scenarios get, and what these find in a suite.
-/
import ScenarioGraph.Proofs.Plan.FirstAmbiguity
import ScenarioGraph.Proofs.Scenario.Naming

namespace ScenarioGraph

set_option autoImplicit false

variable {κ α β : Type}

/-! ## Different names -/

/-- Where keys are different, one item only has the key of an item. -/
theorem filter_key_eq [DecidableEq β] {items : List α} {key : α → β}
    (distinct : (items.map key).Nodup) {item : α} (member : item ∈ items) :
    items.filter (fun other => key other = key item) = [item] := by
  obtain ⟨before, after, rfl⟩ := List.append_of_mem member
  rw [List.map_append, List.map_cons, List.nodup_append, List.nodup_cons] at distinct
  obtain ⟨-, ⟨notAfter, -⟩, apart⟩ := distinct
  have front : before.filter (fun other => key other = key item) = [] := by
    refine List.filter_eq_nil_iff.2 fun other inBefore => ?_
    simpa using apart _ (List.mem_map_of_mem inBefore) _ List.mem_cons_self
  have back : after.filter (fun other => key other = key item) = [] := by
    refine List.filter_eq_nil_iff.2 fun other inAfter same => notAfter ?_
    rw [← of_decide_eq_true same]
    exact List.mem_map_of_mem inAfter
  rw [List.filter_append, List.filter_cons_of_pos (by simp), front, back]
  rfl

/-- Where names are different, a name finds the scenario that bears it. -/
theorem Suite.get?_name {suite : Suite κ}
    (distinct : (suite.scenarios.map PlannedScenario.name).Nodup) {planned : PlannedScenario κ}
    (member : planned ∈ suite.scenarios) : suite.get? planned.name = some planned := by
  rw [get?, ← List.head?_filter, filter_key_eq distinct member]
  rfl

namespace Graph

variable {g : Graph κ} {repetitions : Nat} {sequences : List NodeSequence} {suite : Suite κ}

/-- The suite of a graph plans named sequences. -/
theorem planScenarios_of_planSuite (made : g.planSuite repetitions = .ok suite) :
    ∃ sequences, g.planScenarios repetitions (nameScenarios sequences) = .ok suite := by
  by_cases declared : g.start ∈ g.names
  · rw [planSuite_eq declared] at made
    exact ⟨_, made⟩
  · rw [planSuite, scenarios, scenariosFrom, trails_eq_error declared] at made
    cases made

theorem nodup_names_of_planScenarios
    (made : g.planScenarios repetitions (nameScenarios sequences) = .ok suite) :
    (suite.scenarios.map PlannedScenario.name).Nodup := by
  obtain ⟨-, planned, -⟩ := planScenarios_eq_ok made
  have names : suite.scenarios.map PlannedScenario.name =
      (suite.scenarios.map PlannedScenario.scenario).map Scenario.name := by
    rw [List.map_map]
    rfl
  rw [names, planned]
  exact nodup_names_nameScenarios sequences

/-- The entry at each place is the scenario of that place, and its name finds it. -/
theorem get?_of_planScenarios
    (made : g.planScenarios repetitions (nameScenarios sequences) = .ok suite) {i : Nat}
    {planned : PlannedScenario κ} (found : suite.scenarios[i]? = some planned) :
    planned.scenario.index = i ∧ suite.get? planned.name = some planned := by
  obtain ⟨-, scenarios, -⟩ := planScenarios_eq_ok made
  have named : (nameScenarios sequences)[i]? = some planned.scenario := by
    rw [← scenarios, List.getElem?_map, found]
    rfl
  have distinct := nodup_names_of_planScenarios made
  exact ⟨(namedAt_nameScenarios named).1, Suite.get?_name distinct (List.mem_of_getElem? found)⟩

end Graph

/-! ## Named sequences -/

/-- **Scenarios are named apart, and each is found by its name.**  Whatever the sequences
are, there is one scenario for each, in order, with its place, and no two have one name:
the joined name of the nodes, if no scenario before has it, or else that name with the
least suffix from its place on that no scenario before has, found before twice the place.
In a suite planned of such scenarios, or planned from a graph, the name of each entry
finds the entry. -/
theorem nameScenarios_exact (sequences : List NodeSequence) :
    (nameScenarios sequences).map Scenario.nodes = sequences ∧
    ((nameScenarios sequences).map Scenario.name).Nodup ∧
    (∀ i scenario, (nameScenarios sequences)[i]? = some scenario → scenario.index = i ∧
      NamedAt (((nameScenarios sequences).take i).map Scenario.name) i
        ("-".intercalate scenario.nodes) scenario.name) ∧
    ∀ (g : Graph κ) repetitions suite,
      g.planScenarios repetitions (nameScenarios sequences) = .ok suite ∨
        g.planSuite repetitions = .ok suite →
      ∀ i planned, suite.scenarios[i]? = some planned →
        planned.scenario.index = i ∧ suite.get? planned.name = some planned := by
  refine ⟨map_nodes_nameScenarios sequences, nodup_names_nameScenarios sequences, ?_, ?_⟩
  · exact fun i scenario found => namedAt_nameScenarios found
  · rintro g repetitions suite (made | made) i planned found
    · exact Graph.get?_of_planScenarios made found
    · obtain ⟨others, made⟩ := Graph.planScenarios_of_planSuite made
      exact Graph.get?_of_planScenarios made found

namespace Dashed

def node (name : Name) (predecessors : List Name) : Node Unit :=
  { name, predecessors := NameSet.ofList predecessors, inputs := [], checks := [] }

/-- Nodes with dashes in their names, and one whose name looks like a suffix. -/
def graph : Graph Unit :=
  { nodes := [node "S" [], node "a" ["S"], node "a-b" ["S"], node "b" ["a"], node "b#2" ["a"]]
    start := "S"
    hooks := ⟨none, none⟩ }

def sequences : List NodeSequence := [["S", "a", "b"], ["S", "a", "b#2"], ["S", "a-b"]]

end Dashed

/-- The joined name of the last scenario is taken, and so is its first suffix; all three are
found by their names. -/
theorem dashed_scenarios_found :
    ∃ suite, Dashed.graph.planScenarios 0 (nameScenarios Dashed.sequences) = .ok suite ∧
      suite.scenarios.map PlannedScenario.name = ["S-a-b", "S-a-b#2", "S-a-b#3"] ∧
      ∀ (i : Nat) planned, suite.scenarios[i]? = some planned →
        suite.get? planned.name = some planned := by
  have named : (fun suite => suite.scenarios.map PlannedScenario.name) <$>
      Dashed.graph.planScenarios 0 (nameScenarios Dashed.sequences) =
        .ok ["S-a-b", "S-a-b#2", "S-a-b#3"] := by
    decide +kernel
  obtain ⟨suite, made, names⟩ := map_eq_ok_iff.1 named
  have finds := (nameScenarios_exact Dashed.sequences).2.2.2 Dashed.graph 0 suite (Or.inl made)
  exact ⟨suite, made, names, fun i planned found => (finds i planned found).2⟩

end ScenarioGraph
