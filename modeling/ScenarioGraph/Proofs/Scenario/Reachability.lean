/-
# ScenarioGraph.Proofs.Scenario.Reachability -- which declared nodes are visited

A node that nothing leads to is refused unless it is the start node.  This asks for
a predecessor of every other node, not for a walk from the start node: nodes that
lead to each other in a circle all have predecessors, and may still be cut off.
Cycles are the only way this can happen.  From a node that cannot be reached one can
go back from predecessor to predecessor and never meet the start node; as there are
finitely many nodes, this runs into a cycle, which cannot be reached either.

* `exists_leads_of_ne_start`: what a build asks of every node but the start node.
* `exists_onCycle_of_entered`: going back inside a finite set runs into a cycle.
* `exists_cutOff_cycle`: the cycle behind a node that cannot be reached.
* `scenarios_visit_declared_iff`: the scenarios of a built graph visit every declared
  node exactly if every node on a cycle can be reached; `lamp_on_unvisited` is a graph
  where they do not.
-/
import ScenarioGraph.Proofs.Scenario.Coverage
import Mathlib.Data.Fintype.Card
import Mathlib.Data.Set.Finite.List

namespace ScenarioGraph

set_option autoImplicit false

variable {κ : Type} {d : Declaration κ} {g : Graph κ} {name : Name}

/-! ## Nodes without predecessors -/

/-- Every declared node but the start node is entered from some node. -/
theorem exists_leads_of_ne_start (built : d.build = .ok g) (declared : name ∈ d.names)
    (other : name ≠ g.start) : ∃ last, g.Leads last name := by
  obtain ⟨-, started, -, -⟩ := Declaration.build_eq_ok_iff.1 built
  rw [← d.names_declared] at declared
  obtain ⟨node, listed, rfl⟩ := List.mem_map.1 declared
  have entered : node.predecessors.toList ≠ [] := by
    intro none
    have isRoot : node.name ∈ d.roots :=
      Declaration.mem_roots.2 ⟨node, listed, List.isEmpty_iff.2 none, rfl⟩
    exact other (Declaration.eq_of_mem_roots started isRoot)
  obtain ⟨last, member⟩ := List.exists_mem_of_ne_nil _ entered
  have settled := (Declaration.mem_nodes_of_build built).2 ⟨node, listed, rfl⟩
  exact ⟨last, node.settle, settled, rfl, member⟩

/-! ## Going back -/

/-- A finite set whose nodes are all entered from inside contains a node on a cycle. -/
theorem exists_onCycle_of_entered {inside : Set Name} (finite : inside.Finite)
    (some : inside.Nonempty) (entered : ∀ name ∈ inside, ∃ last ∈ inside, g.Leads last name) :
    ∃ origin ∈ inside, g.OnCycle origin := by
  by_contra none
  push Not at none
  -- without a cycle, walks put the finite set in a well-founded order
  let before : inside → inside → Prop := fun first last =>
    Relation.TransGen g.Leads first.1 last.1
  have : Finite inside := finite
  have : IsTrans inside before := ⟨fun _ _ _ => Relation.TransGen.trans⟩
  have : Std.Irrefl before := ⟨fun origin => none origin.1 origin.2⟩
  have wellFounded : WellFounded before := Finite.wellFounded_of_trans_of_irrefl before
  obtain ⟨first, -, least⟩ := wellFounded.has_min Set.univ ⟨⟨_, some.some_mem⟩, trivial⟩
  obtain ⟨last, member, leads⟩ := entered first.1 first.2
  exact least ⟨last, member⟩ trivial (Relation.TransGen.single leads)

/-- Behind a node that cannot be reached there is a cycle that cannot be reached. -/
theorem exists_cutOff_cycle (built : d.build = .ok g) (declared : name ∈ g.names)
    (unreached : ¬ g.Reaches g.start name) :
    ∃ origin, g.OnCycle origin ∧ ¬ g.Reaches g.start origin ∧ g.Reaches origin name := by
  have wf := wellFormed_of_build built
  let inside : Set Name :=
    {origin | origin ∈ g.names ∧ ¬ g.Reaches g.start origin ∧ g.Reaches origin name}
  have finite : inside.Finite := (List.finite_toSet g.names).subset fun _ member => member.1
  have entered : ∀ next ∈ inside, ∃ last ∈ inside, g.Leads last next := by
    rintro next ⟨isDeclared, cutOff, reaches⟩
    have other : next ≠ g.start := by
      rintro rfl
      exact cutOff .refl
    have declaredNext := (Declaration.names_perm_of_build built).mem_iff.1 isDeclared
    obtain ⟨last, leads⟩ := exists_leads_of_ne_start built declaredNext other
    refine ⟨last, ⟨wf.source_mem leads, ?_, reaches.head leads⟩, leads⟩
    intro reached
    exact cutOff (reached.tail leads)
  obtain ⟨origin, ⟨-, cutOff, reaches⟩, cycle⟩ :=
    exists_onCycle_of_entered finite ⟨name, declared, unreached, .refl⟩ entered
  exact ⟨origin, cycle, cutOff, reaches⟩

theorem Graph.OnCycle.mem_names (cycle : g.OnCycle name) : name ∈ g.names := by
  obtain ⟨last, -, leads⟩ := Relation.TransGen.tail'_iff.1 cycle
  exact leads.mem_names

/-- Every declared node can be reached exactly if every node on a cycle can. -/
theorem reaches_declared_iff (built : d.build = .ok g) :
    (∀ name ∈ g.names, g.Reaches g.start name) ↔
      ∀ origin, g.OnCycle origin → g.Reaches g.start origin := by
  constructor
  · intro all origin cycle
    exact all origin cycle.mem_names
  · intro cycles name declared
    by_contra unreached
    obtain ⟨origin, cycle, cutOff, -⟩ := exists_cutOff_cycle built declared unreached
    exact cutOff (cycles origin cycle)

/-! ## Scenarios of a built graph -/

/-- **Only cycles can be left out.**  In a built graph, behind every declared node that
the start node does not reach there is a cycle that it does not reach either.  For any
number of repetitions the nodes visited by scenarios are those that can be reached, and
these are all declared nodes exactly if every node on a cycle can be reached. -/
theorem scenarios_visit_declared_iff (built : d.build = .ok g) :
    (∀ name ∈ d.names, ¬ g.Reaches g.start name →
      ∃ origin, g.OnCycle origin ∧ ¬ g.Reaches g.start origin ∧ g.Reaches origin name) ∧
    ∀ repetitions, ∃ scenarios, g.scenarios repetitions = .ok scenarios ∧
      (∀ name, (∃ scenario ∈ scenarios, name ∈ scenario.nodes) ↔ g.Reaches g.start name) ∧
      ((∀ name ∈ d.names, ∃ scenario ∈ scenarios, name ∈ scenario.nodes) ↔
        ∀ origin, g.OnCycle origin → g.Reaches g.start origin) := by
  have wf := wellFormed_of_build built
  have same : ∀ name, name ∈ d.names ↔ name ∈ g.names := fun _ =>
    (Declaration.names_perm_of_build built).mem_iff.symm
  refine ⟨fun name declared => exists_cutOff_cycle built ((same name).1 declared), ?_⟩
  intro repetitions
  have visited : ∀ name, (∃ scenario ∈ nameScenarios (g.sequences g.start repetitions),
      name ∈ scenario.nodes) ↔ g.Reaches g.start name := by
    intro name
    rw [exists_mem_nameScenarios _ fun nodes => name ∈ nodes]
    exact wf.exists_visiting_iff
  refine ⟨_, Graph.scenariosFrom_eq_ok wf.start_mem repetitions, visited, ?_⟩
  simp only [visited, same]
  exact reaches_declared_iff built

/-- Both states of the turnstile can be reached, so both are visited. -/
theorem turnstile_scenarios_visit :
    Turnstile.declaration.build = .ok Turnstile.graph ∧
      (∀ origin, Turnstile.graph.OnCycle origin →
        Turnstile.graph.Reaches Turnstile.graph.start origin) ∧
      ∀ repetitions, ∃ scenarios, Turnstile.graph.scenarios repetitions = .ok scenarios ∧
        ∀ name ∈ Turnstile.declaration.names,
          ∃ scenario ∈ scenarios, name ∈ scenario.nodes := by
  have reached : ∀ origin, Turnstile.graph.OnCycle origin →
      Turnstile.graph.Reaches Turnstile.graph.start origin := by
    intro origin cycle
    have declared : origin ∈ ["Locked", "Unlocked"] := cycle.mem_names
    rcases List.mem_pair.1 declared with rfl | rfl
    · exact .refl
    · exact .single Turnstile.leads_unlocked
  refine ⟨Turnstile.build_declaration, reached, fun repetitions => ?_⟩
  obtain ⟨scenarios, enumerated, -, visited⟩ :=
    (scenarios_visit_declared_iff Turnstile.build_declaration).2 repetitions
  exact ⟨scenarios, enumerated, visited.2 reached⟩

/-! ## A lamp that nothing switches on -/

namespace Lamp

/-- The lamp is off, and it stays on only if it is on. -/
def declaration : Declaration Unit :=
  { start := none
    hooks := ⟨none, none⟩
    nodes :=
      [ { name := "Off", predecessors := [], inputs := [], checks := [] },
        { name := "On", predecessors := ["On"], inputs := [], checks := [] } ] }

def graph : Graph Unit :=
  { nodes := declaration.declared
    start := "Off"
    hooks := declaration.hooks }

theorem build_declaration : declaration.build = .ok graph := by
  have sound : declaration.defect? = none := by decide +kernel
  have started : declaration.findStart = .ok "Off" := by rfl
  have settled : declaration.declared.map Node.settle = declaration.declared := by
    simp [declaration, Declaration.declared, NodeDeclaration.toNode, Node.settle,
      Node.relabelSole]
  have sorted : declaration.declared.Pairwise fun a b => decide (a.name ≤ b.name) = true := by
    decide +kernel
  exact Declaration.build_of_settled sound started settled sorted

theorem not_reaches_on : ¬ graph.Reaches graph.start "On" := by
  intro reaches
  rcases Relation.ReflTransGen.cases_head reaches with same | ⟨next, leads, -⟩
  · exact absurd same (by decide)
  · exact Graph.not_leads_of_forall_nodes (by decide) next leads

end Lamp

/-- The lamp is built, and no scenario ever visits its declared state `On`. -/
theorem lamp_on_unvisited :
    Lamp.declaration.build = .ok Lamp.graph ∧ "On" ∈ Lamp.declaration.names ∧
      ¬ Lamp.graph.Reaches Lamp.graph.start "On" ∧
      ∀ repetitions, ∃ scenarios, Lamp.graph.scenarios repetitions = .ok scenarios ∧
        ∀ scenario ∈ scenarios, "On" ∉ scenario.nodes := by
  have wf := wellFormed_of_build Lamp.build_declaration
  refine ⟨Lamp.build_declaration, by decide, Lamp.not_reaches_on, fun repetitions => ?_⟩
  refine ⟨_, Graph.scenariosFrom_eq_ok wf.start_mem repetitions, ?_⟩
  apply (forall_mem_nameScenarios _ fun nodes => "On" ∉ nodes).2
  intro nodes enumerated visited
  exact Lamp.not_reaches_on (wf.exists_visiting_iff.1 ⟨nodes, enumerated, visited⟩)

end ScenarioGraph
