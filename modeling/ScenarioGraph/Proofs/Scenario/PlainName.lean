/-
# ScenarioGraph.Proofs.Scenario.PlainName -- names that need no suffix

Names without a dash can be told apart again after they were joined by dashes: the
joined text, split at its dashes, is the sequence it was made from.  The sequences of
an enumeration are all different, so their joined names are, and none needs a suffix.
This holds as well for nodes whose name is empty or looks like a suffix.

* `pieces_intercalate`: splitting undoes joining.
* `WellFormed.nodup_sequences`: no sequence is enumerated twice.
* `scenariosFrom_plain_names`: every scenario has its joined name, and splitting the
  name gives the nodes back.
-/
import ScenarioGraph.Proofs.Scenario.Naming
import ScenarioGraph.Proofs.Scenario.Coverage
import ScenarioGraph.Proofs.Scenario.Expansion

namespace ScenarioGraph

set_option autoImplicit false

variable {κ : Type}

/-! ## Joining and splitting -/

/-- The name has no dash in it. -/
def Dashless (name : Name) : Prop := '-' ∉ name.toList

/-- The pieces of a text between its dashes. -/
def pieces (text : String) : List Name := (text.split '-').toList.map fun piece => piece.copy

/-- Splitting undoes joining; of nothing at all, joining makes an empty text, which is one
empty piece. -/
theorem pieces_intercalate {nodes : NodeSequence} (dashless : ∀ name ∈ nodes, Dashless name)
    (nonempty : nodes ≠ []) : pieces ("-".intercalate nodes) = nodes := by
  have split := String.toList_split_intercalate dashless
  rw [if_neg nonempty] at split
  exact split

example : pieces "-#1-" = ["", "#1", ""] := by
  cbv

/-- Different sequences of such names have different joined names. -/
theorem nodup_map_intercalate {sequences : List NodeSequence} (distinct : sequences.Nodup)
    (dashless : ∀ nodes ∈ sequences, ∀ name ∈ nodes, Dashless name)
    (nonempty : ∀ nodes ∈ sequences, nodes ≠ []) :
    (sequences.map ("-".intercalate ·)).Nodup := by
  refine distinct.map_on fun first inFirst second inSecond same => ?_
  rw [← pieces_intercalate (dashless first inFirst) (nonempty first inFirst), same,
    pieces_intercalate (dashless second inSecond) (nonempty second inSecond)]

/-! ## Sequences of a graph -/

namespace Graph

variable {g : Graph κ} {start : Name} {repetitions : Nat}

/-- No sequence is enumerated twice, with loops or without. -/
theorem WellFormed.nodup_sequences (wf : g.WellFormed) (start : Name) (repetitions : Nat) :
    (g.sequences start repetitions).Nodup := by
  cases repetitions with
  | zero =>
      rw [sequences_zero]
      exact (wf.pairwise_forksBelow_trails start).imp ForksBelow.ne
  | succ count =>
      rw [wf.sequences_eq (Nat.succ_ne_zero count)]
      exact wf.nodup_expansions start (count + 1)

theorem WellFormed.ne_nil_of_mem_sequences (wf : g.WellFormed) {nodes : NodeSequence}
    (enumerated : nodes ∈ g.sequences start repetitions) : nodes ≠ [] := by
  rintro rfl
  have begins := (wf.walksFrom_of_mem_sequences enumerated).head
  cases begins

end Graph

/-! ## Scenarios of a built graph -/

/-- **Names without dashes are joined and left at that.**  If no node of a built graph has
a dash in its name, then from any declared node and for any number of repetitions every
scenario is named by its node names joined by dashes, with no suffix added, and the
pieces of the name are the nodes again. -/
theorem scenariosFrom_plain_names {d : Declaration κ} {g : Graph κ} (built : d.build = .ok g)
    (dashless : ∀ name ∈ d.names, Dashless name) {start : Name} (declared : start ∈ d.names)
    (repetitions : Nat) :
    ∃ scenarios, g.scenariosFrom start repetitions = .ok scenarios ∧
      ∀ scenario ∈ scenarios, scenario.name = "-".intercalate scenario.nodes ∧
        pieces scenario.name = scenario.nodes := by
  have wf := wellFormed_of_build built
  have sameNames := Declaration.names_perm_of_build built
  have mem := sameNames.mem_iff.2 declared
  have plain : ∀ nodes ∈ g.sequences start repetitions, ∀ name ∈ nodes, Dashless name := by
    intro nodes enumerated name visited
    have inGraph := wf.mem_names_of_visited mem enumerated name visited
    exact dashless name (sameNames.mem_iff.1 inGraph)
  have nonempty : ∀ nodes ∈ g.sequences start repetitions, nodes ≠ [] :=
    fun _ enumerated => wf.ne_nil_of_mem_sequences enumerated
  have distinct := nodup_map_intercalate (wf.nodup_sequences start repetitions) plain nonempty
  have split : ∀ scenario ∈ nameScenarios (g.sequences start repetitions),
      pieces ("-".intercalate scenario.nodes) = scenario.nodes :=
    (forall_mem_nameScenarios _ fun nodes => pieces ("-".intercalate nodes) = nodes).2
      fun nodes enumerated => pieces_intercalate (plain nodes enumerated) (nonempty nodes enumerated)
  refine ⟨_, Graph.scenariosFrom_eq_ok mem repetitions, fun scenario named => ?_⟩
  have joined := name_of_mem_nameScenarios distinct scenario named
  exact ⟨joined, joined ▸ split scenario named⟩

namespace Unnamed

/-- A node without a name, and one whose name looks like a suffix. -/
def declaration : Declaration Unit :=
  { start := some ""
    hooks := ⟨none, none⟩
    nodes :=
      [ { name := ""
          predecessors := ["#1"]
          inputs := []
          checks := [] },
        { name := "#1"
          predecessors := ["", "#1"]
          inputs := []
          checks := [] } ] }

def graph : Graph Unit :=
  { nodes := declaration.declared
    start := ""
    hooks := declaration.hooks }

theorem build_declaration : declaration.build = .ok graph := by
  have sound : declaration.defect? = none := by decide +kernel
  have started : declaration.findStart = .ok "" := by rfl
  have settled : declaration.declared.map Node.settle = declaration.declared := by
    simp [declaration, Declaration.declared, NodeDeclaration.toNode, Node.settle,
      Node.relabelSole]
  have sorted : declaration.declared.Pairwise fun a b => decide (a.name ≤ b.name) = true := by
    decide +kernel
  exact Declaration.build_of_settled sound started settled sorted

end Unnamed

/-- Scenarios of nodes with an empty name and with a name that looks like a suffix. -/
theorem unnamed_scenarios_plain_names :
    Unnamed.declaration.build = .ok Unnamed.graph ∧
      (∀ name ∈ Unnamed.declaration.names, Dashless name) ∧ "" ∈ Unnamed.declaration.names ∧
      ∃ scenarios, Unnamed.graph.scenariosFrom "" 1 = .ok scenarios ∧
        ∀ scenario ∈ scenarios, scenario.name = "-".intercalate scenario.nodes ∧
          pieces scenario.name = scenario.nodes := by
  have dashless : ∀ name ∈ Unnamed.declaration.names, Dashless name := by
    unfold Dashless
    decide
  have declared : "" ∈ Unnamed.declaration.names := by decide
  exact ⟨Unnamed.build_declaration, dashless, declared,
    scenariosFrom_plain_names Unnamed.build_declaration dashless declared 1⟩

end ScenarioGraph
