/-
# ScenarioGraph.Proofs.Graph.Representation -- what a built graph keeps of its declaration

A build gathers predecessors into sets, puts nodes and checks in name order, fills in the
labels that are left out and renames the only input of a node where that was done.
Enumeration and planning take the result for granted and check nothing again.  All of it is
said here of the declaration itself: which edges there are, which node may be without
predecessors, what guards may name, and how each node stands for a declared one.

* `Node.relabelSole_keeps`, `Node.map_label_relabelSole`: only one label is ever changed.
* `NodeDeclaration.represents_settle`: a settled node stands for its declaration.
* `exists_represents_of_mem`, `exists_node?_represents`: all nodes of a built graph do,
  and there is one for each declared node.
* `build_represents`: what holds of every graph that is built.
-/
import ScenarioGraph.Proofs.Graph.Validity

namespace ScenarioGraph

set_option autoImplicit false

variable {κ : Type}

/-! ## Settled nodes -/

/-- The name stands in the guard, in its condition at any depth. -/
def Guard.Mentions (name : Name) : Guard → Prop
  | .after names => name ∈ names
  | .when condition => condition.Mentions name

/-- The labels that inputs have in a graph: a node's only input is plainly `input` if it
would be `input#0`. -/
def NodeDeclaration.settledLabels (node : NodeDeclaration κ) : List String :=
  if node.labels = [defaultLabel 0] then ["input"] else node.labels

namespace Node

/-- The node stands for the declared one: it lists the same predecessors, as a set, has the
same inputs in the same order, under labels that differ, and the same checks in strict name
order. -/
structure Represents (node : Node κ) (declared : NodeDeclaration κ) : Prop where
  name : node.name = declared.name
  predecessors : ∀ name, name ∈ node.predecessors ↔ name ∈ declared.predecessors
  inputs : (node.inputs.map fun input => (input.guard, input.action)) =
    declared.inputs.map fun input => (input.guard, input.action)
  labels : node.inputs.map Input.label = declared.settledLabels
  distinct : (node.inputs.map Input.label).Nodup
  checks : node.checks.Perm declared.checks
  increasing : (node.checks.map Check.name).Pairwise (· < ·)

theorem relabelSole_keeps (inputs : List (Input κ)) :
    ((relabelSole inputs).map fun input => (input.guard, input.action)) =
      inputs.map fun input => (input.guard, input.action) := by
  unfold relabelSole
  split
  · split <;> rfl
  · rfl

theorem map_label_relabelSole (inputs : List (Input κ)) :
    (relabelSole inputs).map Input.label =
      if inputs.map Input.label = [defaultLabel 0] then ["input"] else inputs.map Input.label := by
  unfold relabelSole
  split
  · rename_i input
    by_cases unlabelled : input.label = defaultLabel 0 <;> simp [unlabelled]
  · rename_i several
    rw [if_neg]
    intro sole
    obtain ⟨input, rfl, -⟩ := List.map_eq_singleton_iff.1 sole
    exact several input rfl

theorem increasing_checks_settle {node : Node κ} (distinct : (node.checks.map Check.name).Nodup) :
    (node.settle.checks.map Check.name).Pairwise (· < ·) := by
  have perm : (node.settle.checks.map Check.name).Perm (node.checks.map Check.name) :=
    (List.mergeSort_perm _ _).map Check.name
  refine increasing_of_nodup ?_ (perm.nodup_iff.2 distinct)
  rw [List.pairwise_map]
  exact pairwise_mergeSort_key Check.name node.checks

end Node

namespace NodeDeclaration

variable {node : NodeDeclaration κ} {declared : List Name}

theorem map_label_settle (node : NodeDeclaration κ) :
    node.toNode.settle.inputs.map Input.label = node.settledLabels := by
  show (Node.relabelSole node.toNode.inputs).map Input.label = _
  rw [Node.map_label_relabelSole, map_label_toNode]
  rfl

theorem nodup_settledLabels (distinct : node.labels.Nodup) : node.settledLabels.Nodup := by
  unfold settledLabels
  split
  · exact List.nodup_singleton "input"
  · exact distinct

/-- Guards and actions stay as they were declared, in their order. -/
theorem map_inputs_toNode (node : NodeDeclaration κ) :
    (node.toNode.inputs.map fun input => (input.guard, input.action)) =
      node.inputs.map fun input => (input.guard, input.action) := by
  conv_rhs => rw [← List.zipIdx_map_fst 0 node.inputs]
  simp only [toNode, List.mapIdx_eq_zipIdx_map, List.map_map]
  rfl

/-- A valid node stands for its declaration once it is settled. -/
theorem represents_settle (valid : node.Valid declared) : node.toNode.settle.Represents node where
  name := rfl
  predecessors _ := mem_predecessors_toNode
  inputs := (Node.relabelSole_keeps node.toNode.inputs).trans node.map_inputs_toNode
  labels := node.map_label_settle
  distinct := by
    rw [map_label_settle]
    exact nodup_settledLabels valid.labels
  checks := List.mergeSort_perm _ _
  increasing := Node.increasing_checks_settle valid.checks

end NodeDeclaration

/-! ## Built graphs -/

section Built

variable {d : Declaration κ} {g : Graph κ}

/-- What is built has valid nodes. -/
theorem Declaration.valid_of_build (built : d.build = .ok g) {declared : NodeDeclaration κ}
    (listed : declared ∈ d.nodes) : declared.Valid d.names := by
  obtain ⟨sound, -, -, -⟩ := Declaration.build_eq_ok_iff.1 built
  have sounds := (Declaration.defect?_eq_none_iff.1 sound).2
  exact NodeDeclaration.sound_toNode_iff.1 (sounds _ (List.mem_map_of_mem listed))

/-- Every node of a built graph stands for a declared one. -/
theorem exists_represents_of_mem (built : d.build = .ok g) {node : Node κ}
    (member : node ∈ g.nodes) : ∃ declared ∈ d.nodes, node.Represents declared := by
  obtain ⟨made, inDeclared, rfl⟩ := (Declaration.mem_nodes_of_build built).1 member
  obtain ⟨declared, listed, rfl⟩ := List.mem_map.1 inDeclared
  have valid := Declaration.valid_of_build built listed
  exact ⟨declared, listed, NodeDeclaration.represents_settle valid⟩

/-- The name of a declared node finds the node that stands for it. -/
theorem exists_node?_represents (built : d.build = .ok g) {declared : NodeDeclaration κ}
    (listed : declared ∈ d.nodes) :
    ∃ node, g.node? declared.name = some node ∧ node.Represents declared := by
  have member : declared.toNode.settle ∈ g.nodes :=
    (Declaration.mem_nodes_of_build built).2 ⟨_, List.mem_map_of_mem listed, rfl⟩
  have found := (wellFormed_of_build built).node?_eq_some_iff.2 ⟨member, rfl⟩
  have valid := Declaration.valid_of_build built listed
  exact ⟨declared.toNode.settle, found, NodeDeclaration.represents_settle valid⟩

/-- Edges lead from the predecessors that are declared. -/
theorem leads_iff_of_build (built : d.build = .ok g) {name next : Name} :
    g.Leads name next ↔ ∃ node ∈ d.nodes, node.name = next ∧ name ∈ node.predecessors := by
  constructor
  · rintro ⟨node, member, rfl, entered⟩
    obtain ⟨declared, listed, represents⟩ := exists_represents_of_mem built member
    exact ⟨declared, listed, represents.name.symm, (represents.predecessors name).1 entered⟩
  · rintro ⟨declared, listed, rfl, entered⟩
    obtain ⟨node, found, represents⟩ := exists_node?_represents built listed
    obtain ⟨member, named⟩ := (wellFormed_of_build built).node?_eq_some_iff.1 found
    exact ⟨node, member, named, (represents.predecessors name).2 entered⟩

/-- The start node is declared, and every other node lists predecessors. -/
theorem start_of_build (built : d.build = .ok g) :
    g.start ∈ d.names ∧ ∀ node ∈ d.nodes, node.predecessors = [] → node.name = g.start := by
  obtain ⟨-, started, -, -⟩ := Declaration.build_eq_ok_iff.1 built
  refine ⟨(Declaration.findStart_eq_ok_iff.1 started).1, fun node listed none => ?_⟩
  exact Declaration.eq_of_mem_roots started (Declaration.mem_roots_iff.2 ⟨node, listed, rfl, none⟩)

/-- A guard of a built graph names declared nodes, and a guard on the last node names
predecessors of its own node. -/
theorem guards_of_build (built : d.build = .ok g) {node : Node κ} (member : node ∈ g.nodes)
    {guard : Guard} (listed : guard ∈ node.guards) :
    (∀ name, guard.Mentions name → name ∈ d.names) ∧
      ∀ names, guard = .after names → ∀ name ∈ names, name ∈ node.predecessors := by
  have wf := wellFormed_of_build built
  have perm := Declaration.names_perm_of_build built
  have allowed := allowed_of_build built member listed
  cases guard with
  | after names =>
      constructor
      · exact fun name named => perm.mem_iff.1 (wf.declared node member name (allowed name named))
      · rintro _ ⟨⟩
        exact allowed
  | when condition =>
      constructor
      · intro name mentioned
        exact perm.mem_iff.1 (allowed name (Condition.mem_names_iff.2 mentioned))
      · rintro _ ⟨⟩

end Built

/-- **A built graph represents its declaration.**  Its nodes are the declared ones in name
order.  The successors of a node are the declared nodes that list it, in strict name order.
The start node is declared, and no other node is without predecessors.  Guards mention
declared nodes only, and those on the last node predecessors of their own node.  Each node
has its inputs in declaration order, under different labels, and its checks in strict name
order. -/
theorem build_represents {d : Declaration κ} {g : Graph κ} (built : d.build = .ok g) :
    (g.names.Perm d.names ∧ g.names.Pairwise (· < ·)) ∧
      (∀ name next, next ∈ g.successors name ↔
        ∃ node ∈ d.nodes, node.name = next ∧ name ∈ node.predecessors) ∧
      (∀ name, (g.successors name).Pairwise (· < ·) ∧
        (name ∉ d.names → g.successors name = [])) ∧
      (g.start ∈ d.names ∧ ∀ node ∈ d.nodes, node.predecessors = [] → node.name = g.start) ∧
      (∀ node ∈ g.nodes, ∀ guard ∈ node.guards,
        (∀ name, guard.Mentions name → name ∈ d.names) ∧
          ∀ names, guard = .after names → ∀ name ∈ names, name ∈ node.predecessors) ∧
      ∀ declared ∈ d.nodes, ∃ node, g.node? declared.name = some node ∧ node.Represents declared := by
  have wf := wellFormed_of_build built
  have perm := Declaration.names_perm_of_build built
  refine ⟨⟨perm, wf.increasing⟩, ?_, ?_, start_of_build built, ?_, ?_⟩
  · intro name next
    rw [wf.mem_successors_iff, leads_iff_of_build built]
  · refine fun name => ⟨g.increasing_successors name, fun undeclared => ?_⟩
    rw [List.eq_nil_iff_forall_not_mem]
    intro next entered
    exact undeclared (perm.mem_iff.1 (Graph.mem_successors.1 entered).1)
  · exact fun node member guard listed => guards_of_build built member listed
  · exact fun declared listed => exists_node?_represents built listed

namespace Oven

def hot : NodeDeclaration Unit :=
  { name := "Hot"
    predecessors := ["Hot", "Cold", "Hot"]
    inputs := [⟨none, some (.after (NameSet.ofList ["Cold"])), ()⟩, ⟨some "stay", none, ()⟩]
    checks := [] }

/-- The only input needs no label, and the checks are not in name order. -/
def cold : NodeDeclaration Unit :=
  { name := "Cold"
    predecessors := ["Hot"]
    inputs := [⟨none, none, ()⟩]
    checks := [⟨"lamp_off", some (.when (.moreRecent "Cold" "Hot")), ()⟩, ⟨"door_open", none, ()⟩] }

def declaration : Declaration Unit :=
  { start := some "Hot", hooks := ⟨none, none⟩, nodes := [hot, cold] }

end Oven

/-- The oven is built; being cold follows being hot only, its input is plainly labelled and
its checks are sorted. -/
theorem oven_build_represents :
    ∃ g, Oven.declaration.build = .ok g ∧ "Cold" ∈ g.successors "Hot" ∧
      "Cold" ∉ g.successors "Cold" ∧
      ∃ node, g.node? "Cold" = some node ∧ node.inputs.map Input.label = ["input"] ∧
        (node.checks.map Check.name).Pairwise (· < ·) := by
  have valid : Oven.declaration.build.isOk = true := by decide +kernel
  cases built : Oven.declaration.build with
  | error defect =>
      rw [built] at valid
      cases valid
  | ok g =>
      obtain ⟨-, successors, -, -, -, nodes⟩ := build_represents built
      have listed : Oven.cold ∈ Oven.declaration.nodes := List.mem_cons_of_mem _ List.mem_cons_self
      obtain ⟨node, found, represents⟩ := nodes Oven.cold listed
      refine ⟨g, rfl, (successors "Hot" "Cold").2 ?_, mt (successors "Cold" "Cold").1 ?_,
        node, found, represents.labels, represents.increasing⟩
      · exact ⟨Oven.cold, listed, rfl, List.mem_cons_self⟩
      · simp [Oven.declaration, Oven.hot, Oven.cold]

end ScenarioGraph
