/-
# ScenarioGraph.Proofs.Graph.WellFormed -- what every built graph satisfies

A declaration is built into a graph only without defects, so the graph lists its
nodes in strictly increasing name order, names only declared nodes as
predecessors, and declares its start node.

* `wellFormed_of_build`: every built graph is `Graph.WellFormed`.
* `WellFormed.mem_successors_iff`: the successor table has every edge, since no
  predecessor is skipped when it is made.
* `WellFormed.mem_edges_iff`: the edges of a well-formed graph are exactly the
  pairs that `Graph.Leads` relates.
* `WellFormed.increasingTargets_edges`: edges with one source have increasing targets.
-/
import ScenarioGraph.Proofs.Graph.Soundness
import Mathlib.Logic.Relation

namespace ScenarioGraph

set_option autoImplicit false

variable {κ α : Type}

/-! ## Sorting by name -/

theorem pairwise_mergeSort_key (key : α → Name) (items : List α) :
    (items.mergeSort fun a b => decide (key a ≤ key b)).Pairwise fun a b => key a ≤ key b := by
  refine (List.pairwise_mergeSort ?_ ?_ _).imp of_decide_eq_true
  · simp only [decide_eq_true_eq]
    exact fun a b c => String.le_trans
  · simp only [Bool.or_eq_true, decide_eq_true_eq]
    exact fun a b => String.le_total (key a) (key b)

/-- Names in order, all different, are strictly increasing. -/
theorem increasing_of_nodup {names : List Name} (sorted : names.Pairwise (· ≤ ·))
    (distinct : names.Nodup) : names.Pairwise (· < ·) :=
  sorted.imp₂ (fun _ _ le ne => Decidable.byContradiction fun notBelow =>
    ne (String.le_antisymm le (String.not_lt.1 notBelow))) distinct

/-! ## Edges as relations -/

/-- Edges that share a source come with increasing targets. -/
def IncreasingTargets (edges : List Edge) : Prop :=
  edges.Pairwise fun first second => first.1 = second.1 → first.2 < second.2

theorem IncreasingTargets.nodup {edges : List Edge} (increasing : IncreasingTargets edges) :
    edges.Nodup := by
  apply increasing.imp
  rintro first second below rfl
  exact absurd (below rfl) (String.lt_irrefl first.2)

namespace Graph

/-- An edge leads from `name` to `next`: the node `next` lists `name` as a predecessor. -/
def Leads (g : Graph κ) (name next : Name) : Prop :=
  ∃ node ∈ g.nodes, node.name = next ∧ name ∈ node.predecessors

/-- A walk of any number of edges leads from `start` to `name`. -/
def Reaches (g : Graph κ) : Name → Name → Prop := Relation.ReflTransGen g.Leads

/-- A walk of at least one edge leads from `name` back to it. -/
def OnCycle (g : Graph κ) (name : Name) : Prop := Relation.TransGen g.Leads name name

/-- No node is on a cycle. -/
def Acyclic (g : Graph κ) : Prop := ∀ name, ¬ g.OnCycle name

instance (g : Graph κ) (name next : Name) : Decidable (g.Leads name next) :=
  inferInstanceAs (Decidable (∃ node ∈ g.nodes, node.name = next ∧ name ∈ node.predecessors))

theorem leads_of_mem_successors {g : Graph κ} {name next : Name}
    (entered : next ∈ g.successors name) : g.Leads name next :=
  (mem_successors.1 entered).2

/-- No edge leaves a node that none lists as a predecessor. -/
theorem not_leads_of_forall_nodes {g : Graph κ} {name : Name}
    (unlisted : ∀ node ∈ g.nodes, name ∉ node.predecessors) (next : Name) :
    ¬ g.Leads name next := by
  rintro ⟨node, member, -, entered⟩
  exact unlisted node member entered

theorem mem_names {g : Graph κ} {name : Name} :
    name ∈ g.names ↔ ∃ node ∈ g.nodes, node.name = name :=
  List.mem_map

theorem contains_iff {g : Graph κ} {name : Name} : g.contains name = true ↔ name ∈ g.names := by
  simp [contains, node?, Graph.mem_names]

/-- Where an edge leads is declared. -/
theorem Leads.mem_names {g : Graph κ} {name next : Name} (leads : g.Leads name next) :
    next ∈ g.names := by
  obtain ⟨node, member, named, -⟩ := leads
  exact Graph.mem_names.2 ⟨node, member, named⟩

theorem Reaches.mem_names {g : Graph κ} {start name : Name} (reaches : g.Reaches start name)
    (declared : start ∈ g.names) : name ∈ g.names := by
  cases reaches with
  | refl => exact declared
  | tail _ leads => exact leads.mem_names

/-- What holds of every well-formed graph, by the checks made when it is built. -/
structure WellFormed (g : Graph κ) : Prop where
  increasing : g.names.Pairwise (· < ·)
  declared : ∀ node ∈ g.nodes, ∀ name ∈ node.predecessors, name ∈ g.names
  start_mem : g.start ∈ g.names

end Graph

/-! ## Built graphs -/

namespace Declaration

/-- A sound declaration of settled nodes in name order is built as it stands. -/
theorem build_of_settled {d : Declaration κ} {start : Name} (sound : d.defect? = none)
    (started : d.findStart = .ok start) (settled : d.declared.map Node.settle = d.declared)
    (sorted : d.declared.Pairwise fun a b => decide (a.name ≤ b.name) = true) :
    d.build = .ok { nodes := d.declared, start, hooks := d.hooks } := by
  refine build_eq_ok_iff.2 ⟨sound, started, rfl, ?_⟩
  rw [settled, List.mergeSort_of_pairwise sorted]

theorem mem_nodes_of_build {d : Declaration κ} {g : Graph κ} (built : d.build = .ok g)
    {node : Node κ} : node ∈ g.nodes ↔ ∃ declared ∈ d.declared, declared.settle = node := by
  obtain ⟨-, -, -, nodes⟩ := build_eq_ok_iff.1 built
  rw [nodes, List.mem_mergeSort, List.mem_map]

/-- The nodes of a built graph have the declared names, in another order. -/
theorem names_perm_of_build {d : Declaration κ} {g : Graph κ} (built : d.build = .ok g) :
    g.names.Perm d.names := by
  obtain ⟨-, -, -, nodes⟩ := build_eq_ok_iff.1 built
  have settled : (d.declared.map Node.settle).map Node.name = d.names := by
    rw [List.map_map, ← d.names_declared]
    rfl
  rw [Graph.names, nodes, ← settled]
  exact (List.mergeSort_perm _ _).map Node.name

end Declaration

/-- **Every built graph is well formed.** -/
theorem wellFormed_of_build {d : Declaration κ} {g : Graph κ} (built : d.build = .ok g) :
    g.WellFormed := by
  obtain ⟨sound, started, -, nodes⟩ := Declaration.build_eq_ok_iff.1 built
  obtain ⟨distinct, sounds⟩ := Declaration.defect?_eq_none_iff.1 sound
  have perm := Declaration.names_perm_of_build built
  refine ⟨?_, ?_, perm.mem_iff.2 (Declaration.findStart_eq_ok_iff.1 started).1⟩
  · have sorted : g.names.Pairwise (· ≤ ·) := by
      rw [Graph.names, nodes, List.pairwise_map]
      exact pairwise_mergeSort_key Node.name _
    exact increasing_of_nodup sorted (perm.nodup_iff.2 distinct)
  · intro node member name entered
    obtain ⟨declared, listed, rfl⟩ := (Declaration.mem_nodes_of_build built).1 member
    exact perm.mem_iff.2 ((sounds declared listed).predecessors name entered)

/-- Settling a node keeps its guards, up to the order of its checks. -/
theorem Node.mem_guards_settle {node : Node κ} {guard : Guard} :
    guard ∈ node.settle.guards ↔ guard ∈ node.guards := by
  have inputs : (Node.relabelSole node.inputs).filterMap Input.guard =
      node.inputs.filterMap Input.guard := by
    unfold Node.relabelSole
    split
    · rename_i sole
      rw [sole]
      split <;> rfl
    · rfl
  have checks : (node.settle.checks.filterMap Check.guard).Perm
      (node.checks.filterMap Check.guard) :=
    (List.mergeSort_perm _ _).filterMap Check.guard
  rw [Node.guards, Node.guards, List.mem_append, List.mem_append, checks.mem_iff, ← inputs]
  rfl

/-- The guards of a built graph use only names that they may. -/
theorem allowed_of_build {d : Declaration κ} {g : Graph κ} (built : d.build = .ok g)
    {node : Node κ} (member : node ∈ g.nodes) {guard : Guard} (listed : guard ∈ node.guards) :
    guard.Allowed g.names node.predecessors := by
  obtain ⟨sound, -, -, -⟩ := Declaration.build_eq_ok_iff.1 built
  obtain ⟨-, sounds⟩ := Declaration.defect?_eq_none_iff.1 sound
  obtain ⟨declared, inDeclared, rfl⟩ := (Declaration.mem_nodes_of_build built).1 member
  have allowed := (sounds declared inDeclared).guards guard (Node.mem_guards_settle.1 listed)
  cases guard with
  | after names => exact allowed
  | when condition =>
      exact fun name mentioned =>
        (Declaration.names_perm_of_build built).mem_iff.2 (allowed name mentioned)

/-! ## Edges of a well-formed graph -/

namespace Graph.WellFormed

variable {g : Graph κ}

/-- Both ends of an edge are declared. -/
theorem source_mem (wf : g.WellFormed) {name next : Name} (leads : g.Leads name next) :
    name ∈ g.names := by
  obtain ⟨node, member, -, entered⟩ := leads
  exact wf.declared node member name entered

/-- The successor table has every edge. -/
theorem mem_successors_iff (wf : g.WellFormed) {name next : Name} :
    next ∈ g.successors name ↔ g.Leads name next :=
  mem_successors.trans (and_iff_right_of_imp wf.source_mem)

theorem mem_edges_iff (wf : g.WellFormed) {name next : Name} :
    (name, next) ∈ g.edges ↔ g.Leads name next := by
  rw [mem_edges, wf.mem_successors_iff]
  exact and_iff_right_of_imp wf.source_mem

theorem increasingTargets_edges (wf : g.WellFormed) : IncreasingTargets g.edges := by
  rw [IncreasingTargets, edges, List.pairwise_flatMap]
  constructor
  · intro name _
    rw [List.pairwise_map]
    refine (g.increasing_successors name).imp ?_
    intro first second below _
    exact below
  · refine wf.increasing.imp ?_
    intro source later below first inFirst second inSecond same
    obtain ⟨next, -, rfl⟩ := List.mem_map.1 inFirst
    obtain ⟨other, -, rfl⟩ := List.mem_map.1 inSecond
    have sources : source = later := same
    exact absurd sources (String.ne_of_lt below)

/-- A name finds the one node that bears it. -/
theorem node?_eq_some_iff (wf : g.WellFormed) {name : Name} {node : Node κ} :
    g.node? name = some node ↔ node ∈ g.nodes ∧ node.name = name := by
  constructor
  · intro found
    exact ⟨List.mem_of_find?_eq_some found, by simpa using List.find?_some found⟩
  · rintro ⟨member, rfl⟩
    obtain ⟨before, after, split⟩ := List.append_of_mem member
    have increasing := wf.increasing
    rw [names, split, List.map_append, List.map_cons] at increasing
    have below := (List.pairwise_append.1 increasing).2.2
    rw [node?, List.find?_eq_some_iff_append]
    refine ⟨by simp, before, after, split, fun earlier inBefore => ?_⟩
    have := below _ (List.mem_map_of_mem inBefore) node.name List.mem_cons_self
    simpa using String.ne_of_lt this

end Graph.WellFormed

/-! ## A turnstile -/

namespace Turnstile

/-- A coin unlocks the turnstile, further coins are tips, and a push locks it again. -/
def declaration : Declaration Unit :=
  { start := some "Locked"
    hooks := ⟨none, none⟩
    nodes :=
      [ { name := "Locked"
          predecessors := ["Unlocked"]
          inputs := [⟨some "push", none, ()⟩]
          checks := [] },
        { name := "Unlocked"
          predecessors := ["Locked", "Unlocked"]
          inputs :=
            [ ⟨some "coin", some (.after (NameSet.ofList ["Locked"])), ()⟩,
              ⟨some "tip", some (.after (NameSet.ofList ["Unlocked"])), ()⟩ ]
          checks := [⟨"was_locked", some (.when (.lastIn (NameSet.ofList ["Locked"]))), ()⟩] } ] }

def graph : Graph Unit :=
  { nodes := declaration.declared
    start := "Locked"
    hooks := declaration.hooks }

theorem build_declaration : declaration.build = .ok graph := by
  have sound : declaration.defect? = none := by decide +kernel
  have started : declaration.findStart = .ok "Locked" := by rfl
  have labelled : "push" ≠ defaultLabel 0 := by decide
  have settled : declaration.declared.map Node.settle = declaration.declared := by
    simp [declaration, Declaration.declared, NodeDeclaration.toNode, Node.settle,
      Node.relabelSole, labelled]
  have sorted : declaration.declared.Pairwise fun a b => decide (a.name ≤ b.name) = true := by
    decide +kernel
  exact Declaration.build_of_settled sound started settled sorted

theorem leads_unlocked : graph.Leads "Locked" "Unlocked" := by decide

theorem leads_locked : graph.Leads "Unlocked" "Locked" := by decide

theorem leads_unlocked_self : graph.Leads "Unlocked" "Unlocked" := by decide

end Turnstile

end ScenarioGraph
