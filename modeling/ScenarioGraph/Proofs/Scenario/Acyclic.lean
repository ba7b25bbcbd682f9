/-
# ScenarioGraph.Proofs.Scenario.Acyclic -- enumeration without cycles

Without a cycle no walk comes back to a node it has visited.  A trail, which may use
no edge twice, then visits no node twice, and it stops only where no edge leads on: a
path to a sink.  No node has a cycle, so there is nothing to repeat, and the scenarios
are the same for any number of repetitions.

* `Acyclic.nodup_of_isChain`: walks visit no node twice.
* `Acyclic.mem_trails_iff`: the trails are the paths to sinks.
* `Acyclic.cyclesOf_eq_nil`, `Acyclic.sequences_eq`: nothing is put in place of a node.
* `scenariosFrom_acyclic`: all of it, for every graph that is built.
* `acyclic_of_rank`: a rank that rises along every edge leaves no cycle.
-/
import ScenarioGraph.Proofs.Scenario.Expansion

namespace ScenarioGraph

set_option autoImplicit false

variable {κ : Type}

namespace Graph

variable {g : Graph κ} {start name : Name} {nodes : NodeSequence} {repetitions : Nat}

/-! ## Paths to sinks -/

/-- A walk from `start` that visits no node twice, to a node that no edge leaves. -/
structure PathToSink (g : Graph κ) (start : Name) (nodes : NodeSequence) : Prop
    extends g.WalksFrom start nodes where
  distinct : nodes.Nodup
  sink : ∃ last, nodes.getLast? = some last ∧ ∀ next, ¬ g.Leads last next

/-- Without a cycle, each node of a walk is different from all that come later. -/
theorem Acyclic.nodup_of_isChain (acyclic : g.Acyclic) (chain : nodes.IsChain g.Leads) :
    nodes.Nodup := by
  have walks : nodes.IsChain (Relation.TransGen g.Leads) :=
    chain.imp fun _ _ => Relation.TransGen.single
  apply walks.pairwise.imp
  rintro name later leads rfl
  exact acyclic name leads

/-- Without a cycle, a trail that cannot go on has come to a sink. -/
theorem Acyclic.pathToSink_of_trailFrom (acyclic : g.Acyclic) (trail : g.TrailFrom start nodes) :
    g.PathToSink start nodes := by
  have distinct := acyclic.nodup_of_isChain trail.chain
  obtain ⟨front, last, rfl⟩ := exists_concat_of_head? trail.head
  refine ⟨trail.toWalksFrom, distinct, last, by simp, ?_⟩
  intro next leads
  -- an edge that leaves the last node has been used, so the node was visited before
  have used := trail.stuck last (by simp) next leads
  have before : last ∈ front := by
    have source := List.mem_map_of_mem (f := Prod.fst) used
    rwa [map_fst_consecutive, List.dropLast_concat] at source
  exact (List.nodup_append.1 distinct).2.2 last before last (by simp) rfl

/-- A path to a sink is a trail that cannot go on, also where there are cycles. -/
theorem PathToSink.trailFrom (path : g.PathToSink start nodes) : g.TrailFrom start nodes := by
  obtain ⟨last, isLast, sink⟩ := path.sink
  refine ⟨path.toWalksFrom, ?_, ?_⟩
  · obtain ⟨front, rfl⟩ := List.getLast?_eq_some_iff.1 isLast
    exact nodup_consecutive_concat (List.nodup_append.1 path.distinct).1 last
  · intro node atEnd next leads
    obtain rfl : last = node := Option.some.inj (isLast.symm.trans atEnd)
    exact absurd leads (sink next)

/-- Without a cycle the trails are the paths to sinks. -/
theorem Acyclic.mem_trails_iff (acyclic : g.Acyclic) (wf : g.WellFormed) :
    nodes ∈ trailsOver g.edges start ↔ g.PathToSink start nodes := by
  rw [wf.mem_trails_iff]
  exact ⟨acyclic.pathToSink_of_trailFrom, PathToSink.trailFrom⟩

/-! ## Nothing to repeat -/

theorem Acyclic.cyclesOf_eq_nil (acyclic : g.Acyclic) (wf : g.WellFormed) (name : Name) :
    g.cyclesOf name = [] := by
  by_contra some
  exact acyclic name (wf.cyclesOf_ne_nil_iff.1 some)

/-- Without a cycle the sequences are the trails, whatever the number of repetitions. -/
theorem Acyclic.sequences_eq (acyclic : g.Acyclic) (wf : g.WellFormed) (start : Name)
    (repetitions : Nat) : g.sequences start repetitions = trailsOver g.edges start := by
  by_cases never : repetitions = 0
  · subst never
    exact sequences_zero g start
  · have alone : ∀ name, g.loopsAt repetitions name = [[name]] := by
      intro name
      apply if_pos
      exact Or.inr (acyclic.cyclesOf_eq_nil wf name)
    rw [wf.sequences_eq never, funext (substitutions_self alone)]
    exact List.flatMap_singleton' _

/-! ## Ranks -/

/-- Where a rank rises along every edge, no walk leads back. -/
theorem acyclic_of_rank (rank : Name → Nat)
    (rising : ∀ name next, g.Leads name next → rank name < rank next) : g.Acyclic := by
  have rises : ∀ first last, Relation.TransGen g.Leads first last → rank first < rank last := by
    intro first last walk
    induction walk with
    | single leads => exact rising _ _ leads
    | tail _ leads ih =>
        have := rising _ _ leads
        omega
  intro name cycle
  have := rises name name cycle
  omega

end Graph

/-! ## Scenarios of a built graph -/

/-- **Without cycles, trails are paths and loops change nothing.**  From a declared node
of a built graph without a cycle, the trails are the paths that visit no node twice and
end in a sink, each of them once.  No node has a cycle, and the scenarios are the same,
with their places and names, whatever the number of repetitions. -/
theorem scenariosFrom_acyclic {d : Declaration κ} {g : Graph κ} (built : d.build = .ok g)
    (acyclic : g.Acyclic) {start : Name} (declared : start ∈ d.names) :
    (∃ trails, g.trails start = .ok trails ∧ trails.Nodup ∧
      ∀ nodes, nodes ∈ trails ↔ g.PathToSink start nodes) ∧
    g.cycles = g.names.map (fun name => (name, [])) ∧
    ∃ scenarios, g.scenariosFrom start 0 = .ok scenarios ∧
      ∀ repetitions, g.scenariosFrom start repetitions = .ok scenarios := by
  have wf := wellFormed_of_build built
  have mem := (Declaration.names_perm_of_build built).mem_iff.2 declared
  have same : ∀ repetitions, g.scenariosFrom start repetitions =
      .ok (nameScenarios (trailsOver g.edges start)) := by
    intro repetitions
    rw [Graph.scenariosFrom_eq_ok mem, acyclic.sequences_eq wf]
  refine ⟨⟨_, Graph.trails_eq_ok mem, ?_, ?_⟩, ?_, _, same 0, same⟩
  · exact (wf.pairwise_forksBelow_trails start).imp ForksBelow.ne
  · intro nodes
    exact acyclic.mem_trails_iff wf
  · simp only [g.cycles_eq, acyclic.cyclesOf_eq_nil wf]

/-! ## A request that is granted or refused -/

namespace Request

/-- A request is asked, granted or refused, and archived in either case. -/
def declaration : Declaration Unit :=
  { start := none
    hooks := ⟨none, none⟩
    nodes :=
      [ { name := "Archive", predecessors := ["Grant", "Refuse"], inputs := [], checks := [] },
        { name := "Ask", predecessors := [], inputs := [], checks := [] },
        { name := "Grant", predecessors := ["Ask"], inputs := [], checks := [] },
        { name := "Refuse", predecessors := ["Ask"], inputs := [], checks := [] } ] }

def graph : Graph Unit :=
  { nodes := declaration.declared
    start := "Ask"
    hooks := declaration.hooks }

theorem build_declaration : declaration.build = .ok graph := by
  have sound : declaration.defect? = none := by decide +kernel
  have started : declaration.findStart = .ok "Ask" := by rfl
  have settled : declaration.declared.map Node.settle = declaration.declared := by
    simp [declaration, Declaration.declared, NodeDeclaration.toNode, Node.settle,
      Node.relabelSole]
  have sorted : declaration.declared.Pairwise fun a b => decide (a.name ≤ b.name) = true := by
    decide +kernel
  exact Declaration.build_of_settled sound started settled sorted

/-- The states in the order in which a request comes to them. -/
def order : List Name := ["Ask", "Grant", "Refuse", "Archive"]

theorem acyclic_graph : graph.Acyclic := by
  have later : ∀ node ∈ graph.nodes, ∀ name ∈ node.predecessors.toList,
      order.idxOf name < order.idxOf node.name := by
    decide +kernel
  apply Graph.acyclic_of_rank order.idxOf
  rintro name next ⟨node, member, rfl, entered⟩
  exact later node member name entered

theorem pathToSink_granted : graph.PathToSink "Ask" ["Ask", "Grant", "Archive"] := by
  have granted : graph.Leads "Ask" "Grant" := by decide
  have archived : graph.Leads "Grant" "Archive" := by decide
  have chain : ["Ask", "Grant", "Archive"].IsChain graph.Leads :=
    List.isChain_cons_cons.2 ⟨granted, List.isChain_pair.2 archived⟩
  refine ⟨⟨rfl, chain⟩, by decide, "Archive", rfl, ?_⟩
  exact Graph.not_leads_of_forall_nodes (by decide)

end Request

/-- A request can be granted on one trail, and loops do not change its scenarios. -/
theorem request_scenarios_acyclic :
    Request.declaration.build = .ok Request.graph ∧ Request.graph.Acyclic ∧
      "Ask" ∈ Request.declaration.names ∧
      (∃ trails, Request.graph.trails "Ask" = .ok trails ∧ trails.Nodup ∧
        ["Ask", "Grant", "Archive"] ∈ trails) ∧
      Request.graph.cycles = Request.graph.names.map (fun name => (name, [])) ∧
      ∃ scenarios, Request.graph.scenariosFrom "Ask" 0 = .ok scenarios ∧
        ∀ repetitions, Request.graph.scenariosFrom "Ask" repetitions = .ok scenarios := by
  have declared : "Ask" ∈ Request.declaration.names := by decide
  obtain ⟨⟨trails, searched, distinct, exactly⟩, none, same⟩ :=
    scenariosFrom_acyclic Request.build_declaration Request.acyclic_graph declared
  have granted := (exactly _).2 Request.pathToSink_granted
  exact ⟨Request.build_declaration, Request.acyclic_graph, declared,
    ⟨trails, searched, distinct, granted⟩, none, same⟩

end ScenarioGraph
