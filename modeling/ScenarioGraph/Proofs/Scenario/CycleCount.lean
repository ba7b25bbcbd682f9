/-
# ScenarioGraph.Proofs.Scenario.CycleCount -- what the number of cycles counts

A summary adds up the cycles of all nodes, so it counts a simple cycle once for each
node that it may begin at.  Counting pairs of a node and a ring through it in two ways
gives the sum of the lengths of the rings.

* `total_length_filter`: nodes on no cycle add nothing.
* `SimpleCycle.card_names`: the nodes on a ring are as many as the ring is long.
* `WellFormed.sum_length_cyclesOf`: the count over nodes is a count over rings.
* `cycles_agree`: cycles of different nodes and their number, for every graph that is
  built.
-/
import ScenarioGraph.Proofs.Scenario.Sequence
import ScenarioGraph.Proofs.Walk.Rotation
import Mathlib.Combinatorics.Enumerative.DoubleCounting

namespace ScenarioGraph

set_option autoImplicit false

variable {κ : Type} {g : Graph κ}

/-- Entries that are left out because nothing is in them would add nothing. -/
theorem total_length_filter (table : List (Name × List NodeSequence)) :
    total ((table.filter fun entry => !entry.2.isEmpty).map fun entry => entry.2.length) =
      (table.map fun entry => entry.2.length).sum := by
  induction table with
  | nil => rfl
  | cons entry table ih =>
      rw [List.map_cons, List.sum_cons, ← ih, List.filter_cons]
      by_cases none : entry.2 = []
      · simp [none]
      · have kept : (!entry.2.isEmpty) = true := by simpa using none
        rw [if_pos kept]
        rfl

namespace Graph

/-! ## Nodes and rings, counted in two ways -/

theorem SimpleCycle.mem_names {ring : Cycle Name} (simple : g.SimpleCycle ring)
    (wf : g.WellFormed) {name : Name} (member : name ∈ ring) : name ∈ g.names := by
  obtain ⟨cycle, found, -⟩ := wf.exists_mem_cyclesOf simple member
  exact mem_names_of_mem_cyclesOf found

/-- As many nodes are on a ring as the ring is long. -/
theorem SimpleCycle.card_names {ring : Cycle Name} (simple : g.SimpleCycle ring)
    (wf : g.WellFormed) : (g.names.toFinset.filter (· ∈ ring)).card = ring.length := by
  induction ring using Quotient.inductionOn' with
  | h round =>
      have distinct : round.Nodup := Cycle.nodup_coe_iff.1 simple.distinct
      have same : g.names.toFinset.filter (· ∈ (round : Cycle Name)) = round.toFinset := by
        ext name
        rw [Finset.mem_filter, List.mem_toFinset, List.mem_toFinset]
        constructor
        · rintro ⟨-, member⟩
          exact member
        · intro member
          exact ⟨simple.mem_names wf member, member⟩
      show (g.names.toFinset.filter (· ∈ (round : Cycle Name))).card = round.length
      rw [same, List.toFinset_card_of_nodup distinct]

/-- The cycles of all nodes are as many as the nodes on all rings. -/
theorem WellFormed.sum_length_cyclesOf (wf : g.WellFormed) :
    (g.names.map fun name => (g.cyclesOf name).length).sum = ∑ ring ∈ g.rings, ring.length := by
  have distinct : g.names.Nodup := wf.increasing.imp String.ne_of_lt
  calc (g.names.map fun name => (g.cyclesOf name).length).sum
      = ∑ name ∈ g.names.toFinset, (g.cyclesOf name).length :=
        (List.sum_toFinset _ distinct).symm
    _ = ∑ name ∈ g.names.toFinset, (g.rings.filter (name ∈ ·)).card :=
        Finset.sum_congr rfl fun name _ => wf.length_cyclesOf name
    _ = ∑ ring ∈ g.rings, (g.names.toFinset.filter (· ∈ ring)).card :=
        Finset.sum_card_bipartiteAbove_eq_sum_card_bipartiteBelow fun name ring => name ∈ ring
    _ = ∑ ring ∈ g.rings, ring.length :=
        Finset.sum_congr rfl fun _ found => (wf.mem_rings_iff.1 found).card_names wf

end Graph

/-! ## Cycles of a built graph -/

/-- **The cycles of different nodes are the same cycles.**  In a built graph, a cycle of
one node that passes through another is a cycle of the other when it is begun there, and
this is a bijection between the cycles of either node that pass through the other.  The
number of cycles in a summary is, for any number of repetitions, the number of nodes on
all simple cycles, each counted once wherever it is begun. -/
theorem cycles_agree {d : Declaration κ} (built : d.build = .ok g) :
    (∀ name other, ∀ cycle ∈ g.cyclesOf name, other ∈ cycle →
      rotateTo other cycle ∈ g.cyclesOf other ∧
      (rotateTo other cycle).head? = some other ∧ (rotateTo other cycle).getLast? = some other ∧
      (rotateTo other cycle).dropLast ~r cycle.dropLast) ∧
    (∀ name other, Set.BijOn (rotateTo other)
      {cycle | cycle ∈ g.cyclesOf name ∧ other ∈ cycle}
      {cycle | cycle ∈ g.cyclesOf other ∧ name ∈ cycle}) ∧
    ∃ rings : Finset (Cycle Name), (∀ ring, ring ∈ rings ↔ g.SimpleCycle ring) ∧
      ∀ repetitions, ∃ overview, g.overview repetitions = .ok overview ∧
        overview.summary.cycleCount = ∑ ring ∈ rings, ring.length := by
  have wf := wellFormed_of_build built
  refine ⟨?_, wf.bijOn_rotateTo, g.rings, fun _ => wf.mem_rings_iff, ?_⟩
  · intro name other cycle found visited
    have there := wf.rotateTo_mem_cyclesOf found visited
    have walk := Graph.closedWalk_of_mem_cyclesOf there
    exact ⟨there, walk.head, walk.last, Cycle.coe_eq_coe.1 (ringOf_rotateTo other cycle)⟩
  · intro repetitions
    refine ⟨_, Graph.overview_eq_ok wf.start_mem repetitions, ?_⟩
    show total ((g.cycles.filter fun entry => !entry.2.isEmpty).map fun entry => entry.2.length) = _
    rw [total_length_filter, g.cycles_eq, List.map_map, ← wf.sum_length_cyclesOf]
    rfl

/-- The cycle of the turnstile that begins when it is locked, begun when it is unlocked. -/
theorem turnstile_cycles_agree :
    Turnstile.declaration.build = .ok Turnstile.graph ∧
      ["Locked", "Unlocked", "Locked"] ∈ Turnstile.graph.cyclesOf "Locked" ∧
      ["Unlocked", "Locked", "Unlocked"] ∈ Turnstile.graph.cyclesOf "Unlocked" ∧
      Set.BijOn (rotateTo "Unlocked")
        {cycle | cycle ∈ Turnstile.graph.cyclesOf "Locked" ∧ "Unlocked" ∈ cycle}
        {cycle | cycle ∈ Turnstile.graph.cyclesOf "Unlocked" ∧ "Locked" ∈ cycle} ∧
      ∃ rings : Finset (Cycle Name), (∀ ring, ring ∈ rings ↔ Turnstile.graph.SimpleCycle ring) ∧
        ∀ repetitions, ∃ overview, Turnstile.graph.overview repetitions = .ok overview ∧
          overview.summary.cycleCount = ∑ ring ∈ rings, ring.length := by
  obtain ⟨rotated, bijective, counted⟩ := cycles_agree Turnstile.build_declaration
  have there := rotated "Locked" "Unlocked" _ Turnstile.mem_cyclesOf_locked (by decide)
  exact ⟨Turnstile.build_declaration, Turnstile.mem_cyclesOf_locked, there.1,
    bijective "Locked" "Unlocked", counted⟩

end ScenarioGraph
