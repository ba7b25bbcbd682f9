/-
# ScenarioGraph.Proofs.Walk.Rotation -- one cycle, begun at any of its nodes

The search for cycles runs from each node on its own.  The searches still agree: what
one finds, every other one finds whose node is on the way, begun there.  A cycle
without its beginning is a ring of nodes, and rings are what the searches share.

* `SimpleCycle`: a ring of different nodes that edges lead around.
* `WellFormed.mem_cyclesOf_iff_simpleCycle`: the cycles of a node are the simple cycles
  through it, begun at the node.
* `WellFormed.rotateTo_mem_cyclesOf`, `WellFormed.rotateTo_rotateTo`: a cycle begun
  elsewhere is a cycle, and can be begun anew where it was.
* `WellFormed.bijOn_rotateTo`: cycles of one node through another, and back.
* `WellFormed.length_cyclesOf`: a node has one cycle for each ring through it.
-/
import ScenarioGraph.Proofs.Walk.Cycle
import Mathlib.Data.List.Cycle
import Mathlib.Data.Set.Function

namespace ScenarioGraph

set_option autoImplicit false

variable {κ : Type} {name other : Name} {cycle round : NodeSequence}

/-! ## Beginning elsewhere -/

/-- The nodes that a cycle visits, in a ring; the node it returns to counts once. -/
def ringOf (cycle : NodeSequence) : Cycle Name := (cycle.dropLast : List Name)

/-- The cycle begun, and ended, at `name` instead. -/
def rotateTo (name : Name) (cycle : NodeSequence) : NodeSequence :=
  cycle.dropLast.rotate (cycle.dropLast.idxOf name) ++ [name]

theorem dropLast_rotateTo (name : Name) (cycle : NodeSequence) :
    (rotateTo name cycle).dropLast = cycle.dropLast.rotate (cycle.dropLast.idxOf name) :=
  List.dropLast_concat

/-- Beginning elsewhere does not change the ring. -/
theorem ringOf_rotateTo (name : Name) (cycle : NodeSequence) :
    ringOf (rotateTo name cycle) = ringOf cycle := by
  unfold ringOf
  rw [dropLast_rotateTo]
  apply Cycle.coe_eq_coe.2
  exact List.IsRotated.forall _ _

example : rotateTo "Unlocked" ["Locked", "Unlocked", "Locked"] =
    ["Unlocked", "Locked", "Unlocked"] := by decide

theorem ringOf_cons_concat (name : Name) (inner : NodeSequence) :
    ringOf (name :: (inner ++ [name])) = ((name :: inner : List Name) : Cycle Name) := by
  unfold ringOf
  rw [← List.cons_append, List.dropLast_concat]

theorem exists_rotate_eq_cons (member : name ∈ round) :
    ∃ back, round.rotate (round.idxOf name) = name :: back := by
  apply List.head?_eq_some_iff.1
  rw [List.head?_rotate (List.idxOf_lt_length_iff.2 member), List.getElem?_idxOf member]

/-- A ring of different nodes can be begun at a node in one way only. -/
theorem eq_of_isRotated {first second : NodeSequence} (distinct : first.Nodup)
    (rotated : first ~r second) (heads : first.head? = second.head?) : first = second := by
  by_cases none : first = []
  · subst none
    exact List.isRotated_nil_iff'.1 rotated
  obtain ⟨count, rfl⟩ := rotated
  have bound : count % first.length < first.length :=
    Nat.mod_lt _ (List.length_pos_of_ne_nil none)
  rw [← List.rotate_mod, List.head?_rotate bound, List.head?_eq_getElem?] at heads
  have unmoved : 0 = count % first.length :=
    (List.getElem?_inj (List.length_pos_of_ne_nil none) distinct).1 heads
  rw [← List.rotate_mod, ← unmoved, List.rotate_zero]

/-! ## Rings of a graph -/

namespace Graph

variable {g : Graph κ} {ring : Cycle Name}

/-- Nodes in a ring, none of them twice, and an edge from each to the next. -/
structure SimpleCycle (g : Graph κ) (ring : Cycle Name) : Prop where
  some : ring ≠ Cycle.nil
  distinct : ring.Nodup
  chain : ring.Chain g.Leads

theorem SimpleCycle.exists_mem (simple : g.SimpleCycle ring) : ∃ name, name ∈ ring := by
  cases ring using Cycle.induction_on with
  | nil => exact absurd rfl simple.some
  | cons name round _ => exact ⟨name, List.mem_cons_self⟩

/-- The cycles of a node are the simple cycles through it, begun at the node. -/
theorem WellFormed.mem_cyclesOf_iff_simpleCycle (wf : g.WellFormed) :
    cycle ∈ g.cyclesOf name ↔
      ∃ inner : NodeSequence, cycle = name :: (inner ++ [name]) ∧
        g.SimpleCycle (name :: inner : List Name) := by
  rw [wf.mem_cyclesOf_iff]
  constructor
  · rintro ⟨inner, rfl, distinct, chain⟩
    have around := (Cycle.chain_coe_cons g.Leads name inner).2 chain
    exact ⟨inner, rfl, by simp, Cycle.nodup_coe_iff.2 distinct, around⟩
  · rintro ⟨inner, rfl, simple⟩
    have chain := (Cycle.chain_coe_cons g.Leads name inner).1 simple.chain
    exact ⟨inner, rfl, Cycle.nodup_coe_iff.1 simple.distinct, chain⟩

theorem WellFormed.simpleCycle_ringOf (wf : g.WellFormed) (found : cycle ∈ g.cyclesOf name) :
    g.SimpleCycle (ringOf cycle) := by
  obtain ⟨inner, rfl, simple⟩ := wf.mem_cyclesOf_iff_simpleCycle.1 found
  rw [ringOf_cons_concat]
  exact simple

theorem WellFormed.mem_ringOf_iff (wf : g.WellFormed) (found : cycle ∈ g.cyclesOf name) :
    other ∈ ringOf cycle ↔ other ∈ cycle := by
  obtain ⟨inner, rfl, -⟩ := wf.mem_cyclesOf_iff_simpleCycle.1 found
  rw [ringOf_cons_concat, Cycle.mem_coe_iff]
  simp only [List.mem_cons, List.mem_append, List.not_mem_nil, or_false]
  tauto

theorem WellFormed.self_mem_ringOf (wf : g.WellFormed) (found : cycle ∈ g.cyclesOf name) :
    name ∈ ringOf cycle := by
  apply (wf.mem_ringOf_iff found).2
  exact List.mem_of_mem_head? (closedWalk_of_mem_cyclesOf found).head

/-- A simple cycle, begun at one of its nodes, is a cycle of that node. -/
theorem WellFormed.mem_cyclesOf_of_simpleCycle (wf : g.WellFormed)
    (simple : g.SimpleCycle (round : List Name)) (member : name ∈ round) :
    round.rotate (round.idxOf name) ++ [name] ∈ g.cyclesOf name := by
  obtain ⟨back, rotated⟩ := exists_rotate_eq_cons member
  have same : ((name :: back : List Name) : Cycle Name) = (round : List Name) := by
    rw [← rotated]
    exact Cycle.coe_eq_coe.2 (List.IsRotated.forall round _)
  apply wf.mem_cyclesOf_iff_simpleCycle.2
  exact ⟨back, by rw [rotated, List.cons_append], same ▸ simple⟩

/-- What one search finds, the search from any other node on the way finds as well. -/
theorem WellFormed.rotateTo_mem_cyclesOf (wf : g.WellFormed) (found : cycle ∈ g.cyclesOf name)
    (visited : other ∈ cycle) : rotateTo other cycle ∈ g.cyclesOf other := by
  have member : other ∈ cycle.dropLast := (wf.mem_ringOf_iff found).2 visited
  exact wf.mem_cyclesOf_of_simpleCycle (wf.simpleCycle_ringOf found) member

/-- A node has at most one cycle for each ring. -/
theorem WellFormed.eq_of_ringOf_eq (wf : g.WellFormed) {again : NodeSequence}
    (found : cycle ∈ g.cyclesOf name) (foundAgain : again ∈ g.cyclesOf name)
    (same : ringOf cycle = ringOf again) : cycle = again := by
  obtain ⟨inner, rfl, simple⟩ := wf.mem_cyclesOf_iff_simpleCycle.1 found
  obtain ⟨back, rfl, -⟩ := wf.mem_cyclesOf_iff_simpleCycle.1 foundAgain
  rw [ringOf_cons_concat, ringOf_cons_concat] at same
  have rounds : name :: inner = name :: back :=
    eq_of_isRotated (Cycle.nodup_coe_iff.1 simple.distinct) (Cycle.coe_eq_coe.1 same) rfl
  rw [(List.cons.inj rounds).2]

theorem WellFormed.rotateTo_rotateTo (wf : g.WellFormed) (found : cycle ∈ g.cyclesOf name)
    (visited : other ∈ cycle) : rotateTo name (rotateTo other cycle) = cycle := by
  have there := wf.rotateTo_mem_cyclesOf found visited
  have onWay : name ∈ rotateTo other cycle := by
    apply (wf.mem_ringOf_iff there).1
    rw [ringOf_rotateTo]
    exact wf.self_mem_ringOf found
  apply wf.eq_of_ringOf_eq (wf.rotateTo_mem_cyclesOf there onWay) found
  rw [ringOf_rotateTo, ringOf_rotateTo]

/-- The cycles of one node through another, and those of the other through the one. -/
theorem WellFormed.bijOn_rotateTo (wf : g.WellFormed) (name other : Name) :
    Set.BijOn (rotateTo other) {cycle | cycle ∈ g.cyclesOf name ∧ other ∈ cycle}
      {cycle | cycle ∈ g.cyclesOf other ∧ name ∈ cycle} := by
  have maps : ∀ name other, Set.MapsTo (rotateTo other)
      {cycle | cycle ∈ g.cyclesOf name ∧ other ∈ cycle}
      {cycle | cycle ∈ g.cyclesOf other ∧ name ∈ cycle} := by
    rintro name other cycle ⟨found, visited⟩
    have there := wf.rotateTo_mem_cyclesOf found visited
    refine ⟨there, (wf.mem_ringOf_iff there).1 ?_⟩
    rw [ringOf_rotateTo]
    exact wf.self_mem_ringOf found
  have back : ∀ name other, Set.LeftInvOn (rotateTo name) (rotateTo other)
      {cycle | cycle ∈ g.cyclesOf name ∧ other ∈ cycle} := by
    rintro name other cycle ⟨found, visited⟩
    exact wf.rotateTo_rotateTo found visited
  exact Set.InvOn.bijOn ⟨back name other, back other name⟩ (maps name other) (maps other name)

/-! ## Rings through a node -/

/-- Every ring that some search finds. -/
def rings (g : Graph κ) : Finset (Cycle Name) :=
  (g.names.flatMap fun name => (g.cyclesOf name).map ringOf).toFinset

theorem mem_rings : ring ∈ g.rings ↔
    ∃ name ∈ g.names, ∃ cycle ∈ g.cyclesOf name, ringOf cycle = ring := by
  simp only [rings, List.mem_toFinset, List.mem_flatMap, List.mem_map]

/-- Each ring through a node is that of one of its cycles. -/
theorem WellFormed.exists_mem_cyclesOf (wf : g.WellFormed) (simple : g.SimpleCycle ring)
    (member : name ∈ ring) : ∃ cycle ∈ g.cyclesOf name, ringOf cycle = ring := by
  induction ring using Quotient.inductionOn' with
  | h round =>
      refine ⟨_, wf.mem_cyclesOf_of_simpleCycle simple member, ?_⟩
      unfold ringOf
      rw [List.dropLast_concat]
      exact Cycle.coe_eq_coe.2 (List.IsRotated.forall round _)

/-- The rings found are the simple cycles of the graph. -/
theorem WellFormed.mem_rings_iff (wf : g.WellFormed) : ring ∈ g.rings ↔ g.SimpleCycle ring := by
  rw [mem_rings]
  constructor
  · rintro ⟨name, -, cycle, found, rfl⟩
    exact wf.simpleCycle_ringOf found
  · intro simple
    obtain ⟨name, member⟩ := simple.exists_mem
    obtain ⟨cycle, found, same⟩ := wf.exists_mem_cyclesOf simple member
    exact ⟨name, mem_names_of_mem_cyclesOf found, cycle, found, same⟩

/-- A node has one cycle for each ring through it. -/
theorem WellFormed.length_cyclesOf (wf : g.WellFormed) (name : Name) :
    (g.cyclesOf name).length = (g.rings.filter (name ∈ ·)).card := by
  have distinct : (g.cyclesOf name).Nodup :=
    (g.pairwise_forksBelow_cyclesOf name).imp ForksBelow.ne
  have distinctRings : ((g.cyclesOf name).map ringOf).Nodup :=
    distinct.map_on fun _ found _ foundAgain => wf.eq_of_ringOf_eq found foundAgain
  rw [← List.length_map (f := ringOf), ← List.toFinset_card_of_nodup distinctRings]
  congr 1
  ext ring
  rw [List.mem_toFinset, List.mem_map, Finset.mem_filter, wf.mem_rings_iff]
  constructor
  · rintro ⟨cycle, found, rfl⟩
    exact ⟨wf.simpleCycle_ringOf found, wf.self_mem_ringOf found⟩
  · rintro ⟨simple, member⟩
    exact wf.exists_mem_cyclesOf simple member

end Graph

end ScenarioGraph
