/-
# ScenarioGraph.Walk.Trail -- maximal trails

A trail uses no edge twice; it is maximal when its last node has no unused edge
left.  `trailsOver unused name` walks from `name` along unused edges in name
order; each step takes one edge from the unused ones, so the search ends.
-/
import ScenarioGraph.Graph.Basic
import ScenarioGraph.Graph.Error

namespace ScenarioGraph

set_option autoImplicit false

/-- Nodes in the order in which they are visited. -/
abbrev NodeSequence := List Name

/-- The maximal trails from `name` over the edges not used yet. -/
def trailsOver (unused : List Edge) (name : Name) : List NodeSequence :=
  let exits := unused.filter fun edge => edge.1 = name
  if exits.isEmpty then [[name]]
  else exits.attach.flatMap fun ⟨edge, exit⟩ =>
    have : (unused.erase edge).length < unused.length := by
      have member := (List.mem_filter.1 exit).1
      have := List.length_pos_of_mem member
      rw [List.length_erase_of_mem member]
      omega
    (trailsOver (unused.erase edge) edge.2).map (name :: ·)
termination_by unused.length

/-- The maximal trails from `start`, in name order. -/
def Graph.trails {κ : Type} (g : Graph κ) (start : Name) : Except GraphError (List NodeSequence) :=
  if g.contains start then .ok (trailsOver g.edges start) else .error (.unknownNode start)

end ScenarioGraph
