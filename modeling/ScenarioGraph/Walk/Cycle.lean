/-
# ScenarioGraph.Walk.Cycle -- simple cycles through a node

A simple cycle of a node begins and ends there and visits no other node twice.
`closings` walks from a node through the nodes still free and closes the cycle
whenever an edge leads back to the origin; each step takes one node from the
free ones, so the search ends.
-/
import Std.Data.TreeSet
import ScenarioGraph.Walk.Trail

namespace ScenarioGraph

set_option autoImplicit false

/-- Taking out a member leaves fewer. -/
theorem size_erase_lt_of_mem {names : Std.TreeSet Name} {name : Name} (member : name ∈ names) :
    (names.erase name).size < names.size := by
  have positive : names.size ≠ 0 := by
    intro none
    have : names.isEmpty = true := by rw [Std.TreeSet.isEmpty_eq_size_eq_zero, none]; rfl
    exact Std.TreeSet.not_mem_of_isEmpty this member
  rw [Std.TreeSet.size_erase, if_pos (Std.TreeSet.contains_iff_mem.2 member)]
  omega

/-- The ways from `name` back to `origin`, through free nodes visited once. -/
def closings (successors : Name → List Name) (origin : Name) (free : Std.TreeSet Name)
    (name : Name) : List NodeSequence :=
  (successors name).flatMap fun next =>
    if next = origin then [[name, origin]]
    else if member : next ∈ free then
      have : (free.erase next).size < free.size := size_erase_lt_of_mem member
      (closings successors origin (free.erase next) next).map (name :: ·)
    else []
termination_by free.size

namespace Graph

variable {κ : Type}

/-- The simple cycles through each node, by node name and each in name order. -/
def cycles (g : Graph κ) : List (Name × List NodeSequence) :=
  let nodes := Std.TreeSet.ofList g.names
  g.names.map fun name => (name, closings g.successors name (nodes.erase name) name)

end Graph

end ScenarioGraph
