/-
# ScenarioGraph.Scenario -- named scenarios of a graph

A scenario is one complete sequence of nodes, with its place in the enumeration
and a name that no other scenario of the enumeration has: the node names joined
by dashes, and a numbered suffix where that is taken.

`Graph.overview` gathers everything that is enumerated from the start node.
-/
import Std.Data.TreeSet
import ScenarioGraph.Walk.Cycle
import ScenarioGraph.Walk.Loop

namespace ScenarioGraph

set_option autoImplicit false

structure Scenario where
  /-- The place in the enumeration. -/
  index : Nat
  /-- Unique within one enumeration. -/
  name : String
  nodes : NodeSequence
deriving DecidableEq

/-! ## Names -/

/-- The name `base` with the suffix `k`. -/
def suffixed (base : String) (k : Nat) : String := base ++ "#" ++ toString k

/-- The least suffix from `k` on that makes `base` free, if one of the next `tries` does. -/
def freeSuffix (taken : Std.TreeSet String) (base : String) : (tries k : Nat) → Nat
  | 0, k => k
  | tries + 1, k =>
      if suffixed base k ∈ taken then freeSuffix taken base tries (k + 1) else k

/-- A name for the scenario at place `index` that is not taken: `base`, or else
`base` with the least suffix from `index` on.  As many suffixes are tried as names
are taken, and one of these is `base` itself, so one suffix is free. -/
def freeName (taken : Std.TreeSet String) (index : Nat) (base : String) : String :=
  if base ∈ taken then suffixed base (freeSuffix taken base taken.size index) else base

/-- Name the sequence at place `index`, given the names before it. -/
def nameNext (index : Nat) (nodes : NodeSequence) : StateM (Std.TreeSet String) Scenario :=
  fun taken =>
    let name := freeName taken index ("-".intercalate nodes)
    (⟨index, name, nodes⟩, taken.insert name)

/-- The sequences as scenarios, in order. -/
def nameScenarios (sequences : List NodeSequence) : List Scenario :=
  ((sequences.zipIdx.mapM fun (nodes, index) => nameNext index nodes).run ∅).1

/-! ## Enumeration -/

/-- Everything that is enumerated from the start node. -/
structure Overview where
  start : Name
  repetitions : Nat
  trails : List NodeSequence
  /-- By node; nodes on no cycle have no entry. -/
  cycles : List (Name × List NodeSequence)
  scenarios : List Scenario
deriving DecidableEq

/-- The counts of an overview. -/
structure Summary where
  trailCount : Nat
  cycleCount : Nat
  scenarioCount : Nat
  /-- The number of nodes of a longest scenario. -/
  longestScenario : Nat
deriving DecidableEq

/-- Counts added up. -/
def total (counts : List Nat) : Nat := counts.foldr (· + ·) 0

def Overview.summary (overview : Overview) : Summary :=
  { trailCount := overview.trails.length
    cycleCount := total (overview.cycles.map fun entry => entry.2.length)
    scenarioCount := overview.scenarios.length
    longestScenario := (overview.scenarios.map fun scenario => scenario.nodes.length).foldl max 0 }

variable {κ : Type}

namespace Graph

/-- The scenarios that begin at `start`: its trails, with loops expanded.  Cycles are
searched for only if they are repeated. -/
def scenariosFrom (g : Graph κ) (start : Name) (repetitions : Nat) :
    Except GraphError (List Scenario) := do
  let trails ← g.trails start
  if repetitions = 0 then .ok (nameScenarios trails)
  else .ok (nameScenarios (expandLoops trails g.cycles repetitions))

/-- The scenarios from the start node. -/
def scenarios (g : Graph κ) (repetitions : Nat) : Except GraphError (List Scenario) :=
  g.scenariosFrom g.start repetitions

def overview (g : Graph κ) (repetitions : Nat) : Except GraphError Overview := do
  let trails ← g.trails g.start
  let cycles := g.cycles
  .ok
    { start := g.start
      repetitions
      trails
      cycles := cycles.filter fun entry => !entry.2.isEmpty
      scenarios := nameScenarios (expandLoops trails cycles repetitions) }

end Graph

end ScenarioGraph
