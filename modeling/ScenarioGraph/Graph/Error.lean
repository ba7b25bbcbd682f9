/-
# ScenarioGraph.Graph.Error -- defects of a graph

What can be wrong with a declared graph, with a requested node, or with the
inputs that apply at one position of a scenario.  No defect is ever resolved by
picking a default; `GraphError.message` words it.
-/
import ScenarioGraph.Condition

namespace ScenarioGraph

set_option autoImplicit false

inductive GraphError where
  /-- No node is without predecessors, and none is designated. -/
  | noStart
  /-- Several nodes could only be entered as start nodes. -/
  | severalStarts (nodes : List Name)
  | unknownStart (name : Name)
  | repeatedNode (name : Name)
  | unknownPredecessor (node predecessor : Name)
  /-- A guard on the last node names one that never comes right before. -/
  | guardNotPredecessor (node name : Name)
  | unknownConditionName (node name : Name)
  | repeatedCheck (node check : Name)
  | repeatedLabel (node : Name) (label : String)
  | unknownNode (name : Name)
  /-- More than one input accepts the same history. -/
  | ambiguousInput (scenario : String) (position : Nat) (node : Name)
      (candidates : List String) (history : History)
deriving DecidableEq

/-- Names side by side. -/
def commaList (names : List String) : String := ", ".intercalate names

def GraphError.message : GraphError → String
  | noStart =>
      "graph has no start node: exactly one node must have no predecessors or be designated as start"
  | severalStarts nodes => "only one start node is allowed, found: " ++ commaList nodes
  | unknownStart name => s!"start node '{name}' is not declared"
  | repeatedNode name => s!"node '{name}' is declared more than once"
  | unknownPredecessor node predecessor => s!"node '{node}' has unknown predecessor '{predecessor}'"
  | guardNotPredecessor node name =>
      s!"guard on '{node}' references '{name}', which is not one of its predecessors"
  | unknownConditionName node name => s!"condition on '{node}' references unknown node '{name}'"
  | repeatedCheck node check => s!"check '{check}' is declared more than once on node '{node}'"
  | repeatedLabel node label => s!"input '{label}' is declared more than once on node '{node}'"
  | unknownNode name => s!"unknown node '{name}'"
  | ambiguousInput scenario position node candidates history =>
      s!"ambiguous input for node '{node}' at position {position} of scenario '{scenario}': " ++
        s!"variants {commaList candidates} all accept history [{commaList history.toList}]"

end ScenarioGraph
