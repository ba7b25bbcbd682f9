/-
# ScenarioGraph.Document.Basic -- graph documents

A document describes the structure of a graph without its actions.  It keeps
what its author wrote: lists of names in their order, labels and guards only
where they are given.
-/
import ScenarioGraph.Condition

namespace ScenarioGraph

set_option autoImplicit false

namespace Document

/-- A guard as written: a list of nodes that may come last, or a condition. -/
inductive GuardEntry where
  | after (names : List Name)
  | when (condition : Condition)
deriving DecidableEq

structure InputEntry where
  label : Option String
  guard : Option GuardEntry
deriving DecidableEq

structure CheckEntry where
  name : Name
  guard : Option GuardEntry
deriving DecidableEq

structure NodeEntry where
  name : Name
  predecessors : List Name
  inputs : List InputEntry
  checks : List CheckEntry
deriving DecidableEq

/-- The format version that documents are read in. -/
def supportedVersion : String := "1.0"

end Document

structure Document where
  id : String
  /-- The version of the document format. -/
  version : String
  /-- The designated start node. -/
  start : Option Name
  nodes : List Document.NodeEntry
deriving DecidableEq

end ScenarioGraph
