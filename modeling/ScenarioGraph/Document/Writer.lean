/-
# ScenarioGraph.Document.Writer -- documents as JSON values

Lists are always written, absent labels, guards and start nodes are left out.
A guard is an object with its kind as the only key, a condition an object with
its operator under `op`.  Fields are in key order.
-/
import ScenarioGraph.Document.Basic
import ScenarioGraph.Json.Value

namespace ScenarioGraph

set_option autoImplicit false

def Condition.toJson : Condition → Json
  | sequence names => .obj [("names", .ofStrings names), ("op", .str "sequence")]
  | moreRecent older newer =>
      .obj [("newer", .str newer), ("older", .str older), ("op", .str "more_recent")]
  | lastIn names => .obj [("names", .ofStrings names.toList), ("op", .str "last_in")]
  | and left right => .obj [("left", left.toJson), ("op", .str "and"), ("right", right.toJson)]
  | or left right => .obj [("left", left.toJson), ("op", .str "or"), ("right", right.toJson)]
  | not inner => .obj [("inner", inner.toJson), ("op", .str "not")]

namespace Document

/-- A field that is left out when there is no value. -/
def optionalField (key : String) (value : Option Json) : List (String × Json) :=
  (value.map fun value => (key, value)).toList

def GuardEntry.toJson : GuardEntry → Json
  | after names => .obj [("after", .ofStrings names)]
  | when condition => .obj [("when", condition.toJson)]

def InputEntry.toJson (entry : InputEntry) : Json :=
  .obj (optionalField "guard" (entry.guard.map GuardEntry.toJson)
    ++ optionalField "label" (entry.label.map .str))

def CheckEntry.toJson (entry : CheckEntry) : Json :=
  .obj (optionalField "guard" (entry.guard.map GuardEntry.toJson) ++ [("name", .str entry.name)])

def NodeEntry.toJson (entry : NodeEntry) : Json :=
  .obj
    [("checks", .arr (entry.checks.map CheckEntry.toJson)),
      ("inputs", .arr (entry.inputs.map InputEntry.toJson)),
      ("name", .str entry.name),
      ("predecessors", .ofStrings entry.predecessors)]

def toJson (document : Document) : Json :=
  .obj
    ([("id", .str document.id), ("nodes", .arr (document.nodes.map NodeEntry.toJson))]
      ++ optionalField "start" (document.start.map .str)
      ++ [("trellis", .str document.version)])

end Document

/-- A guard of a graph as it would be written in a document. -/
def Guard.entry : Guard → Document.GuardEntry
  | after names => .after names.toList
  | when condition => .when condition

end ScenarioGraph
