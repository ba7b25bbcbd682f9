/-
# ScenarioGraph.Document.Schema -- the rules on graph documents

`Document.violations` lists everything that keeps a JSON value from being a graph
document.  All objects are closed: a field that has no rule is a violation.  A
guard or a condition is reported as a whole, without the reasons inside it.
-/
import ScenarioGraph.Schema

namespace ScenarioGraph.Document

set_option autoImplicit false

open Schema

/-- A text that is not empty. -/
def nameViolations (json : Json) : List Violation := ofKind .text json ++ minLength 1 json

def namesViolations (json : Json) : List Violation :=
  ofKind .array json ++ eachItem nameViolations json

/-- An object whose `op` says which operands it has. -/
def conditionViolations (json : Json) : List Violation :=
  ofKind .object json ++ required ["op"] json ++ oneOf json
    [record json ["names"]
      [("op", fun part => equalTo (.str "sequence") part.1),
        ("names", fun part => namesViolations part.1)],
    record json ["older", "newer"]
      [("op", fun part => equalTo (.str "more_recent") part.1),
        ("older", fun part => nameViolations part.1),
        ("newer", fun part => nameViolations part.1)],
    record json ["names"]
      [("op", fun part => equalTo (.str "last_in") part.1),
        ("names", fun part => namesViolations part.1)],
    record json ["left", "right"]
      [("op", fun part => among [.str "and", .str "or"] part.1),
        ("left", fun part => conditionViolations part.1),
        ("right", fun part => conditionViolations part.1)],
    record json ["inner"]
      [("op", fun part => equalTo (.str "not") part.1),
        ("inner", fun part => conditionViolations part.1)]]
termination_by sizeOf json
decreasing_by all_goals exact part.2

/-- Either the nodes that may come right before or a condition. -/
def guardViolations (json : Json) : List Violation :=
  oneOf json
    [ofKind .object json ++ record json ["after"]
      [("after", fun part => namesViolations part.1 ++ minItems 1 part.1)],
    ofKind .object json ++ record json ["when"]
      [("when", fun part => conditionViolations part.1)]]

def inputViolations (json : Json) : List Violation :=
  ofKind .object json ++ record json []
    [("label", fun part => nameViolations part.1),
      ("guard", fun part => guardViolations part.1)]

def checkViolations (json : Json) : List Violation :=
  ofKind .object json ++ record json ["name"]
    [("name", fun part => nameViolations part.1),
      ("guard", fun part => guardViolations part.1)]

def nodeViolations (json : Json) : List Violation :=
  ofKind .object json ++ record json ["name"]
    [("name", fun part => nameViolations part.1),
      ("predecessors", fun part => namesViolations part.1 ++ distinctItems part.1),
      ("inputs", fun part => ofKind .array part.1 ++ eachItem inputViolations part.1),
      ("checks", fun part => ofKind .array part.1 ++ eachItem checkViolations part.1)]

/-- Everything that keeps a value from being a graph document. -/
def violations (json : Json) : List Violation :=
  ofKind .object json ++ record json ["id", "trellis", "nodes"]
    [("id", fun part => nameViolations part.1),
      ("trellis", fun part => equalTo (.str "1.0") part.1),
      ("start", fun part => nameViolations part.1),
      ("nodes", fun part =>
        ofKind .array part.1 ++ minItems 1 part.1 ++ eachItem nodeViolations part.1)]

end ScenarioGraph.Document
