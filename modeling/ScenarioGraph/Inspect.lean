/-
# ScenarioGraph.Inspect -- graphs and planned scenarios as one line of text

`Form` is the shape of such a text: records with named fields, values under a
name, lists, sets and maps.  Handles are not shown; a record that leaves them
out ends in two dots.
-/
import ScenarioGraph.Text.Quoted
import ScenarioGraph.Plan.Suite

namespace ScenarioGraph

set_option autoImplicit false

inductive Form where
  | atom (text : String)
  /-- A record, and whether all its fields are given. -/
  | record (name : String) (fields : List (String × Form)) (complete : Bool)
  | applied (name : String) (argument : Form)
  | list (items : List Form)
  | set (items : List Form)
  | map (entries : List (Form × Form))

namespace Form

def text (content : String) : Form := .atom (Text.quoted content)

def nat (n : Nat) : Form := .atom (toString n)

def bool (b : Bool) : Form := .atom (if b then "true" else "false")

def option (value : Option Form) : Form :=
  match value with
  | some form => .applied "Some" form
  | none => .atom "None"

def texts (contents : List String) : Form := .list (contents.map text)

mutual

def render : Form → String
  | .atom text => text
  | .record name fields complete =>
      let parts := renderFields fields ++ (if complete then [] else [".."])
      name ++ " \x7b " ++ ", ".intercalate parts ++ " \x7d"
  | .applied name argument => name ++ "(" ++ render argument ++ ")"
  | .list items => "[" ++ ", ".intercalate (renderItems items) ++ "]"
  | .set items => "\x7b" ++ ", ".intercalate (renderItems items) ++ "\x7d"
  | .map entries => "\x7b" ++ ", ".intercalate (renderEntries entries) ++ "\x7d"

def renderItems : List Form → List String
  | [] => []
  | item :: rest => render item :: renderItems rest

def renderFields : List (String × Form) → List String
  | [] => []
  | (name, form) :: rest => (name ++ ": " ++ render form) :: renderFields rest

def renderEntries : List (Form × Form) → List String
  | [] => []
  | (key, form) :: rest => (render key ++ ": " ++ render form) :: renderEntries rest

end

end Form

/-! ## Graphs -/

def NameSet.form (names : NameSet) : Form := .set (names.toList.map Form.text)

def Condition.form : Condition → Form
  | sequence names => .record "Sequence" [("names", .texts names)] true
  | moreRecent older newer =>
      .record "MoreRecent" [("older", .text older), ("newer", .text newer)] true
  | lastIn names => .record "LastIn" [("names", names.form)] true
  | and left right => .record "And" [("left", left.form), ("right", right.form)] true
  | or left right => .record "Or" [("left", left.form), ("right", right.form)] true
  | not inner => .record "Not" [("inner", inner.form)] true

def Guard.form : Guard → Form
  | after names => .applied "Predecessors" names.form
  | when condition => .applied "When" condition.form

variable {κ : Type}

def Input.form (input : Input κ) : Form :=
  .record "InputVariant"
    [("label", .text input.label), ("guard", .option (input.guard.map Guard.form))] false

def Check.form (check : Check κ) : Form :=
  .record "Check"
    [("name", .text check.name), ("guard", .option (check.guard.map Guard.form))] false

def Node.form (node : Node κ) : Form :=
  .record "Node"
    [("name", .text node.name), ("predecessors", node.predecessors.form),
      ("inputs", .list (node.inputs.map Input.form)),
      ("checks", .list (node.checks.map Check.form))] true

def Graph.form (g : Graph κ) : Form :=
  .record "Graph"
    [("nodes", .map (g.nodes.map fun node => (.text node.name, node.form))),
      ("successors",
        .map (g.successorTable.toList.map fun (name, next) => (.text name, next.form))),
      ("start", .text g.start),
      ("hooks", .record "ScenarioHooks"
        [("on_start", .bool g.hooks.start.isSome), ("on_stop", .bool g.hooks.stop.isSome)] true)]
    true

/-! ## Planned scenarios -/

def Step.form (step : Step κ) : Form :=
  .record "Step"
    [("position", .nat step.position), ("node", .text step.node),
      ("action", .option (step.input.map fun input => .text input.label)),
      ("checks", .texts (step.checks.map ChosenCheck.name))] true

def Scenario.form (scenario : Scenario) : Form :=
  .record "Scenario"
    [("index", .nat scenario.index), ("name", .text scenario.name),
      ("nodes", .texts scenario.nodes)] true

def PlannedScenario.form (planned : PlannedScenario κ) : Form :=
  .record "CompiledScenario"
    [("scenario", planned.scenario.form), ("steps", .list (planned.steps.map Step.form))] true

/-- A graph as one line of text. -/
def Graph.inspect (g : Graph κ) : String := g.form.render

/-- A planned scenario as one line of text. -/
def PlannedScenario.inspect (planned : PlannedScenario κ) : String := planned.form.render

end ScenarioGraph
