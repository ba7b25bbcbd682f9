/-
# ScenarioGraph.Graph.Declaration -- from declarations to a graph

A declaration lists nodes in any order, with predecessors listed freely and
labels left out where the default will do.  `Declaration.build` looks for
defects in declaration order and reports the first one; without defects the
graph has the declared nodes in name order, each with its checks in name order,
and the table of their successors.

The start node is the designated one, or the only node without predecessors.
Every other node needs a predecessor, since nothing could lead to it otherwise.

An input without a label is called `input#k` for its place `k` among the inputs
of its node; a node's only input, so called, is plainly `input`.
-/
import ScenarioGraph.Graph.Basic
import ScenarioGraph.Graph.Error

namespace ScenarioGraph

set_option autoImplicit false

/-- An input as declared: its label may be left to the default. -/
structure InputDeclaration (κ : Type) where
  label : Option String
  guard : Option Guard
  action : κ
deriving DecidableEq

structure NodeDeclaration (κ : Type) where
  name : Name
  predecessors : List Name
  inputs : List (InputDeclaration κ)
  checks : List (Check κ)
deriving DecidableEq

structure Declaration (κ : Type) where
  /-- The designated start node. -/
  start : Option Name
  hooks : Hooks κ
  nodes : List (NodeDeclaration κ)
deriving DecidableEq

variable {κ : Type}

/-! ## Nodes of a declaration -/

/-- The label of the input at place `k` when none is given. -/
def defaultLabel (k : Nat) : String := "input#" ++ toString k

namespace NodeDeclaration

def toNode (d : NodeDeclaration κ) : Node κ :=
  { name := d.name
    predecessors := NameSet.ofList d.predecessors
    inputs := d.inputs.mapIdx fun k input =>
      ⟨input.label.getD (defaultLabel k), input.guard, input.action⟩
    checks := d.checks }

end NodeDeclaration

namespace Node

/-- A node's only input is plainly `input` if it would be `input#0`. -/
def relabelSole : List (Input κ) → List (Input κ)
  | [input] => if input.label = defaultLabel 0 then [{ input with label := "input" }] else [input]
  | inputs => inputs

/-- The node as it stands in a graph. -/
def settle (node : Node κ) : Node κ :=
  { node with
    inputs := relabelSole node.inputs
    checks := node.checks.mergeSort fun a b => decide (a.name ≤ b.name) }

end Node

/-! ## Defects -/

/-- The first text that occurred before in the list; `seen` comes before it. -/
def firstRepeat? (seen : List String) : List String → Option String
  | [] => none
  | text :: rest => if text ∈ seen then some text else firstRepeat? (text :: seen) rest

namespace Node

/-- The first name of a guard that it may not use: a guard on the last node uses
predecessors of its own node, a condition uses declared nodes. -/
def guardDefect? (declared : List Name) (node : Node κ) : Guard → Option GraphError
  | .after names =>
      (names.toList.find? fun name => decide (name ∉ node.predecessors)).map
        (.guardNotPredecessor node.name)
  | .when condition =>
      (condition.names.toList.find? fun name => decide (name ∉ declared)).map
        (.unknownConditionName node.name)

/-- The first defect of a node: its predecessors, its guards, its labels, the
names of its checks. -/
def defect? (declared : List Name) (node : Node κ) : Option GraphError :=
  (node.predecessors.toList.find? fun name => decide (name ∉ declared)).map
      (.unknownPredecessor node.name)
    <|> node.guards.findSome? (guardDefect? declared node)
    <|> (firstRepeat? [] (node.inputs.map Input.label)).map (.repeatedLabel node.name)
    <|> (firstRepeat? [] (node.checks.map Check.name)).map (.repeatedCheck node.name)

end Node

namespace Declaration

/-- The declared nodes, in declaration order. -/
def declared (d : Declaration κ) : List (Node κ) := d.nodes.map NodeDeclaration.toNode

def names (d : Declaration κ) : List Name := d.nodes.map NodeDeclaration.name

/-- The first defect of the nodes, in declaration order. -/
def defect? (d : Declaration κ) : Option GraphError :=
  (firstRepeat? [] d.names).map .repeatedNode <|> d.declared.findSome? (Node.defect? d.names)

/-- Nodes that nothing leads to, in declaration order. -/
def roots (d : Declaration κ) : List Name :=
  (d.declared.filter fun node => node.predecessors.isEmpty).map Node.name

/-- The start node: the only one that needs no predecessor. -/
def findStart (d : Declaration κ) : Except GraphError Name :=
  match d.start with
  | some start =>
      let others := d.roots.filter (· ≠ start)
      if start ∉ d.names then .error (.unknownStart start)
      else if others.isEmpty then .ok start
      else .error (.severalStarts (start :: others))
  | none =>
      match d.roots with
      | [] => .error .noStart
      | [start] => .ok start
      | several => .error (.severalStarts several)

/-- The graph of a declaration, or its first defect. -/
def build (d : Declaration κ) : Except GraphError (Graph κ) :=
  match d.defect? with
  | some defect => .error defect
  | none => do
      let start ← d.findStart
      let nodes := (d.declared.map Node.settle).mergeSort fun a b => decide (a.name ≤ b.name)
      .ok { nodes, successorTable := invertPredecessors nodes, start, hooks := d.hooks }

end Declaration

end ScenarioGraph
