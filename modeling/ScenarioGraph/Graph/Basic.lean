/-
# ScenarioGraph.Graph.Basic -- state graphs

A graph is a list of nodes in name order.  A node lists the nodes it can be
entered from; its inputs are the candidate actions on entering it, its checks
run after the action.  An edge leads from a predecessor to the node that lists
it.

The predecessors are inverted once (`invertPredecessors`), and the graph keeps
the table that results together with its source (`Graph.inverted`).  Successors
are looked up there, in name order; `Graph.mem_successors` says that the table
has the edges out of every declared node and no others.

Actions, checks and hooks are handles of a type `κ`; what a handle does is given
only when a scenario is run.
-/
import Std.Data.TreeMap
import ScenarioGraph.Condition

namespace ScenarioGraph

set_option autoImplicit false

/-- A candidate action on entering a node. -/
structure Input (κ : Type) where
  label : String
  guard : Option Guard
  action : κ
deriving DecidableEq

/-- A named check, run after the action of its node. -/
structure Check (κ : Type) where
  name : Name
  guard : Option Guard
  body : κ
deriving DecidableEq

structure Node (κ : Type) where
  name : Name
  /-- The nodes that this one can be entered from. -/
  predecessors : NameSet
  inputs : List (Input κ)
  checks : List (Check κ)
deriving DecidableEq

/-- What is called before and after every scenario. -/
structure Hooks (κ : Type) where
  start : Option κ
  stop : Option κ
deriving DecidableEq

variable {κ : Type}

/-- The guards of the inputs, then those of the checks. -/
def Node.guards (node : Node κ) : List Guard :=
  node.inputs.filterMap Input.guard ++ node.checks.filterMap Check.guard

/-! ## Inverting the predecessors -/

/-- For each node, the nodes that are entered from it. -/
abbrev SuccessorTable := Std.TreeMap Name NameSet

namespace SuccessorTable

/-- A table of nodes that nothing is entered from. -/
def blank (names : List Name) : SuccessorTable :=
  names.foldl (fun table name => table.insert name NameSet.empty) ∅

/-- Put `next` among the successors of each of the names; a name without an entry is skipped. -/
def enter (table : SuccessorTable) (next : Name) (names : List Name) : SuccessorTable :=
  names.foldl (fun table name => table.modify name (NameSet.insert next)) table

end SuccessorTable

/-- The table of the successors: every node starts without any, and then stands among those
of its predecessors. -/
def invertPredecessors (nodes : List (Node κ)) : SuccessorTable :=
  nodes.foldl (fun table node => table.enter node.name node.predecessors.toList)
    (.blank (nodes.map Node.name))

namespace SuccessorTable

theorem getElem?_blank (names : List Name) (name : Name) :
    (blank names)[name]? = if name ∈ names then some NameSet.empty else none := by
  suffices filled : ∀ table : SuccessorTable,
      (names.foldl (fun table name => table.insert name NameSet.empty) table)[name]? =
        if name ∈ names then some NameSet.empty else table[name]? by
    simpa [blank] using filled ∅
  induction names with
  | nil => simp
  | cons first names ih =>
      intro table
      simp only [List.foldl_cons, ih, Std.TreeMap.getElem?_insert, Std.compare_eq_iff_eq]
      by_cases same : first = name
      · simp [same]
      · simp [same, Ne.symm same]

/-- Entering a node adds it to the entries of its predecessors, and to no other. -/
theorem getElem?_enter (table : SuccessorTable) (next : Name) (names : List Name) (name : Name) :
    (table.enter next names)[name]? =
      table[name]?.map fun found => if name ∈ names then found.insert next else found := by
  rw [enter]
  induction names generalizing table with
  | nil => simp
  | cons first names ih =>
      simp only [List.foldl_cons, ih, Std.TreeMap.getElem?_modify, Std.compare_eq_iff_eq]
      by_cases same : first = name
      · subst same
        rw [if_pos rfl, Option.map_map]
        refine congrArg (Option.map · _) (funext fun found => NameSet.ext fun other => ?_)
        by_cases again : first ∈ names <;> simp [again, NameSet.mem_insert]
      · simp [same, Ne.symm same]

end SuccessorTable

/-- The nodes that list `name` as a predecessor. -/
def enteredFrom (name : Name) (nodes : List (Node κ)) : List Name :=
  (nodes.filter fun node => decide (name ∈ node.predecessors)).map Node.name

theorem mem_enteredFrom {name next : Name} {nodes : List (Node κ)} :
    next ∈ enteredFrom name nodes ↔
      ∃ node ∈ nodes, node.name = next ∧ name ∈ node.predecessors := by
  simp only [enteredFrom, List.mem_map, List.mem_filter, decide_eq_true_eq]
  constructor
  · rintro ⟨node, ⟨member, entered⟩, named⟩
    exact ⟨node, member, named, entered⟩
  · rintro ⟨node, member, named, entered⟩
    exact ⟨node, ⟨member, entered⟩, named⟩

/-- Entering nodes one after the other adds to each entry those that list its name. -/
theorem getElem?_foldl_enter (nodes : List (Node κ)) (table : SuccessorTable) (name : Name) :
    (nodes.foldl (fun table node => table.enter node.name node.predecessors.toList) table)[name]? =
      table[name]?.map (NameSet.union (.ofList (enteredFrom name nodes))) := by
  induction nodes generalizing table with
  | nil => exact Option.map_id'.symm
  | cons node nodes ih =>
      rw [List.foldl_cons, ih, SuccessorTable.getElem?_enter, Option.map_map]
      refine congrArg (Option.map · _) (funext fun found => NameSet.ext fun next => ?_)
      by_cases entered : name ∈ node.predecessors
      · simp [enteredFrom, entered, NameSet.mem_toList, NameSet.mem_union, NameSet.mem_ofList,
          NameSet.mem_insert, or_left_comm, or_assoc]
      · simp [enteredFrom, entered, NameSet.mem_toList, NameSet.mem_union, NameSet.mem_ofList]

/-- **The inversion.**  The name of a node has an entry, the set of the nodes that list it as
a predecessor; no other name has one. -/
theorem getElem?_invertPredecessors (nodes : List (Node κ)) (name : Name) :
    (invertPredecessors nodes)[name]? =
      if name ∈ nodes.map Node.name then some (.ofList (enteredFrom name nodes)) else none := by
  rw [invertPredecessors, getElem?_foldl_enter, SuccessorTable.getElem?_blank]
  split
  · refine congrArg some (NameSet.ext fun next => ?_)
    rw [NameSet.mem_union]
    exact or_iff_left List.not_mem_nil
  · rfl

/-! ## Graphs -/

structure Graph (κ : Type) where
  /-- In name order. -/
  nodes : List (Node κ)
  successorTable : SuccessorTable := invertPredecessors nodes
  start : Name
  hooks : Hooks κ
  /-- The table is that of the nodes. -/
  inverted : successorTable = invertPredecessors nodes := by rfl

/-- An edge as the pair of its ends. -/
abbrev Edge := Name × Name

namespace Graph

/-- The table is made from the nodes, so it makes no difference between graphs. -/
@[ext]
theorem ext {g other : Graph κ} (nodes : g.nodes = other.nodes) (start : g.start = other.start)
    (hooks : g.hooks = other.hooks) : g = other := by
  have table : g.successorTable = other.successorTable := by rw [g.inverted, nodes, other.inverted]
  cases g
  cases other
  congr

instance [DecidableEq κ] : DecidableEq (Graph κ) := fun g other =>
  decidable_of_iff (g.nodes = other.nodes ∧ g.start = other.start ∧ g.hooks = other.hooks)
    Graph.ext_iff.symm

def names (g : Graph κ) : List Name := g.nodes.map Node.name

def node? (g : Graph κ) (name : Name) : Option (Node κ) := g.nodes.find? (·.name = name)

def contains (g : Graph κ) (name : Name) : Bool := (g.node? name).isSome

/-- The nodes entered from `name`, in name order; none if `name` is not declared. -/
def successors (g : Graph κ) (name : Name) : List Name :=
  match g.successorTable[name]? with
  | some found => found.toList
  | none => []

/-- Every edge, by source and then by target. -/
def edges (g : Graph κ) : List Edge :=
  g.names.flatMap fun name => (g.successors name).map fun next => (name, next)

theorem mem_successors {g : Graph κ} {name next : Name} :
    next ∈ g.successors name ↔
      name ∈ g.names ∧ ∃ node ∈ g.nodes, node.name = next ∧ name ∈ node.predecessors := by
  rw [successors, g.inverted, getElem?_invertPredecessors, ← names]
  by_cases declared : name ∈ g.names
  · rw [if_pos declared, and_iff_right declared, ← mem_enteredFrom]
    exact NameSet.mem_ofList
  · simp [declared]

theorem increasing_successors (g : Graph κ) (name : Name) :
    (g.successors name).Pairwise (· < ·) := by
  unfold successors
  split
  · exact NameSet.increasing _
  · exact List.Pairwise.nil

theorem mem_edges {g : Graph κ} {name next : Name} :
    (name, next) ∈ g.edges ↔ name ∈ g.names ∧ next ∈ g.successors name := by
  simp only [edges, List.mem_flatMap, List.mem_map, Prod.mk.injEq]
  constructor
  · rintro ⟨source, member, target, entered, rfl, rfl⟩
    exact ⟨member, entered⟩
  · rintro ⟨member, entered⟩
    exact ⟨name, member, next, entered, rfl, rfl⟩

end Graph

end ScenarioGraph
