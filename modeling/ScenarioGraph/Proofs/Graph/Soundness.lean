/-
# ScenarioGraph.Proofs.Graph.Soundness -- declarations without defects

A build looks for defects in declaration order and stops at the first one.  Whether
there is a defect at all is no matter of order: a node is sound by itself, given the
names that are declared, and a declaration is sound if its names differ and its nodes
are sound.

* `Node.defect?_eq_none_iff`: a node without defects is `Node.Sound`.
* `Declaration.defect?_eq_none_iff`: the same for all nodes together.
* `Declaration.findStart_eq_ok_iff`: which name is the start node.
* `Declaration.build_eq_ok_iff`, `Declaration.build_eq_error_iff` open a build once;
  nothing else unfolds it.
-/
import ScenarioGraph.Graph.Declaration

namespace ScenarioGraph

set_option autoImplicit false

variable {κ : Type}

theorem firstRepeat?_eq_none_iff {seen texts : List String} :
    firstRepeat? seen texts = none ↔ texts.Nodup ∧ ∀ text ∈ texts, text ∉ seen := by
  induction texts generalizing seen with
  | nil => simp [firstRepeat?]
  | cons text rest ih =>
      rw [firstRepeat?]
      split
      · rename_i before
        simp [before]
      · rename_i fresh
        rw [ih, List.nodup_cons]
        constructor
        · rintro ⟨distinct, apart⟩
          refine ⟨⟨fun later => apart text later List.mem_cons_self, distinct⟩, ?_⟩
          rintro other (_ | ⟨_, later⟩)
          · exact fresh
          · exact fun before => apart other later (List.mem_cons_of_mem _ before)
        · rintro ⟨⟨once, distinct⟩, apart⟩
          refine ⟨distinct, fun other later => ?_⟩
          rw [List.mem_cons, not_or]
          exact ⟨fun same => once (same ▸ later), apart other (List.mem_cons_of_mem _ later)⟩

/-- No name of the set is found that is not allowed. -/
theorem NameSet.find?_eq_none_iff {names : NameSet} {allowed : Name → Prop}
    [DecidablePred allowed] :
    names.toList.find? (fun name => decide (¬ allowed name)) = none ↔
      ∀ name ∈ names, allowed name := by
  rw [List.find?_eq_none]
  simp only [decide_not, Bool.not_eq_true', decide_eq_false_iff_not, Decidable.not_not]
  rfl

/-! ## Nodes -/

/-- Every name in the guard may be used on a node with these predecessors. -/
def Guard.Allowed (declared : List Name) (predecessors : NameSet) : Guard → Prop
  | .after names => ∀ name ∈ names, name ∈ predecessors
  | .when condition => ∀ name ∈ condition.names, name ∈ declared

namespace Node

/-- What is asked of a node, given the names that are declared. -/
structure Sound (declared : List Name) (node : Node κ) : Prop where
  predecessors : ∀ name ∈ node.predecessors, name ∈ declared
  guards : ∀ guard ∈ node.guards, guard.Allowed declared node.predecessors
  labels : (node.inputs.map Input.label).Nodup
  checks : (node.checks.map Check.name).Nodup

theorem guardDefect?_eq_none_iff {declared : List Name} {node : Node κ} {guard : Guard} :
    node.guardDefect? declared guard = none ↔ guard.Allowed declared node.predecessors := by
  cases guard with
  | after names =>
      rw [guardDefect?, Option.map_eq_none_iff, NameSet.find?_eq_none_iff]
      rfl
  | when condition =>
      rw [guardDefect?, Option.map_eq_none_iff, NameSet.find?_eq_none_iff]
      rfl

/-- A node has no defect exactly if it is sound. -/
theorem defect?_eq_none_iff {declared : List Name} {node : Node κ} :
    node.defect? declared = none ↔ node.Sound declared := by
  simp only [defect?, Option.orElse_eq_orElse, Option.orElse_eq_or, Option.or_eq_none_iff,
    Option.map_eq_none_iff, List.findSome?_eq_none_iff, guardDefect?_eq_none_iff,
    NameSet.find?_eq_none_iff, firstRepeat?_eq_none_iff]
  constructor
  · rintro ⟨predecessors, guards, ⟨labels, -⟩, checks, -⟩
    exact ⟨predecessors, guards, labels, checks⟩
  · rintro ⟨predecessors, guards, labels, checks⟩
    exact ⟨predecessors, guards, ⟨labels, by simp⟩, checks, by simp⟩

end Node

/-! ## Declarations -/

namespace Declaration

variable {d : Declaration κ} {g : Graph κ} {name start : Name} {defect : GraphError}

theorem names_declared (d : Declaration κ) : d.declared.map Node.name = d.names := by
  simp [declared, names, NodeDeclaration.toNode]

/-- A declaration has no defect exactly if its names differ and its nodes are sound. -/
theorem defect?_eq_none_iff :
    d.defect? = none ↔ d.names.Nodup ∧ ∀ node ∈ d.declared, node.Sound d.names := by
  simp only [defect?, Option.orElse_eq_orElse, Option.orElse_eq_or, Option.or_eq_none_iff,
    Option.map_eq_none_iff, firstRepeat?_eq_none_iff, List.findSome?_eq_none_iff,
    Node.defect?_eq_none_iff]
  refine and_congr_left fun _ => ?_
  simp

theorem mem_roots : name ∈ d.roots ↔
    ∃ node ∈ d.declared, node.predecessors.isEmpty = true ∧ node.name = name := by
  simp only [roots, List.mem_map, List.mem_filter, and_assoc]

theorem mem_names_of_mem_roots (root : name ∈ d.roots) : name ∈ d.names := by
  obtain ⟨node, listed, -, rfl⟩ := mem_roots.1 root
  rw [← d.names_declared]
  exact List.mem_map_of_mem listed

/-- The start node is the designated one, if no other node is without predecessors; or
else it is the only node without predecessors. -/
theorem findStart_eq_ok_iff :
    d.findStart = .ok start ↔ start ∈ d.names ∧
      (d.start = some start ∧ (∀ root ∈ d.roots, root = start) ∨
        d.start = none ∧ d.roots = [start]) := by
  unfold findStart
  cases designated : d.start with
  | some given =>
      have others : (d.roots.filter (· ≠ given)).isEmpty = true ↔ ∀ root ∈ d.roots, root = given := by
        simp [List.isEmpty_iff, List.filter_eq_nil_iff]
      simp only [Option.some.injEq, reduceCtorEq, false_and, or_false]
      split
      · rename_i undeclared
        simp only [reduceCtorEq, false_iff]
        rintro ⟨listed, rfl, -⟩
        exact undeclared listed
      · rename_i listed
        split
        · rename_i only
          rw [Except.ok.injEq]
          constructor
          · rintro rfl
            exact ⟨Decidable.not_not.1 listed, rfl, others.1 only⟩
          · rintro ⟨-, same, -⟩
            exact same
        · rename_i several
          simp only [reduceCtorEq, false_iff]
          rintro ⟨-, rfl, only⟩
          exact several (others.2 only)
  | none =>
      simp only [reduceCtorEq, false_and, false_or, true_and]
      split
      · rename_i none
        simp [none]
      · rename_i root roots
        have listed : root ∈ d.names := mem_names_of_mem_roots (by simp [roots])
        rw [roots, Except.ok.injEq, List.cons.injEq, and_iff_left rfl]
        constructor
        · rintro rfl
          exact ⟨listed, rfl⟩
        · exact And.right
      · rename_i notNone notOne
        simp only [reduceCtorEq, false_iff]
        rintro ⟨-, one⟩
        exact notOne start one

/-- The start node is the only one that may be without predecessors. -/
theorem eq_of_mem_roots {root : Name} (found : d.findStart = .ok start)
    (isRoot : root ∈ d.roots) : root = start := by
  obtain ⟨-, ⟨-, only⟩ | ⟨-, roots⟩⟩ := findStart_eq_ok_iff.1 found
  · exact only root isRoot
  · rw [roots] at isRoot
    exact List.mem_singleton.1 isRoot

/-- A build succeeds if there is no defect and a start node, and settles the declared
nodes. -/
theorem build_eq_ok_iff :
    d.build = .ok g ↔ d.defect? = none ∧ d.findStart = .ok g.start ∧ g.hooks = d.hooks ∧
      g.nodes = (d.declared.map Node.settle).mergeSort fun a b => decide (a.name ≤ b.name) := by
  unfold build
  cases d.defect? with
  | some defect => simp
  | none =>
      cases d.findStart with
      | error defect => simp [bind, Except.bind]
      | ok start =>
          simp only [bind, Except.bind, Except.ok.injEq, Graph.ext_iff, true_and]
          constructor
          · rintro ⟨nodes, rfl, hooks⟩
            exact ⟨rfl, hooks.symm, nodes.symm⟩
          · rintro ⟨rfl, hooks, nodes⟩
            exact ⟨nodes.symm, rfl, hooks.symm⟩

/-- What is built depends on the start node, the hooks and the nodes as they are made. -/
theorem build_congr {other : Declaration κ} (start : d.start = other.start)
    (hooks : d.hooks = other.hooks) (declared : d.declared = other.declared) :
    d.build = other.build := by
  have names : d.names = other.names := by rw [← names_declared, declared, names_declared]
  have roots : d.roots = other.roots := by simp only [Declaration.roots, declared]
  have defect : d.defect? = other.defect? := by simp only [defect?, names, declared]
  have found : d.findStart = other.findStart := by simp only [findStart, start, names, roots]
  simp only [build, defect, found, hooks, declared]

/-- A build fails with the first defect, or for want of a start node. -/
theorem build_eq_error_iff :
    d.build = .error defect ↔
      d.defect? = some defect ∨ d.defect? = none ∧ d.findStart = .error defect := by
  unfold build
  cases d.defect? with
  | some found => simp
  | none => cases d.findStart <;> simp [bind, Except.bind]

end Declaration

end ScenarioGraph
