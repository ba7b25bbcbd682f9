/-
# ScenarioGraph.Proofs.Graph.Rearrangement -- the order of declarations does not matter

Nodes may be declared in any order, and so may the checks of a node.  A build looks for
defects in declaration order, so another order may bring another defect to light first;
but whether there is one is no matter of order, and neither is the start node.  Nodes
and checks have different names in a sound declaration, and so there is only one way to
put them in name order.  The inputs of a node keep their order, which is also the order
of the candidates that an ambiguity lists.

* `mergeSort_eq_of_perm`: items with different keys are sorted in one way only.
* `Declaration.Rearranged`: the same nodes in another order, with their checks in
  another order.
* `Rearranged.build_eq_ok`: what is built of one order is built of the other.
* `build_rearranged`: two orders of one declaration both fail, or are one graph.
-/
import ScenarioGraph.Plan.Suite
import ScenarioGraph.Proofs.Attempt
import ScenarioGraph.Proofs.Graph.WellFormed
import Mathlib.Data.List.Nodup
import Mathlib.Data.List.Perm.Basic

namespace ScenarioGraph

set_option autoImplicit false

variable {κ α β γ : Type}

/-! ## Lists in another order -/

/-- Items with different keys are put in the order of their keys in one way only. -/
theorem mergeSort_eq_of_perm {key : α → Name} {xs ys : List α} (perm : xs.Perm ys)
    (distinct : (xs.map key).Nodup) :
    (xs.mergeSort fun a b => decide (key a ≤ key b)) =
      ys.mergeSort fun a b => decide (key a ≤ key b) := by
  refine List.Perm.eq_of_pairwise ?_ (pairwise_mergeSort_key key xs) (pairwise_mergeSort_key key ys)
    ((List.mergeSort_perm xs _).trans (perm.trans (List.mergeSort_perm ys _).symm))
  intro a b inXs inYs below above
  have inXs := List.mem_mergeSort.1 inXs
  have inYs := perm.mem_iff.2 (List.mem_mergeSort.1 inYs)
  exact List.inj_on_of_nodup_map distinct inXs inYs (String.le_antisymm below above)

/-! ## Nodes in another order -/

/-- The same node, with its checks in another order. -/
structure NodeDeclaration.Alike (first second : NodeDeclaration κ) : Prop where
  name : first.name = second.name
  predecessors : first.predecessors = second.predecessors
  inputs : first.inputs = second.inputs
  checks : first.checks.Perm second.checks

theorem Node.Sound.of_subset {node : Node κ} {declared others : List Name}
    (sound : node.Sound declared) (within : declared ⊆ others) : node.Sound others where
  predecessors name entered := within (sound.predecessors name entered)
  guards guard listed := by
    have allowed := sound.guards guard listed
    cases guard with
    | after names => exact allowed
    | when condition => exact fun name mentioned => within (allowed name mentioned)
  labels := sound.labels
  checks := sound.checks

namespace NodeDeclaration.Alike

variable {first second : NodeDeclaration κ}

theorem symm (alike : first.Alike second) : second.Alike first :=
  ⟨alike.name.symm, alike.predecessors.symm, alike.inputs.symm, alike.checks.symm⟩

theorem toNode_eq (alike : first.Alike second) :
    second.toNode = { first.toNode with checks := second.checks } := by
  simp only [toNode, alike.name, alike.predecessors, alike.inputs]

/-- Whether a node is sound does not depend on the order of its checks. -/
theorem sound (alike : first.Alike second) {declared : List Name}
    (sound : first.toNode.Sound declared) : second.toNode.Sound declared := by
  rw [alike.toNode_eq]
  refine ⟨sound.predecessors, ?_, sound.labels, ?_⟩
  · intro guard listed
    apply sound.guards
    simp only [Node.guards, List.mem_append] at listed ⊢
    exact listed.imp_right ((alike.checks.filterMap Check.guard).mem_iff.2)
  · exact (alike.checks.map Check.name).nodup_iff.1 sound.checks

/-- With their checks in name order, the two are the same. -/
theorem settle_eq (alike : first.Alike second)
    (distinct : (first.checks.map Check.name).Nodup) :
    first.toNode.settle = second.toNode.settle := by
  have sorted := mergeSort_eq_of_perm alike.checks distinct
  rw [alike.toNode_eq]
  simp only [Node.settle, Node.mk.injEq, true_and]
  exact sorted

end NodeDeclaration.Alike

/-! ## Declarations in another order -/

/-- The same nodes in another order, with their checks in another order. -/
structure Declaration.Rearranged (first second : Declaration κ) : Prop where
  start : first.start = second.start
  hooks : first.hooks = second.hooks
  nodes : ∃ shuffled, first.nodes.Perm shuffled ∧
    List.Forall₂ NodeDeclaration.Alike shuffled second.nodes

namespace Declaration.Rearranged

variable {first second : Declaration κ}

theorem symm (same : first.Rearranged second) : second.Rearranged first := by
  obtain ⟨shuffled, perm, alike⟩ := same.nodes
  obtain ⟨others, alike, perm⟩ := List.perm_comp_forall₂ perm alike
  refine ⟨same.start.symm, same.hooks.symm, others, perm.symm, ?_⟩
  exact List.Forall₂.flip (alike.imp fun _ _ alike => alike.symm)

/-- What does not depend on the order of checks is the same, in another order. -/
theorem map_perm (same : first.Rearranged second) {f : NodeDeclaration κ → γ}
    (invariant : ∀ node ∈ first.nodes, ∀ other, node.Alike other → f node = f other) :
    (first.nodes.map f).Perm (second.nodes.map f) := by
  obtain ⟨shuffled, perm, alike⟩ := same.nodes
  rw [← map_eq_map_of_forall₂ alike fun node member => invariant node (perm.mem_iff.2 member)]
  exact perm.map f

theorem names (same : first.Rearranged second) : first.names.Perm second.names :=
  same.map_perm fun _ _ _ alike => alike.name

theorem roots (same : first.Rearranged second) : first.roots.Perm second.roots := by
  have roots_eq : ∀ d : Declaration κ, d.roots =
      ((d.nodes.map fun node => (node.name, NameSet.ofList node.predecessors)).filter
        fun entry => entry.2.isEmpty).map Prod.fst := by
    intro d
    simp only [Declaration.roots, declared, List.filter_map, List.map_map]
    rfl
  rw [roots_eq, roots_eq]
  refine ((same.map_perm ?_).filter _).map _
  intro node _ other alike
  rw [alike.name, alike.predecessors]

/-- Another order brings no defect. -/
theorem defect?_eq_none (same : first.Rearranged second) (sound : first.defect? = none) :
    second.defect? = none := by
  obtain ⟨distinct, sounds⟩ := defect?_eq_none_iff.1 sound
  refine defect?_eq_none_iff.2 ⟨same.names.nodup_iff.1 distinct, ?_⟩
  intro node listed
  obtain ⟨other, inSecond, rfl⟩ := List.mem_map.1 listed
  obtain ⟨shuffled, perm, alike⟩ := same.nodes
  obtain ⟨one, inShuffled, alike⟩ := exists_mem_of_forall₂ alike inSecond
  have sound := sounds one.toNode (List.mem_map_of_mem (perm.mem_iff.2 inShuffled))
  exact (alike.sound sound).of_subset same.names.subset

theorem findStart_eq_ok (same : first.Rearranged second) {start : Name}
    (found : first.findStart = .ok start) : second.findStart = .ok start := by
  rw [findStart_eq_ok_iff] at found ⊢
  obtain ⟨listed, ⟨designated, only⟩ | ⟨none, roots⟩⟩ := found
  · refine ⟨same.names.mem_iff.1 listed, Or.inl ⟨same.start ▸ designated, ?_⟩⟩
    exact fun root isRoot => only root (same.roots.mem_iff.2 isRoot)
  · refine ⟨same.names.mem_iff.1 listed, Or.inr ⟨same.start ▸ none, ?_⟩⟩
    apply List.perm_singleton.1
    rw [← roots]
    exact same.roots.symm

/-- The settled nodes are the same in both orders, once they are in name order. -/
theorem nodes_eq (same : first.Rearranged second) (sound : first.defect? = none) :
    ((first.declared.map Node.settle).mergeSort fun a b => decide (a.name ≤ b.name)) =
      (second.declared.map Node.settle).mergeSort fun a b => decide (a.name ≤ b.name) := by
  obtain ⟨distinct, sounds⟩ := defect?_eq_none_iff.1 sound
  apply mergeSort_eq_of_perm
  · simp only [declared, List.map_map]
    apply same.map_perm
    intro node listed other alike
    exact alike.settle_eq (sounds node.toNode (List.mem_map_of_mem listed)).checks
  · rw [← first.names_declared] at distinct
    rw [List.map_map]
    exact distinct

/-- What is built of one order is built of the other. -/
theorem build_eq_ok (same : first.Rearranged second) {g : Graph κ}
    (built : first.build = .ok g) : second.build = .ok g := by
  rw [build_eq_ok_iff] at built ⊢
  obtain ⟨sound, started, hooks, nodes⟩ := built
  exact ⟨same.defect?_eq_none sound, same.findStart_eq_ok started, hooks.trans same.hooks,
    nodes.trans (same.nodes_eq sound)⟩

end Declaration.Rearranged

/-- **The order of declarations does not matter.**  Two declarations of the same nodes, in
any order and with their checks in any order, both fail or are built into one graph; so
everything that is read off the graph is the same, down to the defect that planning
reports. -/
theorem build_rearranged {first second : Declaration κ} (same : first.Rearranged second) :
    ((∃ failure failure', first.build = .error failure ∧ second.build = .error failure') ∨
        ∃ g, first.build = .ok g ∧ second.build = .ok g) ∧
      ∀ g g', first.build = .ok g → second.build = .ok g' →
        g = g' ∧ (∀ name, g.successors name = g'.successors name) ∧ g.cycles = g'.cycles ∧
          (∀ start, g.trails start = g'.trails start) ∧
          ∀ repetitions,
            (∀ start, g.scenariosFrom start repetitions = g'.scenariosFrom start repetitions) ∧
              g.overview repetitions = g'.overview repetitions ∧
              g.planSuite repetitions = g'.planSuite repetitions := by
  constructor
  · cases built : first.build with
    | ok g => exact Or.inr ⟨g, rfl, same.build_eq_ok built⟩
    | error failure =>
        cases builtToo : second.build with
        | ok g =>
            rw [same.symm.build_eq_ok builtToo] at built
            cases built
        | error failure' => exact Or.inl ⟨failure, failure', rfl, rfl⟩
  · intro g g' built builtToo
    obtain rfl := Except.ok.inj ((same.build_eq_ok built).symm.trans builtToo)
    exact ⟨rfl, fun _ => rfl, rfl, fun _ => rfl, fun _ => ⟨fun _ => rfl, rfl, rfl⟩⟩

/-! ## A vending machine -/

namespace Vending

def idle (checks : List (Check Unit)) : NodeDeclaration Unit :=
  { name := "Idle", predecessors := ["Sold"], inputs := [⟨none, none, ()⟩], checks }

def paid : NodeDeclaration Unit :=
  { name := "Paid", predecessors := ["Idle"], inputs := [⟨some "coin", none, ()⟩], checks := [] }

def sold : NodeDeclaration Unit :=
  { name := "Sold", predecessors := ["Paid"], inputs := [⟨some "choice", none, ()⟩], checks := [] }

def lamp : Check Unit := ⟨"lamp_off", none, ()⟩

def stock : Check Unit := ⟨"stock_shown", some (.after (NameSet.ofList ["Sold"])), ()⟩

def declaration : Declaration Unit :=
  { start := some "Idle", hooks := ⟨none, none⟩, nodes := [idle [stock, lamp], paid, sold] }

/-- The nodes in another order, and the checks of one as well. -/
def shuffled : Declaration Unit :=
  { declaration with nodes := [sold, idle [lamp, stock], paid] }

theorem rearranged_shuffled : declaration.Rearranged shuffled := by
  have alike (node : NodeDeclaration Unit) : node.Alike node := ⟨rfl, rfl, rfl, .refl _⟩
  have checks : (idle [stock, lamp]).Alike (idle [lamp, stock]) := ⟨rfl, rfl, rfl, .swap ..⟩
  refine ⟨rfl, rfl, [sold, idle [stock, lamp], paid], by decide, ?_⟩
  exact .cons (alike sold) (.cons checks (.cons (alike paid) .nil))

end Vending

/-- Both orders of the vending machine are built into one graph, and planned alike. -/
theorem vending_build_rearranged :
    Vending.declaration.Rearranged Vending.shuffled ∧
      ∃ g, Vending.declaration.build = .ok g ∧ Vending.shuffled.build = .ok g := by
  have built : Vending.declaration.build.isOk = true := by decide +kernel
  refine ⟨Vending.rearranged_shuffled, ?_⟩
  rcases (build_rearranged Vending.rearranged_shuffled).1 with ⟨failure, _, failed, -⟩ | found
  · rw [failed] at built
    cases built
  · exact found

/-- Of two defects, the one declared first is reported. -/
example :
    let first : NodeDeclaration Unit := ⟨"A", ["X"], [], []⟩
    let second : NodeDeclaration Unit := ⟨"B", ["Y"], [], []⟩
    Declaration.build ⟨none, ⟨none, none⟩, [first, second]⟩ = .error (.unknownPredecessor "A" "X") ∧
      Declaration.build ⟨none, ⟨none, none⟩, [second, first]⟩ =
        .error (.unknownPredecessor "B" "Y") := by
  decide +kernel

end ScenarioGraph
