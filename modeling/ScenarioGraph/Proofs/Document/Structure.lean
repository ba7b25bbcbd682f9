/-
# ScenarioGraph.Proofs.Document.Structure -- the graph of a document has its structure

A document lists names where a graph has sets: the predecessors of a node, and the nodes
that a guard on the last node allows.  Everything else is kept as it is written.  So the
graph has a node for each entry, with guards that say what the entry says of every history;
and two documents that list the same names, in whatever order and however often, declare
the same nodes, so that they are built into one graph or refused for one reason.

* `GuardEntry.accepts_toGuard_iff`: a guard accepts the histories that its entry means.
* `describes_of_represents`: a node that stands for the declaration of an entry has the
  structure of the entry.
* `Document.Relisted`: the same document, with names listed differently;
  `Relisted.declared_eq`: it declares the same nodes.
* `toGraph_keeps_structure`: both, for every document.
-/
import ScenarioGraph.Document.Graph
import ScenarioGraph.Plan.Suite
import ScenarioGraph.Proofs.Attempt
import ScenarioGraph.Proofs.Condition.Meaning
import ScenarioGraph.Proofs.Graph.Representation
import Mathlib.Data.List.Perm.Basic

namespace ScenarioGraph

set_option autoImplicit false

/-- Lists of the same names are one set. -/
theorem NameSet.ofList_congr {names others : List Name}
    (same : ∀ name, name ∈ names ↔ name ∈ others) : ofList names = ofList others := by
  apply NameSet.ext
  intro name
  rw [mem_ofList, mem_ofList, same]

namespace Document

/-! ## What entries say -/

/-- What a guard, as it is written, says of the nodes visited so far. -/
def GuardEntry.Means : GuardEntry → List Name → Prop
  | after names, nodes => ∃ front last, nodes = front ++ [last] ∧ last ∈ names
  | when condition, nodes => condition.Means nodes

theorem GuardEntry.accepts_toGuard_iff (entry : GuardEntry) (history : History) :
    entry.toGuard.accepts history = true ↔ entry.Means history.toList := by
  cases entry with
  | after names =>
      show history.endsIn (NameSet.ofList names) = true ↔ _
      simp only [History.endsIn_iff, NameSet.mem_ofList, List.getLast?_eq_some_iff, Means]
      constructor
      · rintro ⟨last, member, front, split⟩
        exact ⟨front, last, split, member⟩
      · rintro ⟨front, last, split, member⟩
        exact ⟨last, member, front, split⟩
  | when condition => exact condition.holds_iff_means history

/-- The guard admits the histories that the entry means, and all histories if there is no
entry. -/
def GuardedAs (entry : Option GuardEntry) (guard : Option Guard) : Prop :=
  ∀ history : History, Guard.admits guard history = true ↔
    ∀ given, entry = some given → given.Means history.toList

theorem guardedAs_map_toGuard (entry : Option GuardEntry) :
    GuardedAs entry (entry.map GuardEntry.toGuard) := by
  intro history
  cases entry with
  | none => simp [Guard.admits]
  | some given => simp [Guard.admits, given.accepts_toGuard_iff]

/-- The node has the structure that the entry describes: the same predecessors, as a set, the
same inputs in the same order, and the same checks in strict name order. -/
structure NodeEntry.Describes (entry : NodeEntry) (node : Node Unit) : Prop where
  name : node.name = entry.name
  predecessors : ∀ name, name ∈ node.predecessors ↔ name ∈ entry.predecessors
  inputs : List.Forall₂ (fun input made => GuardedAs input.guard made.guard)
    entry.inputs node.inputs
  labels : node.inputs.map Input.label = entry.declaration.settledLabels
  checks : ∃ sorted, entry.checks.Perm sorted ∧
    List.Forall₂ (fun check made => made.name = check.name ∧ GuardedAs check.guard made.guard)
      sorted node.checks
  increasing : (node.checks.map Check.name).Pairwise (· < ·)

/-- Images that are equal belong to items in pairs. -/
theorem forall₂_of_map_eq {α β γ : Type} {f : α → γ} {f' : β → γ} {xs : List α} {ys : List β}
    (same : xs.map f = ys.map f') : List.Forall₂ (fun x y => f x = f' y) xs ys := by
  have pairs : List.Forall₂ (· = ·) (xs.map f) (ys.map f') := by
    rw [same]
    exact List.forall₂_refl _
  rwa [List.forall₂_map_left_iff, List.forall₂_map_right_iff] at pairs

/-- A node that stands for the declaration of an entry has the structure of the entry. -/
theorem describes_of_represents {entry : NodeEntry} {node : Node Unit}
    (represents : node.Represents entry.declaration) : entry.Describes node where
  name := represents.name
  predecessors := represents.predecessors
  inputs := by
    have guards : (entry.inputs.map fun input => input.guard.map GuardEntry.toGuard) =
        node.inputs.map Input.guard := by
      have same := congrArg (List.map Prod.fst) represents.inputs
      simp only [List.map_map, NodeEntry.declaration] at same
      exact same.symm
    refine (forall₂_of_map_eq guards).imp fun input made same => ?_
    rw [← same]
    exact guardedAs_map_toGuard input.guard
  labels := represents.labels
  checks := by
    have shuffled : Relation.Comp (fun made checks => made = checks.map CheckEntry.declaration)
        List.Perm node.checks entry.checks := by
      rw [List.eq_map_comp_perm]
      exact represents.checks
    obtain ⟨sorted, made, perm⟩ := shuffled
    refine ⟨sorted, perm.symm, ?_⟩
    rw [made, List.forall₂_map_right_iff, List.forall₂_same]
    exact fun check _ => ⟨rfl, guardedAs_map_toGuard check.guard⟩
  increasing := represents.increasing

/-! ## Names listed differently -/

/-- The same guard, its names listed in another order or more or less often. -/
inductive GuardEntry.Relisted : GuardEntry → GuardEntry → Prop where
  | after {names others : List Name} (same : ∀ name, name ∈ names ↔ name ∈ others) :
      Relisted (.after names) (.after others)
  | when (condition : Condition) : Relisted (.when condition) (.when condition)

structure InputEntry.Relisted (first second : InputEntry) : Prop where
  label : first.label = second.label
  guard : Option.Rel GuardEntry.Relisted first.guard second.guard

structure CheckEntry.Relisted (first second : CheckEntry) : Prop where
  name : first.name = second.name
  guard : Option.Rel GuardEntry.Relisted first.guard second.guard

structure NodeEntry.Relisted (first second : NodeEntry) : Prop where
  name : first.name = second.name
  predecessors : ∀ name, name ∈ first.predecessors ↔ name ∈ second.predecessors
  inputs : List.Forall₂ InputEntry.Relisted first.inputs second.inputs
  checks : List.Forall₂ CheckEntry.Relisted first.checks second.checks

/-- The same document, with the names of predecessors and guards listed in another order or
more or less often. -/
structure Relisted (first second : Document) : Prop where
  id : first.id = second.id
  version : first.version = second.version
  start : first.start = second.start
  nodes : List.Forall₂ NodeEntry.Relisted first.nodes second.nodes

theorem GuardEntry.Relisted.map_toGuard_eq {first second : Option GuardEntry}
    (same : Option.Rel GuardEntry.Relisted first second) :
    first.map GuardEntry.toGuard = second.map GuardEntry.toGuard := by
  cases same with
  | none => rfl
  | some same =>
      cases same with
      | after same => exact congrArg (fun names => some (Guard.after names)) (NameSet.ofList_congr same)
      | when condition => rfl

theorem InputEntry.Relisted.declaration_eq {first second : InputEntry}
    (same : first.Relisted second) : first.declaration = second.declaration := by
  simp only [declaration, same.label, GuardEntry.Relisted.map_toGuard_eq same.guard]

theorem CheckEntry.Relisted.declaration_eq {first second : CheckEntry}
    (same : first.Relisted second) : first.declaration = second.declaration := by
  simp only [declaration, same.name, GuardEntry.Relisted.map_toGuard_eq same.guard]

/-- The same node is made of both. -/
theorem NodeEntry.Relisted.toNode_eq {first second : NodeEntry} (same : first.Relisted second) :
    first.declaration.toNode = second.declaration.toNode := by
  have inputs : first.inputs.map InputEntry.declaration = second.inputs.map InputEntry.declaration :=
    map_eq_map_of_forall₂ same.inputs fun _ _ _ alike => alike.declaration_eq
  have checks : first.checks.map CheckEntry.declaration = second.checks.map CheckEntry.declaration :=
    map_eq_map_of_forall₂ same.checks fun _ _ _ alike => alike.declaration_eq
  simp only [NodeDeclaration.toNode, declaration, same.name, inputs, checks,
    NameSet.ofList_congr same.predecessors]

/-- One graph is built of both documents, or both are refused for one reason. -/
theorem Relisted.toGraph_eq {first second : Document} (same : first.Relisted second) :
    first.toGraph = second.toGraph := by
  have declared : first.declaration.declared = second.declaration.declared := by
    simp only [Declaration.declared, declaration, List.map_map]
    exact map_eq_map_of_forall₂ same.nodes fun _ _ _ alike => alike.toNode_eq
  exact Declaration.build_congr same.start rfl declared

/-! ## The graph of a document -/

/-- The start node of the graph is the designated one, or else the only node without
predecessors. -/
theorem start_of_toGraph {document : Document} {g : Graph Unit}
    (built : document.toGraph = .ok g) :
    document.start = some g.start ∨ document.start = none ∧
      (document.nodes.filter fun entry => entry.predecessors.isEmpty).map NodeEntry.name =
        [g.start] := by
  obtain ⟨-, started, -, -⟩ := Declaration.build_eq_ok_iff.1 built
  obtain ⟨-, ⟨designated, -⟩ | ⟨undesignated, roots⟩⟩ := Declaration.findStart_eq_ok_iff.1 started
  · exact Or.inl designated
  · refine Or.inr ⟨undesignated, ?_⟩
    simp only [Declaration.roots_eq, declaration, List.filter_map, List.map_map] at roots
    exact roots

/-- **The graph of a document has its structure.**  Its nodes are those of the document, each
with the predecessors, inputs and checks that its entry describes, and its start node is the
designated one or else the only node without predecessors.  Names are listed as sets: the
same document with its names listed differently is built into the same graph and planned
alike, or refused for the same reason. -/
theorem toGraph_keeps_structure (document : Document) :
    (∀ g, document.toGraph = .ok g →
      g.names.Perm (document.nodes.map NodeEntry.name) ∧
        (∀ entry ∈ document.nodes, ∃ node, g.node? entry.name = some node ∧ entry.Describes node) ∧
        (document.start = some g.start ∨ document.start = none ∧
          (document.nodes.filter fun entry => entry.predecessors.isEmpty).map NodeEntry.name =
            [g.start])) ∧
      ∀ other, document.Relisted other →
        (∀ g, document.toGraph = .ok g → other.toGraph = .ok g) ∧
          (∀ defect, document.toGraph = .error defect → other.toGraph = .error defect) ∧
          ∀ repetitions, (other.toGraph >>= fun g => g.planSuite repetitions) =
            document.toGraph >>= fun g => g.planSuite repetitions := by
  constructor
  · intro g built
    refine ⟨?_, fun entry listed => ?_, start_of_toGraph built⟩
    · have perm := Declaration.names_perm_of_build built
      simp only [Declaration.names, declaration, List.map_map] at perm
      exact perm
    · obtain ⟨node, found, represents⟩ := exists_node?_represents built (List.mem_map_of_mem listed)
      exact ⟨node, found, describes_of_represents represents⟩
  · intro other same
    rw [same.toGraph_eq]
    exact ⟨fun _ built => built, fun _ failed => failed, fun _ => rfl⟩

namespace Ferry

/-- A ferry that may stay on its way across; where it may come from is listed in two ways. -/
def crossing (predecessors dock : List Name) : NodeEntry :=
  { name := "Crossing"
    predecessors
    inputs := [⟨some "cast_off", some (.after dock)⟩, ⟨none, some (.after ["Crossing"])⟩]
    checks :=
      [⟨"engine_on", some (.when (.not (.sequence ["Crossing", "Crossing"])))⟩, ⟨"afloat", none⟩] }

def document (predecessors dock : List Name) : Document :=
  { id := "ferry"
    version := "1.0"
    start := none
    nodes := [⟨"Docked", [], [], []⟩, crossing predecessors dock] }

def brief : Document := document ["Docked", "Crossing"] ["Docked"]

def wordy : Document := document ["Crossing", "Docked", "Crossing"] ["Docked", "Docked"]

theorem relisted : brief.Relisted wordy where
  id := rfl
  version := rfl
  start := rfl
  nodes := by
    have docked : NodeEntry.Relisted ⟨"Docked", [], [], []⟩ ⟨"Docked", [], [], []⟩ :=
      ⟨rfl, fun _ => Iff.rfl, .nil, .nil⟩
    refine .cons docked (.cons ⟨rfl, ?_, ?_, ?_⟩ .nil)
    · intro name
      show name ∈ ["Docked", "Crossing"] ↔ name ∈ ["Crossing", "Docked", "Crossing"]
      simp [or_comm]
    · refine .cons ⟨rfl, .some (.after ?_)⟩ (.cons ⟨rfl, .some (.after fun _ => Iff.rfl)⟩ .nil)
      simp
    · exact .cons ⟨rfl, .some (.when _)⟩ (.cons ⟨rfl, .none⟩ .nil)

end Ferry

/-- The ferry may be described in both ways; it starts docked. -/
theorem ferry_toGraph_keeps_structure :
    Ferry.brief.Relisted Ferry.wordy ∧
      ∃ g, Ferry.brief.toGraph = .ok g ∧ Ferry.wordy.toGraph = .ok g ∧
        g.start = "Docked" ∧
        ∃ node, g.node? "Crossing" = some node ∧
          (Ferry.crossing ["Docked", "Crossing"] ["Docked"]).Describes node := by
  refine ⟨Ferry.relisted, ?_⟩
  obtain ⟨structured, alike⟩ := toGraph_keeps_structure Ferry.brief
  have valid : Ferry.brief.toGraph.isOk = true := by decide +kernel
  cases built : Ferry.brief.toGraph with
  | error defect =>
      rw [built] at valid
      cases valid
  | ok g =>
      obtain ⟨-, nodes, start⟩ := structured g built
      have listed : Ferry.crossing ["Docked", "Crossing"] ["Docked"] ∈ Ferry.brief.nodes :=
        List.mem_cons_of_mem _ List.mem_cons_self
      obtain ⟨node, found, describes⟩ := nodes _ listed
      have only : ["Docked"] = [g.start] :=
        (start.resolve_left (by simp [Ferry.brief, Ferry.document])).2
      exact ⟨g, rfl, (alike Ferry.wordy Ferry.relisted).1 g built, (List.cons.inj only).1.symm,
        node, found, describes⟩

end Document

end ScenarioGraph
