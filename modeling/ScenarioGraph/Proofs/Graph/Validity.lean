/-
# ScenarioGraph.Proofs.Graph.Validity -- which declarations are built

A build looks at nodes, guards, labels and the start rule in a fixed order and stops at
the first defect.  `Declaration.Valid` asks the same of what is declared, in no order and
before labels are filled in and names are gathered into sets; `Declaration.Shows` says of
each defect where the names that it carries are to be found.

* `Condition.mem_names_iff`: the names gathered from a condition are those that it
  mentions, at any depth.
* `NodeDeclaration.sound_toNode_iff`, `NodeDeclaration.shows_of_defect?`: one node.
* `Declaration.exists_findStart_iff`, `Declaration.shows_of_findStart`: the start rule.
* `build_decides_validity`: what is built is valid, and what is not built shows the
  defect that is reported.
-/
import ScenarioGraph.Proofs.Graph.WellFormed
import Mathlib.Data.List.Duplicate
import Mathlib.Data.List.Nodup

namespace ScenarioGraph

set_option autoImplicit false

variable {κ : Type}

/-! ## Names in conditions -/

namespace Condition

/-- The name stands in the condition, at any depth. -/
inductive Mentions (name : Name) : Condition → Prop where
  | sequence {names : List Name} (member : name ∈ names) : Mentions name (.sequence names)
  | older (newer : Name) : Mentions name (.moreRecent name newer)
  | newer (older : Name) : Mentions name (.moreRecent older name)
  | lastIn {names : NameSet} (member : name ∈ names) : Mentions name (.lastIn names)
  | andLeft {left : Condition} (right : Condition) (mentioned : Mentions name left) :
      Mentions name (.and left right)
  | andRight (left : Condition) {right : Condition} (mentioned : Mentions name right) :
      Mentions name (.and left right)
  | orLeft {left : Condition} (right : Condition) (mentioned : Mentions name left) :
      Mentions name (.or left right)
  | orRight (left : Condition) {right : Condition} (mentioned : Mentions name right) :
      Mentions name (.or left right)
  | not {inner : Condition} (mentioned : Mentions name inner) : Mentions name (.not inner)

/-- The names gathered from a condition are those that it mentions. -/
theorem mem_names_iff {condition : Condition} {name : Name} :
    name ∈ condition.names ↔ condition.Mentions name := by
  constructor
  · intro gathered
    induction condition with
    | sequence names => exact .sequence (NameSet.mem_ofList.1 gathered)
    | moreRecent older newer =>
        rcases List.mem_pair.1 (NameSet.mem_ofList.1 gathered) with rfl | rfl
        · exact .older newer
        · exact .newer older
    | lastIn names => exact .lastIn gathered
    | and left right ihLeft ihRight =>
        rcases NameSet.mem_union.1 gathered with inLeft | inRight
        · exact .andLeft right (ihLeft inLeft)
        · exact .andRight left (ihRight inRight)
    | or left right ihLeft ihRight =>
        rcases NameSet.mem_union.1 gathered with inLeft | inRight
        · exact .orLeft right (ihLeft inLeft)
        · exact .orRight left (ihRight inRight)
    | not inner ih => exact .not (ih gathered)
  · intro mentioned
    induction mentioned with
    | sequence member => exact NameSet.mem_ofList.2 member
    | older newer => exact NameSet.mem_ofList.2 (by simp)
    | newer older => exact NameSet.mem_ofList.2 (by simp)
    | lastIn member => exact member
    | andLeft _ _ ih | orLeft _ _ ih => exact NameSet.mem_union.2 (Or.inl ih)
    | andRight _ _ ih | orRight _ _ ih => exact NameSet.mem_union.2 (Or.inr ih)
    | not _ ih => exact ih

end Condition

/-! ## The first of something -/

/-- A text that is found to occur before does so in the list, or it came before it. -/
theorem duplicate_of_firstRepeat? {seen texts : List String} {text : String}
    (found : firstRepeat? seen texts = some text) :
    text ∈ seen ∧ text ∈ texts ∨ texts.Duplicate text := by
  induction texts generalizing seen with
  | nil => cases found
  | cons first rest ih =>
      rw [firstRepeat?] at found
      split at found
      · rename_i before
        obtain rfl := Option.some.inj found
        exact Or.inl ⟨before, List.mem_cons_self⟩
      · rcases ih found with ⟨before, later⟩ | twice
        · rcases List.mem_cons.1 before with rfl | before
          · exact Or.inr (.cons_mem later)
          · exact Or.inl ⟨before, List.mem_cons_of_mem _ later⟩
        · exact Or.inr (.cons_duplicate twice)

theorem duplicate_of_firstRepeat?_nil {texts : List String} {text : String}
    (found : firstRepeat? [] texts = some text) : texts.Duplicate text :=
  (duplicate_of_firstRepeat? found).resolve_left fun before => List.not_mem_nil before.1

theorem NameSet.isEmpty_ofList (names : List Name) : (ofList names).isEmpty = names.isEmpty := by
  rw [Bool.eq_iff_iff, isEmpty, List.isEmpty_iff, List.isEmpty_iff,
    List.eq_nil_iff_forall_not_mem, List.eq_nil_iff_forall_not_mem]
  exact forall_congr' fun name => not_congr mem_ofList

/-- A name of the set that is found not to be allowed. -/
theorem NameSet.of_find?_eq_some {names : NameSet} {allowed : Name → Prop}
    [DecidablePred allowed] {name : Name}
    (found : names.toList.find? (fun name => decide (¬ allowed name)) = some name) :
    name ∈ names ∧ ¬ allowed name := by
  have refused := List.find?_some found
  exact ⟨List.mem_of_find?_eq_some found, of_decide_eq_true refused⟩

/-! ## Nodes -/

namespace NodeDeclaration

variable {node : NodeDeclaration κ} {declared : List Name} {guard : Guard} {defect : GraphError}

/-- The guard stands on an input or on a check of the node. -/
def Bears (node : NodeDeclaration κ) (guard : Guard) : Prop :=
  (∃ input ∈ node.inputs, input.guard = some guard) ∨
    ∃ check ∈ node.checks, check.guard = some guard

/-- The labels of the inputs, `input#k` where the label at place `k` is left out. -/
def labels (node : NodeDeclaration κ) : List String :=
  node.inputs.mapIdx fun k input => input.label.getD (defaultLabel k)

/-- What is asked of a node apart from the labels of its inputs, given the names that are
declared. -/
structure ValidButLabels (declared : List Name) (node : NodeDeclaration κ) : Prop where
  predecessors : ∀ name ∈ node.predecessors, name ∈ declared
  afters : ∀ names, node.Bears (.after names) → ∀ name ∈ names, name ∈ node.predecessors
  conditions : ∀ condition, node.Bears (.when condition) →
    ∀ name, condition.Mentions name → name ∈ declared
  checks : (node.checks.map Check.name).Nodup

/-- What is asked of a node. -/
structure Valid (declared : List Name) (node : NodeDeclaration κ) : Prop
    extends node.ValidButLabels declared where
  labels : node.labels.Nodup

/-- The node has the defect, and the names that the defect carries. -/
inductive Shows (declared : List Name) (node : NodeDeclaration κ) : GraphError → Prop where
  | predecessor {name : Name} (listed : name ∈ node.predecessors) (unknown : name ∉ declared) :
      Shows declared node (.unknownPredecessor node.name name)
  | after {names : NameSet} {name : Name} (borne : node.Bears (.after names))
      (member : name ∈ names) (apart : name ∉ node.predecessors) :
      Shows declared node (.guardNotPredecessor node.name name)
  | condition {condition : Condition} {name : Name} (borne : node.Bears (.when condition))
      (mentioned : condition.Mentions name) (unknown : name ∉ declared) :
      Shows declared node (.unknownConditionName node.name name)
  | label {label : String} (twice : node.labels.Duplicate label) :
      Shows declared node (.repeatedLabel node.name label)
  | check {check : Name} (twice : (node.checks.map Check.name).Duplicate check) :
      Shows declared node (.repeatedCheck node.name check)

theorem mem_predecessors_toNode {name : Name} :
    name ∈ node.toNode.predecessors ↔ name ∈ node.predecessors :=
  NameSet.mem_ofList

theorem map_label_toNode (node : NodeDeclaration κ) :
    node.toNode.inputs.map Input.label = node.labels := by
  simp only [toNode, labels, List.mapIdx_eq_zipIdx_map, List.map_map]
  rfl

theorem mem_guards_toNode : guard ∈ node.toNode.guards ↔ node.Bears guard := by
  have inputs : guard ∈ node.toNode.inputs.filterMap Input.guard ↔
      ∃ input ∈ node.inputs, input.guard = some guard := by
    constructor
    · intro borne
      obtain ⟨input, made, guarded⟩ := List.mem_filterMap.1 borne
      obtain ⟨k, bound, rfl⟩ := List.mem_mapIdx.1 made
      exact ⟨node.inputs[k], List.getElem_mem bound, guarded⟩
    · rintro ⟨input, listed, guarded⟩
      obtain ⟨k, bound, rfl⟩ := List.getElem_of_mem listed
      exact List.mem_filterMap.2 ⟨_, List.mem_mapIdx.2 ⟨k, bound, rfl⟩, guarded⟩
  rw [Node.guards, List.mem_append, inputs, List.mem_filterMap]
  rfl

/-- A declared node is valid exactly if the node made of it is sound. -/
theorem sound_toNode_iff : node.toNode.Sound declared ↔ node.Valid declared := by
  constructor
  · intro sound
    refine ⟨⟨?_, ?_, ?_, sound.checks⟩, node.map_label_toNode ▸ sound.labels⟩
    · exact fun name listed => sound.predecessors name (mem_predecessors_toNode.2 listed)
    · intro names borne name member
      exact mem_predecessors_toNode.1 (sound.guards _ (mem_guards_toNode.2 borne) name member)
    · intro condition borne name mentioned
      exact sound.guards _ (mem_guards_toNode.2 borne) name (Condition.mem_names_iff.2 mentioned)
  · intro valid
    refine ⟨?_, ?_, node.map_label_toNode.symm ▸ valid.labels, valid.checks⟩
    · exact fun name listed => valid.predecessors name (mem_predecessors_toNode.1 listed)
    · intro guard listed
      have borne := mem_guards_toNode.1 listed
      cases guard with
      | after names =>
          intro name member
          exact mem_predecessors_toNode.2 (valid.afters names borne name member)
      | when condition =>
          intro name gathered
          exact valid.conditions condition borne name (Condition.mem_names_iff.1 gathered)

theorem shows_of_guardDefect? (borne : node.Bears guard)
    (found : node.toNode.guardDefect? declared guard = some defect) :
    node.Shows declared defect := by
  cases guard with
  | after names =>
      obtain ⟨name, first, rfl⟩ := Option.map_eq_some_iff.1 found
      obtain ⟨member, apart⟩ := NameSet.of_find?_eq_some first
      exact .after borne member (mt mem_predecessors_toNode.2 apart)
  | when condition =>
      obtain ⟨name, first, rfl⟩ := Option.map_eq_some_iff.1 found
      obtain ⟨gathered, unknown⟩ := NameSet.of_find?_eq_some first
      exact .condition borne (Condition.mem_names_iff.1 gathered) unknown

/-- The defect found in a node is there. -/
theorem shows_of_defect? (found : node.toNode.defect? declared = some defect) :
    node.Shows declared defect := by
  simp only [Node.defect?, Option.orElse_eq_orElse, Option.orElse_eq_or, Option.or_eq_some_iff,
    Option.map_eq_some_iff] at found
  rcases found with ⟨name, first, rfl⟩ | ⟨-, found⟩
  · obtain ⟨listed, unknown⟩ := NameSet.of_find?_eq_some first
    exact .predecessor (mem_predecessors_toNode.1 listed) unknown
  rcases found with found | ⟨-, found⟩
  · obtain ⟨guard, listed, found⟩ := List.exists_of_findSome?_eq_some found
    exact shows_of_guardDefect? (mem_guards_toNode.1 listed) found
  rcases found with ⟨label, first, rfl⟩ | ⟨-, check, first, rfl⟩
  · rw [map_label_toNode] at first
    exact .label (duplicate_of_firstRepeat?_nil first)
  · exact .check (duplicate_of_firstRepeat?_nil first)

end NodeDeclaration

/-! ## Declarations -/

namespace Declaration

variable {d : Declaration κ} {name : Name} {defect : GraphError}

/-- A node of this name lists no predecessors. -/
def Root (d : Declaration κ) (name : Name) : Prop :=
  ∃ node ∈ d.nodes, node.name = name ∧ node.predecessors = []

/-- The start rule.  A designated start node is declared, and every other node lists
predecessors.  If none is designated, one node and no other is without predecessors. -/
def HasStart (d : Declaration κ) : Prop :=
  (∃ start ∈ d.names, d.start = some start ∧
      ∀ node ∈ d.nodes, node.name ≠ start → node.predecessors ≠ []) ∨
    d.start = none ∧ d.nodes.countP (fun node => node.predecessors.isEmpty) = 1

/-- What is asked of a declaration apart from the labels of inputs. -/
structure ValidButLabels (d : Declaration κ) : Prop where
  names : d.names.Nodup
  nodes : ∀ node ∈ d.nodes, node.ValidButLabels d.names
  start : d.HasStart

/-- What is asked of a declaration. -/
structure Valid (d : Declaration κ) : Prop extends d.ValidButLabels where
  labels : ∀ node ∈ d.nodes, node.labels.Nodup

/-- The declaration has the defect, and the names that the defect carries. -/
inductive Shows (d : Declaration κ) : GraphError → Prop where
  | node {node : NodeDeclaration κ} {defect : GraphError} (listed : node ∈ d.nodes)
      (shown : node.Shows d.names defect) : Shows d defect
  | repeatedNode {name : Name} (twice : d.names.Duplicate name) : Shows d (.repeatedNode name)
  | unknownStart {start : Name} (designated : d.start = some start)
      (undeclared : start ∉ d.names) : Shows d (.unknownStart start)
  | noStart (undesignated : d.start = none)
      (entered : ∀ node ∈ d.nodes, node.predecessors ≠ []) : Shows d .noStart
  | severalStarts {starts : List Name} (several : 2 ≤ starts.length) (distinct : starts.Nodup)
      (exactly : ∀ name, name ∈ starts ↔ name ∈ d.names ∧ (d.start = some name ∨ d.Root name)) :
      Shows d (.severalStarts starts)

theorem roots_eq (d : Declaration κ) :
    d.roots =
      (d.nodes.filter fun node => node.predecessors.isEmpty).map NodeDeclaration.name := by
  simp only [roots, declared, List.filter_map, List.map_map]
  have same : (fun node : Node κ => node.predecessors.isEmpty) ∘ NodeDeclaration.toNode =
      fun node => node.predecessors.isEmpty :=
    funext fun node => NameSet.isEmpty_ofList node.predecessors
  rw [same]
  rfl

theorem mem_roots_iff : name ∈ d.roots ↔ d.Root name := by
  simp only [roots_eq, Root, List.mem_map, List.mem_filter, List.isEmpty_iff, and_assoc,
    and_comm (a := NodeDeclaration.name _ = name)]

theorem length_roots (d : Declaration κ) :
    d.roots.length = d.nodes.countP fun node => node.predecessors.isEmpty := by
  rw [roots_eq, List.length_map, List.countP_eq_length_filter]

theorem nodup_roots (distinct : d.names.Nodup) : d.roots.Nodup := by
  rw [roots_eq]
  exact distinct.sublist (List.filter_sublist.map NodeDeclaration.name)

/-- There is a start node exactly if the start rule is kept. -/
theorem exists_findStart_iff : (∃ start, d.findStart = .ok start) ↔ d.HasStart := by
  simp only [findStart_eq_ok_iff, HasStart, ← length_roots]
  constructor
  · rintro ⟨start, listed, ⟨designated, only⟩ | ⟨undesignated, one⟩⟩
    · refine Or.inl ⟨start, listed, designated, fun node member other none => other ?_⟩
      exact only node.name (mem_roots_iff.2 ⟨node, member, rfl, none⟩)
    · exact Or.inr ⟨undesignated, by rw [one, List.length_singleton]⟩
  · rintro (⟨start, listed, designated, entered⟩ | ⟨undesignated, one⟩)
    · refine ⟨start, listed, Or.inl ⟨designated, fun root isRoot => ?_⟩⟩
      obtain ⟨node, member, rfl, none⟩ := mem_roots_iff.1 isRoot
      by_contra other
      exact entered node member other none
    · obtain ⟨start, one⟩ := List.length_eq_one_iff.1 one
      exact ⟨start, mem_names_of_mem_roots (by simp [one]), Or.inr ⟨undesignated, one⟩⟩

/-- A declaration is valid if its nodes are, their names differ and the start rule is kept. -/
theorem valid_iff :
    d.Valid ↔ (d.names.Nodup ∧ ∀ node ∈ d.nodes, node.Valid d.names) ∧ d.HasStart := by
  constructor
  · intro valid
    have nodes : ∀ node ∈ d.nodes, node.Valid d.names := fun node listed =>
      ⟨valid.nodes node listed, valid.labels node listed⟩
    exact ⟨⟨valid.names, nodes⟩, valid.start⟩
  · rintro ⟨⟨names, nodes⟩, start⟩
    exact ⟨⟨names, fun node listed => (nodes node listed).toValidButLabels, start⟩,
      fun node listed => (nodes node listed).labels⟩

/-- Where no start node is found, the start rule is broken in the way that is reported. -/
theorem shows_of_findStart (distinct : d.names.Nodup) (failed : d.findStart = .error defect) :
    d.Shows defect := by
  unfold findStart at failed
  cases designated : d.start with
  | some start =>
      simp only [designated] at failed
      split at failed
      · rename_i undeclared
        cases failed
        exact .unknownStart designated undeclared
      rename_i declared
      split at failed
      · cases failed
      rename_i others
      cases failed
      have listed : start ∈ d.names := Decidable.not_not.1 declared
      refine .severalStarts ?_ ?_ fun name => ?_
      · have := List.length_pos_of_ne_nil (mt List.isEmpty_iff.2 others)
        rw [List.length_cons]
        omega
      · exact List.nodup_cons.2 ⟨by simp, (nodup_roots distinct).filter _⟩
      · by_cases same : name = start
        · simp [same, listed, designated]
        · have isRoot : name ∈ d.roots → name ∈ d.names := mem_names_of_mem_roots
          simpa [designated, same, Ne.symm same, mem_roots_iff] using isRoot
  | none =>
      simp only [designated] at failed
      split at failed
      · rename_i noRoots
        cases failed
        refine .noStart designated fun node member none => ?_
        have isRoot : node.name ∈ d.roots := mem_roots_iff.2 ⟨node, member, rfl, none⟩
        rw [noRoots] at isRoot
        cases isRoot
      · cases failed
      · rename_i notNone notOne
        cases failed
        refine .severalStarts ?_ (nodup_roots distinct) fun name => ?_
        · rcases roots : d.roots with _ | ⟨first, _ | ⟨second, rest⟩⟩
          · exact absurd roots notNone
          · exact absurd roots (notOne first)
          · simp
        · simp only [designated, reduceCtorEq, false_or, ← mem_roots_iff]
          exact (and_iff_right_of_imp mem_names_of_mem_roots).symm

theorem shows_of_defect? (found : d.defect? = some defect) : d.Shows defect := by
  simp only [defect?, Option.orElse_eq_orElse, Option.orElse_eq_or, Option.or_eq_some_iff,
    Option.map_eq_some_iff] at found
  rcases found with ⟨name, first, rfl⟩ | ⟨-, found⟩
  · exact .repeatedNode (duplicate_of_firstRepeat?_nil first)
  · obtain ⟨node, made, found⟩ := List.exists_of_findSome?_eq_some found
    obtain ⟨node, listed, rfl⟩ := List.mem_map.1 made
    exact .node listed (NodeDeclaration.shows_of_defect? found)

theorem exists_build_iff :
    (∃ g, d.build = .ok g) ↔ d.defect? = none ∧ ∃ start, d.findStart = .ok start := by
  constructor
  · rintro ⟨g, built⟩
    obtain ⟨sound, started, -, -⟩ := build_eq_ok_iff.1 built
    exact ⟨sound, g.start, started⟩
  · rintro ⟨sound, start, started⟩
    exact ⟨{ nodes := _, start, hooks := d.hooks }, build_eq_ok_iff.2 ⟨sound, started, rfl, rfl⟩⟩

end Declaration

/-- **A build decides validity.**  A declaration is built exactly if the names of its nodes
differ, predecessors and the names in conditions are declared, guards on the last node
name predecessors of their own node, labels and checks of a node differ, and the start
rule is kept.  Where the build fails, the declaration shows the defect that is reported. -/
theorem build_decides_validity (d : Declaration κ) :
    ((∃ g, d.build = .ok g) ↔ d.Valid) ∧
      ∀ defect, d.build = .error defect → d.Shows defect := by
  constructor
  · rw [Declaration.exists_build_iff, Declaration.defect?_eq_none_iff,
      Declaration.exists_findStart_iff, Declaration.declared, List.forall_mem_map]
    simp only [NodeDeclaration.sound_toNode_iff]
    exact Declaration.valid_iff.symm
  · intro defect failed
    rcases Declaration.build_eq_error_iff.1 failed with found | ⟨sound, failed⟩
    · exact Declaration.shows_of_defect? found
    · have distinct := (Declaration.defect?_eq_none_iff.1 sound).1
      exact Declaration.shows_of_findStart distinct failed

namespace Haunted

/-- The check of a node looks back, deep inside its condition, at a node that is not
declared. -/
def declaration : Declaration Unit :=
  { start := none
    hooks := ⟨none, none⟩
    nodes :=
      [ { name := "House"
          predecessors := []
          inputs := []
          checks :=
            [ ⟨"quiet", some (.when (.not (.and (.lastIn (NameSet.ofList ["House"]))
                (.moreRecent "House" "Ghost")))), ()⟩ ] } ] }

theorem build_declaration :
    declaration.build = .error (.unknownConditionName "House" "Ghost") := by
  decide +kernel

end Haunted

/-- The turnstile is valid; the haunted house is not, and shows a ghost. -/
theorem haunted_build_decided :
    Turnstile.declaration.Valid ∧ ¬ Haunted.declaration.Valid ∧
      Haunted.declaration.build = .error (.unknownConditionName "House" "Ghost") ∧
      Haunted.declaration.Shows (.unknownConditionName "House" "Ghost") := by
  have built : ∃ g, Turnstile.declaration.build = .ok g := ⟨_, Turnstile.build_declaration⟩
  obtain ⟨decided, shown⟩ := build_decides_validity Haunted.declaration
  refine ⟨(build_decides_validity Turnstile.declaration).1.1 built, ?_,
    Haunted.build_declaration, shown _ Haunted.build_declaration⟩
  intro valid
  obtain ⟨g, made⟩ := decided.2 valid
  rw [Haunted.build_declaration] at made
  cases made

end ScenarioGraph
