/-
# ScenarioGraph.Proofs.Document.Labels -- which labels a graph keeps

Labels that are given and labels that are left to the default share one space of names.  The
default is made of the place of an input, and no place makes the default of another; so where
labels repeat, either two that are given are equal, or one that is given is the default of an
input without label, at the place of that input.  Nothing makes way for a label that is given:
such a document is refused.  If it is not, labels that are given stay.

* `defaultLabel_injective`: different places have different defaults.
* `NodeDeclaration.exists_collision_of_duplicate`, `NodeDeclaration.Collides.not_nodup`: labels
  repeat exactly if one that is given is the default of an input without label.
* `exists_collision_of_build_eq_error`: without other defects, this is the only one left.
* `explicit_labels_kept`: what becomes of the labels that a document gives.
-/
import ScenarioGraph.Document.Graph
import ScenarioGraph.Proofs.Graph.Representation
import Std.Data.String.ToNat
import Mathlib.Data.List.NodupEquivFin

namespace ScenarioGraph

set_option autoImplicit false

variable {κ : Type}

/-! ## Default labels -/

theorem defaultLabel_injective : Function.Injective defaultLabel := by
  intro k l same
  unfold defaultLabel at same
  exact Nat.repr_injective ((String.append_right_inj _).1 same)

namespace NodeDeclaration

variable {node : NodeDeclaration κ} {declared : List Name} {label : String} {k : Nat}
  {input : InputDeclaration κ}

/-- The labels that are given, in the order of their inputs. -/
def givenLabels (node : NodeDeclaration κ) : List String :=
  node.inputs.filterMap InputDeclaration.label

/-- The input at place `k` has no label, and its default is given to another input. -/
def Collides (node : NodeDeclaration κ) (k : Nat) : Prop :=
  (∃ input, node.inputs[k]? = some input ∧ input.label = none) ∧
    defaultLabel k ∈ node.givenLabels

/-- A label is given to its input, or it is the default for the place of an input without. -/
theorem getElem?_labels_eq_some_iff :
    node.labels[k]? = some label ↔ ∃ input, node.inputs[k]? = some input ∧
      (input.label = some label ∨ input.label = none ∧ defaultLabel k = label) := by
  rw [labels, List.getElem?_mapIdx, Option.map_eq_some_iff]
  refine exists_congr fun input => and_congr_right fun _ => ?_
  cases input.label <;> simp

theorem mem_givenLabels_of_getElem? (here : node.inputs[k]? = some input)
    (given : input.label = some label) : label ∈ node.givenLabels :=
  List.mem_filterMap.2 ⟨input, List.mem_of_getElem? here, given⟩

/-- Inputs at different places are given different labels. -/
theorem label_ne_of_lt {l : Nat} {other : InputDeclaration κ} {first second : String}
    (distinct : node.givenLabels.Nodup) (before : k < l) (here : node.inputs[k]? = some input)
    (there : node.inputs[l]? = some other) (given : input.label = some first)
    (givenToo : other.label = some second) : first ≠ second := by
  have pairwise := List.pairwise_filterMap.1 distinct
  obtain ⟨inside, rfl⟩ := List.getElem?_eq_some_iff.1 here
  obtain ⟨insideToo, rfl⟩ := List.getElem?_eq_some_iff.1 there
  exact List.pairwise_iff_getElem.1 pairwise k l inside insideToo before first given second givenToo

/-- Labels that repeat are one label that is given and one that is left to the default. -/
theorem exists_collision_of_duplicate (distinct : node.givenLabels.Nodup)
    (twice : node.labels.Duplicate label) : ∃ k, node.Collides k ∧ label = defaultLabel k := by
  obtain ⟨k, l, before, atK, atL⟩ := List.duplicate_iff_exists_distinct_get.1 twice
  have atK : node.labels[k.1]? = some label := atK ▸ List.getElem?_eq_getElem k.2
  have atL : node.labels[l.1]? = some label := atL ▸ List.getElem?_eq_getElem l.2
  obtain ⟨input, here, given | ⟨unlabelled, same⟩⟩ := getElem?_labels_eq_some_iff.1 atK
  · obtain ⟨other, there, givenToo | ⟨unlabelled, same⟩⟩ := getElem?_labels_eq_some_iff.1 atL
    · exact absurd rfl (label_ne_of_lt distinct before here there given givenToo)
    · have taken := mem_givenLabels_of_getElem? here given
      exact ⟨l, ⟨⟨other, there, unlabelled⟩, same ▸ taken⟩, same.symm⟩
  · obtain ⟨other, there, given | ⟨-, sameToo⟩⟩ := getElem?_labels_eq_some_iff.1 atL
    · have taken := mem_givenLabels_of_getElem? there given
      exact ⟨k, ⟨⟨input, here, unlabelled⟩, same ▸ taken⟩, same.symm⟩
    · have places : k.1 = l.1 := defaultLabel_injective (same.trans sameToo.symm)
      exact absurd places (Nat.ne_of_lt before)

/-- A collision makes one label of two. -/
theorem Collides.not_nodup (collides : node.Collides k) : ¬ node.labels.Nodup := by
  obtain ⟨⟨input, here, unlabelled⟩, given⟩ := collides
  obtain ⟨other, listed, labelled⟩ := List.mem_filterMap.1 given
  obtain ⟨l, there⟩ := List.mem_iff_getElem?.1 listed
  have atK : node.labels[k]? = some (defaultLabel k) :=
    getElem?_labels_eq_some_iff.2 ⟨input, here, Or.inr ⟨unlabelled, rfl⟩⟩
  have atL : node.labels[l]? = some (defaultLabel k) :=
    getElem?_labels_eq_some_iff.2 ⟨other, there, Or.inl labelled⟩
  intro distinct
  have inside : k < node.labels.length := (List.getElem?_eq_some_iff.1 atK).1
  obtain rfl : k = l := (List.getElem?_inj inside distinct).1 (atK.trans atL.symm)
  rw [Option.some.inj (here.symm.trans there), labelled] at unlabelled
  cases unlabelled

/-- A label that is given stays, unless it is the default of a node's only input. -/
theorem getElem?_settledLabels (here : node.inputs[k]? = some input)
    (given : input.label = some label)
    (apart : ¬ (node.inputs.length = 1 ∧ label = defaultLabel 0)) :
    node.settledLabels[k]? = some label := by
  have atK : node.labels[k]? = some label :=
    getElem?_labels_eq_some_iff.2 ⟨input, here, Or.inl given⟩
  rw [settledLabels, if_neg, atK]
  intro sole
  have length : node.labels.length = node.inputs.length := List.length_mapIdx
  rw [sole] at atK length
  refine apart ⟨length.symm, ?_⟩
  exact List.mem_singleton.1 (List.mem_of_getElem? atK)

end NodeDeclaration

/-! ## Labels as the only defect -/

namespace Declaration

variable {d : Declaration κ} {defect : GraphError}

/-- Where nothing but labels can be wrong, a defect is a label that repeats. -/
theorem exists_duplicate_of_defect? (valid : d.ValidButLabels) (found : d.defect? = some defect) :
    ∃ node ∈ d.nodes, ∃ label, node.labels.Duplicate label ∧
      defect = .repeatedLabel node.name label := by
  simp only [defect?, Option.orElse_eq_orElse, Option.orElse_eq_or, Option.or_eq_some_iff,
    Option.map_eq_some_iff] at found
  rcases found with ⟨name, twice, -⟩ | ⟨-, found⟩
  · exact absurd valid.names (duplicate_of_firstRepeat?_nil twice).not_nodup
  · obtain ⟨made, inDeclared, found⟩ := List.exists_of_findSome?_eq_some found
    obtain ⟨node, listed, rfl⟩ := List.mem_map.1 inDeclared
    have sound := valid.nodes node listed
    cases NodeDeclaration.shows_of_defect? found with
    | predecessor entered unknown => exact absurd (sound.predecessors _ entered) unknown
    | after borne member apart => exact absurd (sound.afters _ borne _ member) apart
    | condition borne mentioned unknown =>
        exact absurd (sound.conditions _ borne _ mentioned) unknown
    | label twice => exact ⟨node, listed, _, twice, rfl⟩
    | check twice => exact absurd sound.checks twice.not_nodup

/-- Where nothing but labels can be wrong and labels are given once, a build fails with the
label of a collision. -/
theorem exists_collision_of_build_eq_error (valid : d.ValidButLabels)
    (distinct : ∀ node ∈ d.nodes, node.givenLabels.Nodup) (failed : d.build = .error defect) :
    ∃ node ∈ d.nodes, ∃ k, node.Collides k ∧
      defect = .repeatedLabel node.name (defaultLabel k) := by
  rcases build_eq_error_iff.1 failed with found | ⟨-, unstarted⟩
  · obtain ⟨node, listed, label, twice, rfl⟩ := exists_duplicate_of_defect? valid found
    obtain ⟨k, collides, rfl⟩ :=
      NodeDeclaration.exists_collision_of_duplicate (distinct node listed) twice
    exact ⟨node, listed, k, collides, rfl⟩
  · obtain ⟨start, started⟩ := exists_findStart_iff.2 valid.start
    rw [started] at unstarted
    cases unstarted

end Declaration

namespace Document

/-- **Labels that are given are kept.**  Where nothing but labels can be wrong and no node
gives one label twice, a document is refused exactly if a label that is given is the default
of an input without label, and then for that label.  Otherwise every input has the label that
it is given, unless it is the only one of its node and given the default. -/
theorem explicit_labels_kept {document : Document} (valid : document.declaration.ValidButLabels)
    (distinct : ∀ entry ∈ document.nodes, (entry.inputs.filterMap InputEntry.label).Nodup) :
    ((∃ g, document.toGraph = .ok g) ↔
        ∀ entry ∈ document.nodes, ∀ k, ¬ entry.declaration.Collides k) ∧
      (∀ defect, document.toGraph = .error defect →
        ∃ entry ∈ document.nodes, ∃ k, entry.declaration.Collides k ∧
          defect = .repeatedLabel entry.name (defaultLabel k)) ∧
      ∀ g, document.toGraph = .ok g → ∀ entry ∈ document.nodes,
        ∃ node, g.node? entry.name = some node ∧
          ∀ (k : Nat) (input : InputEntry) (label : String), entry.inputs[k]? = some input →
            input.label = some label → ¬ (entry.inputs.length = 1 ∧ label = defaultLabel 0) →
              (node.inputs.map Input.label)[k]? = some label := by
  have distinct : ∀ node ∈ document.declaration.nodes, node.givenLabels.Nodup := by
    intro node listed
    obtain ⟨entry, inDocument, rfl⟩ := List.mem_map.1 listed
    rw [NodeDeclaration.givenLabels, NodeEntry.declaration, List.filterMap_map]
    exact distinct entry inDocument
  have refused : ∀ defect, document.toGraph = .error defect →
      ∃ entry ∈ document.nodes, ∃ k, entry.declaration.Collides k ∧
        defect = .repeatedLabel entry.name (defaultLabel k) := by
    intro defect failed
    obtain ⟨node, listed, collision⟩ :=
      Declaration.exists_collision_of_build_eq_error valid distinct failed
    obtain ⟨entry, inDocument, rfl⟩ := List.mem_map.1 listed
    exact ⟨entry, inDocument, collision⟩
  refine ⟨⟨?_, ?_⟩, refused, ?_⟩
  · rintro ⟨g, built⟩ entry listed k collides
    exact collides.not_nodup (Declaration.valid_of_build built (List.mem_map_of_mem listed)).labels
  · intro apart
    cases built : document.toGraph with
    | ok g => exact ⟨g, rfl⟩
    | error defect =>
        obtain ⟨entry, listed, k, collides, -⟩ := refused defect built
        exact absurd collides (apart entry listed k)
  · intro g built entry listed
    obtain ⟨node, found, represents⟩ := exists_node?_represents built (List.mem_map_of_mem listed)
    refine ⟨node, found, fun k input label here given apart => ?_⟩
    have there : entry.declaration.inputs[k]? = some input.declaration := by
      rw [NodeEntry.declaration, List.getElem?_map, here, Option.map_some]
    rw [represents.labels]
    refine NodeDeclaration.getElem?_settledLabels there given ?_
    rwa [NodeEntry.declaration, List.length_map]

namespace Gate

/-- A gate with these inputs, and nothing else in its document. -/
def document (inputs : List InputEntry) : Document :=
  { id := "gate", version := "1.0", start := none, nodes := [⟨"Gate", [], inputs, []⟩] }

theorem validButLabels_document {inputs : List InputEntry}
    (unguarded : ∀ input ∈ inputs, input.guard = none) :
    (document inputs).declaration.ValidButLabels where
  names := List.nodup_singleton "Gate"
  nodes := by
    intro node listed
    obtain rfl := List.mem_singleton.1 listed
    have bare : ∀ guard, ¬ (NodeEntry.mk "Gate" [] inputs []).declaration.Bears guard := by
      rintro guard (⟨_, made, guarded⟩ | ⟨_, made, -⟩)
      · obtain ⟨input, given, rfl⟩ := List.mem_map.1 made
        rw [InputEntry.declaration, unguarded input given] at guarded
        cases guarded
      · cases made
    exact ⟨fun _ entered => absurd entered List.not_mem_nil, fun _ borne => absurd borne (bare _),
      fun _ borne => absurd borne (bare _), List.nodup_nil⟩
  start := Or.inr ⟨rfl, rfl⟩

/-- The first label is that of the third place, where another is given. -/
def mixed : Document := document [⟨some "input#2", none⟩, ⟨none, none⟩, ⟨some "pull", none⟩]

/-- The first label is the default at the second place, where none is given. -/
def taken : Document := document [⟨some "input#1", none⟩, ⟨none, none⟩]

/-- The only input is given the label that it would have by default among others. -/
def sole : Document := document [⟨some "input#0", none⟩]

end Gate

/-- A gate with labels that only look like defaults keeps them. -/
theorem gate_explicit_labels_kept :
    Gate.mixed.declaration.ValidButLabels ∧
      (∀ entry ∈ Gate.mixed.nodes, (entry.inputs.filterMap InputEntry.label).Nodup) ∧
      ∃ g, Gate.mixed.toGraph = .ok g ∧ ∃ node, g.node? "Gate" = some node ∧
        (node.inputs.map Input.label)[0]? = some "input#2" := by
  have valid : Gate.mixed.declaration.ValidButLabels := Gate.validButLabels_document (by simp)
  have distinct : ∀ entry ∈ Gate.mixed.nodes, (entry.inputs.filterMap InputEntry.label).Nodup := by
    decide
  obtain ⟨succeeds, -, kept⟩ := explicit_labels_kept valid distinct
  have apart : ∀ entry ∈ Gate.mixed.nodes, ∀ k, ¬ entry.declaration.Collides k := by
    intro entry listed k collides
    obtain rfl := List.mem_singleton.1 listed
    exact collides.not_nodup (by decide)
  obtain ⟨g, built⟩ := succeeds.2 apart
  obtain ⟨node, found, labels⟩ := kept g built _ List.mem_cons_self
  exact ⟨valid, distinct, g, built, node, found, labels 0 _ "input#2" rfl rfl (by decide)⟩

/-- Labels that are given once in a document that is otherwise sound need not be kept: one may
be taken for a default label, and the document is refused; and one that is the default of a
node's only input gives way to the plain label. -/
theorem gate_labels_not_kept :
    (Gate.taken.declaration.ValidButLabels ∧
      (∀ entry ∈ Gate.taken.nodes, (entry.inputs.filterMap InputEntry.label).Nodup) ∧
      Gate.taken.toGraph = .error (.repeatedLabel "Gate" "input#1")) ∧
    Gate.sole.declaration.ValidButLabels ∧
      (∀ entry ∈ Gate.sole.nodes, (entry.inputs.filterMap InputEntry.label).Nodup) ∧
      (Gate.sole.toGraph.map fun g =>
        (g.node? "Gate").map fun node => node.inputs.map Input.label) = .ok (some ["input"]) :=
  ⟨⟨Gate.validButLabels_document (by simp), by decide, by decide +kernel⟩,
    Gate.validButLabels_document (by simp), by decide, by decide +kernel⟩

end Document

end ScenarioGraph
