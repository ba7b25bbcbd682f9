/-
# ScenarioGraph.Proofs.Plan.Label -- what a step label tells

The label of a step is its position, an underscore and its node.  The digits at its front
are those of the position and no others, since the underscore ends them, whatever the name
of the node begins with; and they tell the position, whatever its number of digits.  What
is left is the node.  So steps at different positions, as all steps of one scenario are,
have different labels.

* `stepLabel_inj`: a label tells the position and the node.
* `Graph.map_label_stepsAfter`: the labels of a plan, one for each node.
* `stepLabels_identify`: the labels of a scenario are all different.
-/
import ScenarioGraph.Proofs.Plan.FirstAmbiguity

namespace ScenarioGraph

set_option autoImplicit false

variable {κ : Type}

/-! ## Labels -/

/-- The digits at the front of a label are those of the position: the underscore ends them. -/
theorem takeWhile_stepLabel (position : Nat) (node : Name) :
    (stepLabel position node).toList.takeWhile Char.isDigit =
      (Decimal.padZeros 4 position).toList := by
  have underscore : "_".toList = ['_'] := by decide
  have digits : ∀ c ∈ (Decimal.padZeros 4 position).toList, c.isDigit = true :=
    fun _ => Decimal.isDigit_of_mem_padZeros
  rw [stepLabel, String.append_assoc, String.toList_append, String.toList_append, underscore,
    List.takeWhile_append_of_pos digits, List.singleton_append,
    List.takeWhile_cons_of_neg (by decide), List.append_nil]

/-- A label tells the position and the node. -/
theorem stepLabel_inj {p q : Nat} {n m : Name} :
    stepLabel p n = stepLabel q m ↔ p = q ∧ n = m := by
  constructor
  · intro same
    have positions : p = q := by
      apply Decimal.padZeros_injective 4
      rw [← String.toList_inj, ← takeWhile_stepLabel p n, same, takeWhile_stepLabel]
    subst positions
    unfold stepLabel at same
    exact ⟨rfl, (String.append_right_inj _).1 same⟩
  · rintro ⟨rfl, rfl⟩
    rfl

namespace Graph

variable {g : Graph κ} {label : String} {history : History} {name : Name}

theorem label_of_stepAt {step : Step κ} (planned : g.stepAt label history name = .ok step) :
    step.label = stepLabel history.size name := by
  obtain ⟨node, -, -, rfl⟩ := stepAt_eq_ok_iff.1 planned
  rfl

/-- Positions are counted on from the history, and each is labelled with its node. -/
theorem map_label_stepsAfter {nodes : NodeSequence} {steps : List (Step κ)}
    (planned : g.stepsAfter label history nodes = .ok steps) :
    steps.map Step.label = nodes.mapIdx fun i name => stepLabel (history.size + i) name := by
  induction nodes generalizing history steps with
  | nil =>
      cases planned
      rfl
  | cons first rest ih =>
      obtain ⟨step, later, now, others, rfl⟩ := stepsAfter_cons_eq_ok_iff.1 planned
      rw [List.map_cons, label_of_stepAt now, ih others, List.mapIdx_cons]
      simp only [Array.size_push, Nat.add_zero, Nat.add_assoc, Nat.add_comm 1]

end Graph

/-- Labels at different positions are different, whatever the nodes. -/
theorem nodup_mapIdx_stepLabel (nodes : NodeSequence) : (nodes.mapIdx stepLabel).Nodup := by
  rw [List.Nodup, List.pairwise_iff_getElem]
  intro i j _ inside before same
  rw [List.getElem_mapIdx, List.getElem_mapIdx, stepLabel_inj] at same
  exact Nat.ne_of_lt before same.1

/-- **Step labels identify steps.**  Two labels are equal only for the same position and the
same node, whatever characters its name is made of.  Every scenario that can be planned has
its nodes labelled with their positions, and no two of its steps have one label. -/
theorem stepLabels_identify :
    (∀ (p q : Nat) (n m : Name), stepLabel p n = stepLabel q m ↔ p = q ∧ n = m) ∧
    ∀ (g : Graph κ) (scenario : Scenario) (steps : List (Step κ)),
      g.steps scenario = .ok steps →
        steps.map Step.label = scenario.nodes.mapIdx stepLabel ∧
          (steps.map Step.label).Nodup := by
  refine ⟨fun p q n m => stepLabel_inj, fun g scenario steps planned => ?_⟩
  rw [Graph.steps_eq] at planned
  have labels := Graph.map_label_stepsAfter planned
  simp only [List.size_toArray, List.length_nil, Nat.zero_add] at labels
  exact ⟨labels, labels ▸ nodup_mapIdx_stepLabel scenario.nodes⟩

namespace Drawers

/-- Drawers with numbers for names, which read like the front of a label. -/
def graph : Graph Unit :=
  { nodes := [⟨"1", NameSet.empty, [], []⟩, ⟨"0001_1", NameSet.ofList ["1"], [], []⟩]
    start := "1"
    hooks := ⟨none, none⟩ }

def scenario : Scenario := ⟨0, "drawers", ["1", "0001_1", "1"]⟩

end Drawers

/-- Three drawers are labelled apart, and so are positions of four digits and of five. -/
theorem drawers_labels_identify :
    stepLabel 1000 "0_1" ≠ stepLabel 10000 "1" ∧
      ∃ steps, Drawers.graph.steps Drawers.scenario = .ok steps ∧
        steps.map Step.label = ["0000_1", "0001_0001_1", "0002_1"] ∧
        (steps.map Step.label).Nodup := by
  obtain ⟨identify, distinct⟩ := stepLabels_identify (κ := Unit)
  constructor
  · intro same
    exact absurd ((identify _ _ _ _).1 same).1 (by decide)
  · have planned : (Drawers.graph.steps Drawers.scenario).isOk = true := by decide +kernel
    cases outcome : Drawers.graph.steps Drawers.scenario with
    | error failure =>
        rw [outcome] at planned
        cases planned
    | ok steps =>
        obtain ⟨labels, apart⟩ := distinct _ _ steps outcome
        exact ⟨steps, rfl, labels.trans (by decide +kernel), apart⟩

end ScenarioGraph
