/-
# ScenarioGraph.Proofs.Scenario.Sequence -- the node sequences of an enumeration

Scenarios are named sequences, and naming changes no sequence.  The sequences
from a node are its trails with each node replaced by one of `Graph.loopsAt`: the
repeated cycles of the node, or the node alone.

* `scenariosFrom_eq_ok`, `overview_eq_ok`: from a declared node the enumeration always
  succeeds.
* `mem_sequences`: a sequence is enumerated exactly if it is a substitution of a
  trail.
-/
import ScenarioGraph.Scenario
import ScenarioGraph.Proofs.Walk.Trail
import ScenarioGraph.Proofs.Walk.Loop

namespace ScenarioGraph

set_option autoImplicit false

variable {κ : Type}

/-! ## Naming keeps the sequences -/

theorem map_nodes_nameNext (sequences : List NodeSequence) (k : Nat) (taken : Std.TreeSet String) :
    (((sequences.zipIdx k).mapM fun (nodes, index) => nameNext index nodes).run taken).1.map
      Scenario.nodes = sequences := by
  induction sequences generalizing k taken with
  | nil => rfl
  | cons nodes rest ih =>
      rw [List.zipIdx_cons, List.mapM_cons]
      exact congrArg (nodes :: ·) (ih (k + 1) _)

theorem map_nodes_nameScenarios (sequences : List NodeSequence) :
    (nameScenarios sequences).map Scenario.nodes = sequences :=
  map_nodes_nameNext sequences 0 ∅

/-- Naming scenarios does not change which sequences there are. -/
theorem forall_mem_nameScenarios (sequences : List NodeSequence) (P : NodeSequence → Prop) :
    (∀ scenario ∈ nameScenarios sequences, P scenario.nodes) ↔ ∀ nodes ∈ sequences, P nodes := by
  rw [← List.forall_mem_map, map_nodes_nameScenarios]

theorem exists_mem_nameScenarios (sequences : List NodeSequence) (P : NodeSequence → Prop) :
    (∃ scenario ∈ nameScenarios sequences, P scenario.nodes) ↔ ∃ nodes ∈ sequences, P nodes := by
  simpa using not_congr (forall_mem_nameScenarios sequences fun nodes => ¬ P nodes)

/-! ## Sequences of a graph -/

namespace Graph

variable {g : Graph κ} {start name : Name} {repetitions : Nat} {nodes : NodeSequence}

/-- What may stand in place of `name`: its cycles, each walked `repetitions` times, or
the node alone. -/
def loopsAt (g : Graph κ) (repetitions : Nat) (name : Name) : List NodeSequence :=
  if repetitions = 0 ∨ g.cyclesOf name = [] then [[name]]
  else (g.cyclesOf name).map (repeatLoop · repetitions)

/-- The node sequences of the scenarios from `start`. -/
def sequences (g : Graph κ) (start : Name) (repetitions : Nat) : List NodeSequence :=
  expandLoops (trailsOver g.edges start) g.cycles repetitions

theorem scenariosFrom_eq_ok (declared : start ∈ g.names) (repetitions : Nat) :
    g.scenariosFrom start repetitions = .ok (nameScenarios (g.sequences start repetitions)) := by
  rw [scenariosFrom, trails_eq_ok declared, sequences]
  cases repetitions with
  | zero => rfl
  | succ count => rfl

/-- The overview succeeds as well, with the same scenarios. -/
theorem overview_eq_ok (declared : g.start ∈ g.names) (repetitions : Nat) :
    g.overview repetitions = .ok
      { start := g.start
        repetitions
        trails := trailsOver g.edges g.start
        cycles := g.cycles.filter fun entry => !entry.2.isEmpty
        scenarios := nameScenarios (g.sequences g.start repetitions) } := by
  rw [overview, trails_eq_ok declared]
  rfl

theorem choicesAt_cycles (positive : repetitions ≠ 0) (name : Name) :
    choicesAt g.cycles repetitions name = g.loopsAt repetitions name := by
  rw [choicesAt_eq, loopsAt, cyclesOf]
  simp [positive]

theorem sequences_zero (g : Graph κ) (start : Name) :
    g.sequences start 0 = trailsOver g.edges start :=
  rfl

theorem sequences_of_ne_zero (g : Graph κ) (start : Name) (positive : repetitions ≠ 0) :
    g.sequences start repetitions =
      firstOccurrences
        ((trailsOver g.edges start).flatMap (substitutions (g.loopsAt repetitions))) := by
  rw [sequences, expandLoops_of_ne_zero _ positive, funext (choicesAt_cycles positive)]

/-- A sequence is enumerated exactly if it is a trail with loops in place of its nodes. -/
theorem mem_sequences :
    nodes ∈ g.sequences start repetitions ↔
      ∃ trail ∈ trailsOver g.edges start, nodes ∈ substitutions (g.loopsAt repetitions) trail := by
  by_cases never : repetitions = 0
  · subst never
    have alone : ∀ name, g.loopsAt 0 name = [[name]] := fun name => if_pos (Or.inl rfl)
    simp [sequences_zero, substitutions_self alone]
  · rw [sequences_of_ne_zero g start never, firstOccurrences_eq_eraseDups, List.mem_eraseDups,
      List.mem_flatMap]

theorem mem_loopsAt (positive : repetitions ≠ 0) {choice : NodeSequence} :
    choice ∈ g.loopsAt repetitions name ↔
      (g.cyclesOf name = [] ∧ choice = [name]) ∨
      ∃ cycle ∈ g.cyclesOf name, repeatLoop cycle repetitions = choice := by
  unfold loopsAt
  by_cases acyclic : g.cyclesOf name = []
  · simp [acyclic]
  · rw [if_neg (not_or.2 ⟨positive, acyclic⟩), List.mem_map]
    simp [acyclic]

theorem closedWalk_of_mem_loopsAt {choice : NodeSequence}
    (chosen : choice ∈ g.loopsAt repetitions name) :
    g.ClosedWalk name choice := by
  unfold loopsAt at chosen
  split at chosen
  · rw [List.mem_singleton.1 chosen]
    exact ClosedWalk.singleton g name
  · obtain ⟨cycle, found, rfl⟩ := List.mem_map.1 chosen
    exact (closedWalk_of_mem_cyclesOf found).repeatLoop repetitions

theorem loopsAt_ne_nil (g : Graph κ) (repetitions : Nat) (name : Name) :
    g.loopsAt repetitions name ≠ [] := by
  unfold loopsAt
  split
  · exact List.cons_ne_nil _ _
  · rename_i some
    rw [not_or] at some
    exact fun none => some.2 (List.map_eq_nil_iff.1 none)

theorem length_loopsAt (positive : repetitions ≠ 0) (name : Name) :
    (g.loopsAt repetitions name).length = max 1 (g.cyclesOf name).length := by
  unfold loopsAt
  by_cases none : g.cyclesOf name = []
  · simp [none]
  · have := List.length_pos_of_ne_nil none
    rw [if_neg (not_or.2 ⟨positive, none⟩), List.length_map]
    omega

theorem pairwise_forksBelow_loopsAt (g : Graph κ) (repetitions : Nat) (name : Name) :
    (g.loopsAt repetitions name).Pairwise ForksBelow := by
  unfold loopsAt
  split
  · exact List.pairwise_singleton _ _
  · rw [List.pairwise_map]
    exact (g.pairwise_forksBelow_cyclesOf name).imp fun fork => fork.repeatLoop repetitions

end Graph

end ScenarioGraph
