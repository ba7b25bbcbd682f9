/-
# ScenarioGraph.Proofs.Walk.Selection -- what loop expansion lists, and in which order

Expansion asks nothing of its loops: they need not be cycles, may be empty, and may stand in
an entry twice.  A selection says for every node of a sequence which of its loops to take, by
its place in the entry of the node; a node without loops leaves no choice and stays.  The
expansions of a sequence are the results of all its selections, and come in the order of the
selections, in which the leftmost node counts most.  Different selections may have one
result, within a sequence or across sequences; only the first of equal results is kept.

* `Selects`: the result of a selection; `selections` lists the selections in order.
* `forall₂_selects`: substitution lists their results.
* `expandLoops_exact`: all of it, for any sequences, loops and number of repetitions.
-/
import ScenarioGraph.Proofs.Walk.Loop
import ScenarioGraph.Proofs.Attempt

namespace ScenarioGraph

set_option autoImplicit false

/-! ## Selections -/

/-- The nodes of the first sequence give way to the choices at the places selected for them,
which make up the second. -/
inductive Selects (offers : Name → Nat → NodeSequence → Prop) :
    NodeSequence → List Nat → NodeSequence → Prop where
  | nil : Selects offers [] [] []
  | cons {name : Name} {k : Nat} {choice rest result : NodeSequence} {selection : List Nat}
      (offered : offers name k choice) (later : Selects offers rest selection result) :
      Selects offers (name :: rest) (k :: selection) (choice ++ result)

/-- All selections from so many choices for each node, in lexicographic order. -/
def selections (choices : Name → List NodeSequence) : NodeSequence → List (List Nat)
  | [] => [[]]
  | name :: rest =>
      (List.range (choices name).length).flatMap fun k => (selections choices rest).map (k :: ·)

section Selections

variable {choices : Name → List NodeSequence} {nodes : NodeSequence}

theorem pairwise_lt_selections (choices : Name → List NodeSequence) (nodes : NodeSequence) :
    (selections choices nodes).Pairwise (· < ·) := by
  induction nodes with
  | nil => exact List.pairwise_singleton _ _
  | cons name rest ih =>
      rw [selections, List.pairwise_flatMap]
      constructor
      · intro k _
        rw [List.pairwise_map]
        exact ih.imp fun below => List.cons_lt_cons_iff.2 (Or.inr ⟨rfl, below⟩)
      · refine List.pairwise_lt_range.imp ?_
        rintro k l below first inFirst second inSecond
        obtain ⟨_, -, rfl⟩ := List.mem_map.1 inFirst
        obtain ⟨_, -, rfl⟩ := List.mem_map.1 inSecond
        exact List.cons_lt_cons_iff.2 (Or.inl below)

/-- Substitution lists the results of the selections, in their order. -/
theorem forall₂_selects (choices : Name → List NodeSequence) (nodes : NodeSequence) :
    List.Forall₂ (Selects (fun name k choice => (choices name)[k]? = some choice) nodes)
      (selections choices nodes) (substitutions choices nodes) := by
  induction nodes with
  | nil => exact .cons .nil .nil
  | cons name rest ih =>
      have places : List.Forall₂ (fun k choice => (choices name)[k]? = some choice)
          (List.range (choices name).length) (choices name) := by
        rw [List.forall₂_iff_get]
        refine ⟨List.length_range, fun k _ inside => ?_⟩
        simp
      refine List.rel_flatMap places ?_
      intro k choice offered
      rw [List.forall₂_map_left_iff, List.forall₂_map_right_iff]
      exact ih.imp fun _ _ later => .cons offered later

/-- The selections listed are those that have a result. -/
theorem mem_selections_iff {selection : List Nat} :
    selection ∈ selections choices nodes ↔
      ∃ result, Selects (fun name k choice => (choices name)[k]? = some choice) nodes
        selection result := by
  constructor
  · intro listed
    obtain ⟨result, -, selects⟩ := exists_mem_of_forall₂ (forall₂_selects choices nodes).flip listed
    exact ⟨result, selects⟩
  · rintro ⟨result, selects⟩
    induction selects with
    | nil => exact List.mem_singleton_self []
    | @cons name k choice rest result selection offered later ih =>
        obtain ⟨inside, -⟩ := List.getElem?_eq_some_iff.1 offered
        exact List.mem_flatMap.2 ⟨k, List.mem_range.2 inside, List.mem_map_of_mem ih⟩

end Selections

/-! ## Expansion of any sequences -/

/-- In place of a node may stand the loop at place `k` of its entry, walked `repetitions`
times in a row; a node without loops stays, which is its only choice. -/
inductive Replaces (loops : List (Name × List NodeSequence)) (repetitions : Nat) (name : Name) :
    Nat → NodeSequence → Prop where
  | loop {found : List NodeSequence} {loop : NodeSequence} {k : Nat}
      (entry : loops.lookup name = some found) (here : found[k]? = some loop) :
      Replaces loops repetitions name k (repeatLoop loop repetitions)
  | stay (none : ∀ found, loops.lookup name = some found → found = []) :
      Replaces loops repetitions name 0 [name]

/-- The results of all selections for a sequence, in lexicographic order of the selections. -/
def ExpandsTo (loops : List (Name × List NodeSequence)) (repetitions : Nat) (nodes : NodeSequence)
    (results : List NodeSequence) : Prop :=
  ∃ selections : List (List Nat), selections.Pairwise (· < ·) ∧
    (∀ selection, selection ∈ selections ↔
      ∃ result, Selects (Replaces loops repetitions) nodes selection result) ∧
    List.Forall₂ (Selects (Replaces loops repetitions) nodes) selections results

section Replacements

variable {loops : List (Name × List NodeSequence)} {repetitions : Nat} {name : Name}

theorem getD_lookup_eq_nil_iff :
    (loops.lookup name).getD [] = [] ↔ ∀ found, loops.lookup name = some found → found = [] := by
  cases loops.lookup name with
  | none => simp
  | some found => simp

/-- What may stand in place of a node is found among its choices, at that place. -/
theorem replaces_iff {k : Nat} {choice : NodeSequence} :
    Replaces loops repetitions name k choice ↔
      (choicesAt loops repetitions name)[k]? = some choice := by
  rw [choicesAt_eq]
  constructor
  · intro replaces
    cases replaces with
    | @loop found loop k entry here =>
        have some : found ≠ [] := List.ne_nil_of_mem (List.mem_of_getElem? here)
        rw [entry, Option.getD_some, if_neg some, List.getElem?_map, here, Option.map_some]
    | stay none => rw [if_pos (getD_lookup_eq_nil_iff.2 none), List.getElem?_cons_zero]
  · intro offered
    split at offered
    · rename_i noLoop
      rw [List.getElem?_singleton] at offered
      obtain ⟨rfl, rfl⟩ : k = 0 ∧ [name] = choice := by
        split at offered
        · exact ⟨‹k = 0›, Option.some.inj offered⟩
        · cases offered
      exact .stay (getD_lookup_eq_nil_iff.1 noLoop)
    · rw [List.getElem?_map, Option.map_eq_some_iff] at offered
      obtain ⟨loop, here, rfl⟩ := offered
      cases entry : loops.lookup name with
      | none =>
          rw [entry] at here
          cases here
      | some found =>
          rw [entry] at here
          exact .loop entry here

end Replacements

/-- Substitution lists the expansions of a sequence. -/
theorem expandsTo_substitutions (loops : List (Name × List NodeSequence)) (repetitions : Nat)
    (nodes : NodeSequence) :
    ExpandsTo loops repetitions nodes
      (substitutions (choicesAt loops repetitions) nodes) := by
  have offers : Replaces loops repetitions =
      fun name k choice => (choicesAt loops repetitions name)[k]? = some choice := by
    funext name k choice
    exact propext replaces_iff
  rw [ExpandsTo, offers]
  exact ⟨selections _ nodes, pairwise_lt_selections _ nodes, fun _ => mem_selections_iff,
    forall₂_selects _ nodes⟩

/-- **Loop expansion lists all selections in order.**  Whatever the sequences and the loops,
without repetitions the sequences stay as they are.  Otherwise each gives way to the results
of all its selections, one repeated loop for each node that has loops and the node itself for
each other, in lexicographic order of the selections; and of equal results, whichever
sequences they come from, only the first is kept. -/
theorem expandLoops_exact (sequences : List NodeSequence)
    (loops : List (Name × List NodeSequence)) :
    expandLoops sequences loops 0 = sequences ∧
      ∀ repetitions, 1 ≤ repetitions →
        ∃ blocks : List (List NodeSequence),
          List.Forall₂ (ExpandsTo loops repetitions) sequences blocks ∧
            expandLoops sequences loops repetitions = blocks.flatten.eraseDups := by
  refine ⟨rfl, fun repetitions positive => ?_⟩
  refine ⟨sequences.map (substitutions (choicesAt loops repetitions)), ?_, ?_⟩
  · rw [List.forall₂_map_right_iff, List.forall₂_same]
    exact fun nodes _ => expandsTo_substitutions loops repetitions nodes
  · rw [expandLoops_of_ne_zero sequences (by omega), firstOccurrences_eq_eraseDups,
      List.flatMap_def]

namespace Maze

/-- A corner with one loop twice, a hall without loops, and a trapdoor whose loop is empty. -/
def loops : List (Name × List NodeSequence) :=
  [ ("Corner", [["Corner", "Corner"], ["Corner", "Hall", "Corner"], ["Corner", "Corner"]]),
    ("Hall", []),
    ("Trapdoor", [[]]) ]

def sequences : List NodeSequence := [["Corner", "Hall"], ["Trapdoor"], []]

end Maze

/-- The repeated loop of the corner and the two empty results are kept once. -/
theorem maze_expandLoops_exact :
    1 ≤ 2 ∧
      (∃ blocks : List (List NodeSequence),
        List.Forall₂ (ExpandsTo Maze.loops 2) Maze.sequences blocks ∧
          expandLoops Maze.sequences Maze.loops 2 = blocks.flatten.eraseDups) ∧
      expandLoops Maze.sequences Maze.loops 2 =
        [ ["Corner", "Corner", "Corner", "Hall"],
          ["Corner", "Hall", "Corner", "Hall", "Corner", "Hall"],
          [] ] :=
  ⟨by decide, (expandLoops_exact Maze.sequences Maze.loops).2 2 (by decide), by decide +kernel⟩

end ScenarioGraph
