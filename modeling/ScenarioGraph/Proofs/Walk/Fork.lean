/-
# ScenarioGraph.Proofs.Walk.Fork -- sequences that part ways

Two sequences fork when they differ at some place inside both, so that neither
is a prefix of the other.  `ForksBelow` also says which of them has the lesser
name there.  A fork survives whatever is put in front of both sequences and
whatever follows each of them (`ForksBelow.prepend`, `ForksBelow.append`); this
is what makes a concatenation of pieces tell which pieces were taken.

* `ForksBelow.lt`: a fork decides the lexicographic order.
* `eq_of_isPrefix`: among pairwise forking sequences none is a prefix of another.
* `pairwise_forksBelow_product`: the concatenations of two lists of pairwise
  forking sequences fork pairwise, the first piece varying slowest.
-/
import ScenarioGraph.Walk.Trail

namespace ScenarioGraph

set_option autoImplicit false

/-- After a common beginning, `first` goes on with a lesser name than `second`. -/
inductive ForksBelow : NodeSequence → NodeSequence → Prop where
  | here {low high : Name} (lows highs : NodeSequence) (below : low < high) :
      ForksBelow (low :: lows) (high :: highs)
  | later {first second : NodeSequence} (name : Name) (fork : ForksBelow first second) :
      ForksBelow (name :: first) (name :: second)

/-- After a common beginning, the two sequences go on with different names. -/
def Forks (first second : NodeSequence) : Prop := ForksBelow first second ∨ ForksBelow second first

namespace ForksBelow

variable {first second : NodeSequence}

theorem lt (fork : ForksBelow first second) : first < second := by
  induction fork with
  | here lows highs below => exact List.cons_lt_cons_iff.2 (Or.inl below)
  | later name _ ih => exact List.cons_lt_cons_iff.2 (Or.inr ⟨rfl, ih⟩)

theorem ne (fork : ForksBelow first second) : first ≠ second := by
  induction fork with
  | here lows highs below => exact fun same => String.ne_of_lt below (List.cons.inj same).1
  | later name _ ih => exact fun same => ih (List.cons.inj same).2

theorem not_isPrefix (fork : ForksBelow first second) : ¬ first <+: second ∧ ¬ second <+: first := by
  induction fork with
  | here lows highs below =>
      simp only [List.cons_prefix_cons, not_and]
      exact ⟨fun same => absurd same (String.ne_of_lt below),
        fun same => absurd same.symm (String.ne_of_lt below)⟩
  | later name _ ih =>
      simp only [List.cons_prefix_cons, true_and]
      exact ih

/-- What follows the fork does not matter. -/
theorem append (fork : ForksBelow first second) (after next : NodeSequence) :
    ForksBelow (first ++ after) (second ++ next) := by
  induction fork with
  | here lows highs below => exact .here _ _ below
  | later name _ ih => exact .later name ih

/-- What comes before the fork does not matter. -/
theorem prepend (fork : ForksBelow first second) (before : NodeSequence) :
    ForksBelow (before ++ first) (before ++ second) := by
  induction before with
  | nil => exact fork
  | cons name before ih => exact .later name ih

end ForksBelow

namespace Forks

variable {first second : NodeSequence}

theorem ne (forks : Forks first second) : first ≠ second :=
  forks.elim ForksBelow.ne fun fork => fork.ne.symm

theorem append (forks : Forks first second) (after next : NodeSequence) :
    Forks (first ++ after) (second ++ next) :=
  forks.imp (·.append after next) (·.append next after)

theorem prepend (forks : Forks first second) (before : NodeSequence) :
    Forks (before ++ first) (before ++ second) :=
  forks.imp (·.prepend before) (·.prepend before)

/-- Different members of a list of pairwise forking sequences fork. -/
theorem of_pairwise {sequences : List NodeSequence} (pairwise : sequences.Pairwise ForksBelow)
    (inFirst : first ∈ sequences) (inSecond : second ∈ sequences) (different : first ≠ second) :
    Forks first second := by
  induction pairwise with
  | nil => cases inFirst
  | @cons head rest below _ ih =>
      rcases List.mem_cons.1 inFirst with rfl | laterFirst <;>
        rcases List.mem_cons.1 inSecond with rfl | laterSecond
      · exact absurd rfl different
      · exact Or.inl (below second laterSecond)
      · exact Or.inr (below first laterFirst)
      · exact ih laterFirst laterSecond

theorem not_isPrefix (forks : Forks first second) : ¬ first <+: second :=
  forks.elim (fun fork => fork.not_isPrefix.1) fun fork => fork.not_isPrefix.2

end Forks

/-- Among pairwise forking sequences none is a prefix of another. -/
theorem eq_of_isPrefix {sequences : List NodeSequence} (pairwise : sequences.Pairwise ForksBelow)
    {first second : NodeSequence} (inFirst : first ∈ sequences) (inSecond : second ∈ sequences)
    (begins : first <+: second) : first = second :=
  Decidable.byContradiction fun different =>
    (Forks.of_pairwise pairwise inFirst inSecond different).not_isPrefix begins

/-- Concatenations of pairwise forking pieces fork pairwise. -/
theorem pairwise_forksBelow_product {fronts backs : List NodeSequence}
    (forkFronts : fronts.Pairwise ForksBelow) (forkBacks : backs.Pairwise ForksBelow) :
    (fronts.flatMap fun front => backs.map (front ++ ·)).Pairwise ForksBelow := by
  rw [List.pairwise_flatMap]
  constructor
  · intro front _
    rw [List.pairwise_map]
    exact forkBacks.imp fun fork => fork.prepend front
  · refine forkFronts.imp ?_
    intro front other fork first inFirst second inSecond
    obtain ⟨after, -, rfl⟩ := List.mem_map.1 inFirst
    obtain ⟨next, -, rfl⟩ := List.mem_map.1 inSecond
    exact fork.append after next

/-- One name in front of pairwise forking sequences changes nothing. -/
theorem pairwise_forksBelow_cons {sequences : List NodeSequence}
    (pairwise : sequences.Pairwise ForksBelow) (name : Name) :
    (sequences.map (name :: ·)).Pairwise ForksBelow := by
  rw [List.pairwise_map]
  exact pairwise.imp fun fork => fork.later name

end ScenarioGraph
