/-
# ScenarioGraph.Proofs.Condition.Meaning -- what a condition says about a history

Evaluation looks for windows place by place, and for single nodes from the latest one
back.  What it finds can be said of the history as a whole: a window is a part of it
between two others, and one node is more recent than another if some end of the history
has the one and not the other.

* `History.lastPlace_le_iff`: the place of a last occurrence, by what comes after it.
* `Condition.holds_sequence_iff`, `Condition.holds_moreRecent_iff`,
  `Condition.holds_lastIn_iff`: the three primitives; nothing else unfolds their search.
* `Condition.Means`: the meaning of a condition, by ways to split a history.
* `conditions_exact`: a condition holds exactly where its meaning does, and recency is a
  strict order of the names.
-/
import ScenarioGraph.Condition
import Mathlib.Data.List.Basic

namespace ScenarioGraph

set_option autoImplicit false

/-! ## Searches in a history -/

namespace History

variable {history : History} {name : Name} {names : List Name}

theorem hasAt_iff {k : Nat} : history.hasAt k names = true ↔ names <+: history.toList.drop k := by
  induction names generalizing k with
  | nil => simp [hasAt]
  | cons name rest ih =>
      rw [hasAt]
      split
      · rename_i inside
        have next : history.toList.drop k = history[k] :: history.toList.drop (k + 1) :=
          List.drop_eq_getElem_cons (by simpa using inside)
        rw [next, List.cons_prefix_cons, Bool.and_eq_true, decide_eq_true_eq, ih]
        exact and_congr_left fun _ => eq_comm
      · rename_i outside
        have beyond : history.toList.drop k = [] := List.drop_eq_nil_of_le (by simpa using outside)
        simp [beyond]

/-- A window is found exactly if it is a part of the history. -/
theorem hasWindow_iff : history.hasWindow names = true ↔ names <:+: history.toList := by
  have places : (history.size.any fun k _ => history.hasAt k names) = true ↔
      ∃ k < history.size, names <+: history.toList.drop k := by
    simp [Nat.any_eq_finRange_any, Fin.exists_iff, hasAt_iff]
  rw [hasWindow, Bool.or_eq_true, places, List.isEmpty_iff]
  constructor
  · rintro (rfl | ⟨k, -, found⟩)
    · exact List.nil_infix
    · exact found.isInfix.trans (List.drop_suffix k _).isInfix
  · intro part
    obtain ⟨front, back, split⟩ := part
    rw [List.append_assoc] at split
    cases names with
    -- an empty window is found without a place, also in an empty history
    | nil => exact Or.inl rfl
    | cons first rest =>
        refine Or.inr ⟨front.length, ?_, ?_⟩
        · rw [← Array.length_toList, ← split]
          simp
        · rw [← split, List.drop_left]
          exact List.prefix_append _ _

theorem lastPlaceIn_le_iff {n k : Nat} (bound : n ≤ history.size) :
    history.lastPlaceIn name n bound ≤ k ↔
      ∀ i, (inside : i < n) → k ≤ i → history[i] ≠ name := by
  induction n with
  | zero => simp [lastPlaceIn]
  | succ n ih =>
      rw [lastPlaceIn]
      split
      · rename_i here
        constructor
        · intro le i inside from_k
          omega
        · intro apart
          by_contra beyond
          exact apart n (by omega) (by omega) here
      · rename_i elsewhere
        rw [ih]
        constructor
        · intro apart i inside later
          rcases Nat.lt_succ_iff_lt_or_eq.1 inside with before | rfl
          · exact apart i before later
          · exact elsewhere
        · exact fun apart i inside later => apart i (by omega) later

/-- The last occurrence of a name is among the first `k` nodes exactly if it does not
occur after them. -/
theorem lastPlace_le_iff {k : Nat} :
    history.lastPlace name ≤ k ↔ name ∉ history.toList.drop k := by
  rw [lastPlace, lastPlaceIn_le_iff, List.mem_drop_iff_getElem]
  constructor
  · rintro apart ⟨j, inside, found⟩
    exact apart (k + j) (by simpa [Nat.add_comm] using inside) (by omega) (by simpa using found)
  · rintro apart i inside later rfl
    refine apart ⟨i - k, ?_, ?_⟩
    · rw [Array.length_toList]
      omega
    · simp only [Nat.add_sub_cancel' later, Array.getElem_toList]

theorem lt_lastPlace_iff {k : Nat} :
    k < history.lastPlace name ↔ name ∈ history.toList.drop k := by
  rw [← Nat.not_le, lastPlace_le_iff, Decidable.not_not]

/-- The last occurrence of a name splits the history: the name does not stand after it. -/
theorem split_of_lastPlace {k : Nat} (place : history.lastPlace name = k + 1) :
    ∃ front back, history.toList = front ++ name :: back ∧ front.length = k ∧ name ∉ back := by
  have found : name ∈ history.toList.drop k := lt_lastPlace_iff.1 (by omega)
  have gone : name ∉ history.toList.drop (k + 1) := lastPlace_le_iff.1 (by omega)
  have inside : k < history.toList.length :=
    Nat.lt_of_not_le fun beyond => by simp [List.drop_eq_nil_of_le beyond] at found
  have here := List.drop_eq_getElem_cons inside
  rw [here] at found
  have same : name = history.toList[k] := (List.mem_cons.1 found).resolve_right gone
  refine ⟨history.toList.take k, history.toList.drop (k + 1), ?_, ?_, gone⟩
  · rw [same, ← here, List.take_append_drop]
  · exact List.length_take_of_le (Nat.le_of_lt inside)

/-- Two names that occur last at the same place do not occur, or are the same. -/
theorem lastPlace_ne {other : Name} (different : name ≠ other)
    (occurs : name ∈ history ∨ other ∈ history) :
    history.lastPlace name ≠ history.lastPlace other := by
  intro same
  have occurring : 0 < history.lastPlace name := by
    rcases occurs with occurs | occurs
    · exact lt_lastPlace_iff.2 (by simpa using occurs)
    · exact same ▸ lt_lastPlace_iff.2 (by simpa using occurs)
  obtain ⟨k, place⟩ := Nat.exists_eq_succ_of_ne_zero (Nat.ne_zero_of_lt occurring)
  obtain ⟨front, back, split, length, -⟩ := split_of_lastPlace place
  obtain ⟨front', back', split', length', -⟩ := split_of_lastPlace (same ▸ place)
  have ends := (List.append_inj (split.symm.trans split') (length.trans length'.symm)).2
  exact different (List.cons.inj ends).1

theorem endsIn_iff {names : NameSet} :
    history.endsIn names = true ↔ ∃ last ∈ names, history.toList.getLast? = some last := by
  rw [endsIn, Array.getLast?_toList]
  cases history.back? with
  | none => simp
  | some last => simp

end History

/-! ## Conditions -/

namespace Condition

variable {history : History} {older newer : Name}

theorem holds_sequence_iff {names : List Name} :
    (sequence names).holds history = true ↔ names <:+: history.toList :=
  History.hasWindow_iff

theorem holds_moreRecent_iff_lastPlace :
    (moreRecent older newer).holds history = true ↔
      history.lastPlace older < history.lastPlace newer := by
  rw [holds, decide_eq_true_eq]

/-- One name is more recent than another if some end of the history has it, and has the
other not. -/
theorem holds_moreRecent_iff :
    (moreRecent older newer).holds history = true ↔
      ∃ k, older ∉ history.toList.drop k ∧ newer ∈ history.toList.drop k := by
  simp only [holds_moreRecent_iff_lastPlace, ← History.lt_lastPlace_iff, Nat.not_lt]
  constructor
  · exact fun lt => ⟨_, Nat.le_refl _, lt⟩
  · exact fun ⟨_, le, lt⟩ => Nat.lt_of_le_of_lt le lt

theorem holds_lastIn_iff {names : NameSet} :
    (lastIn names).holds history = true ↔ ∃ last ∈ names, history.toList.getLast? = some last :=
  History.endsIn_iff

/-- What a condition says of the nodes visited so far, by ways to split them. -/
def Means : Condition → List Name → Prop
  | sequence names, nodes => ∃ front back, nodes = front ++ names ++ back
  | moreRecent older newer, nodes =>
      older ≠ newer ∧
        ∃ front back, nodes = front ++ [newer] ++ back ∧ older ∉ back ∧ newer ∉ back
  | lastIn names, nodes => ∃ front last, nodes = front ++ [last] ∧ last ∈ names
  | and left right, nodes => left.Means nodes ∧ right.Means nodes
  | or left right, nodes => left.Means nodes ∨ right.Means nodes
  | not inner, nodes => ¬ inner.Means nodes

theorem holds_iff_means_sequence {names : List Name} :
    (sequence names).holds history = true ↔ (sequence names).Means history.toList := by
  rw [holds_sequence_iff, Means]
  exact exists₂_congr fun _ _ => eq_comm

theorem holds_iff_means_moreRecent :
    (moreRecent older newer).holds history = true ↔
      (moreRecent older newer).Means history.toList := by
  rw [holds_moreRecent_iff_lastPlace, Means]
  constructor
  · intro lt
    refine ⟨fun same => absurd lt (same ▸ Nat.lt_irrefl _), ?_⟩
    -- `newer` has a last place, and from there on `older` does not occur
    obtain ⟨k, place⟩ := Nat.exists_eq_succ_of_ne_zero (Nat.ne_zero_of_lt lt)
    obtain ⟨front, back, split, length, newerGone⟩ := History.split_of_lastPlace place
    have before : older ∉ history.toList.drop k := History.lastPlace_le_iff.1 (by omega)
    rw [split, ← length, List.drop_left] at before
    refine ⟨front, back, by simpa using split, ?_, newerGone⟩
    exact fun later => before (List.mem_cons_of_mem _ later)
  · rintro ⟨different, front, back, split, olderGone, newerGone⟩
    have ends : history.toList.drop front.length = newer :: back := by
      rw [split, List.append_assoc, List.drop_left, List.singleton_append]
    have before : history.lastPlace older ≤ front.length := by
      rw [History.lastPlace_le_iff, ends, List.mem_cons, not_or]
      exact ⟨different, olderGone⟩
    have after : front.length < history.lastPlace newer := by
      rw [History.lt_lastPlace_iff, ends]
      exact List.mem_cons_self
    exact Nat.lt_of_le_of_lt before after

theorem holds_iff_means_lastIn {names : NameSet} :
    (lastIn names).holds history = true ↔ (lastIn names).Means history.toList := by
  simp only [holds_lastIn_iff, Means, List.getLast?_eq_some_iff]
  constructor
  · rintro ⟨last, member, front, split⟩
    exact ⟨front, last, split, member⟩
  · rintro ⟨front, last, split, member⟩
    exact ⟨last, member, front, split⟩

theorem holds_iff_means (condition : Condition) (history : History) :
    condition.holds history = true ↔ condition.Means history.toList := by
  induction condition with
  | sequence names => exact holds_iff_means_sequence
  | moreRecent older newer => exact holds_iff_means_moreRecent
  | lastIn names => exact holds_iff_means_lastIn
  | and left right ihLeft ihRight => rw [holds, Bool.and_eq_true, ihLeft, ihRight, Means]
  | or left right ihLeft ihRight => rw [holds, Bool.or_eq_true, ihLeft, ihRight, Means]
  | not inner ih => rw [holds, Bool.not_eq_true', ← Bool.not_eq_true, ih, Means]

end Condition

/-- **Conditions mean what they say.**  A condition holds after a history exactly if the
nodes visited split as it says.  After any history recency is a strict order of the names,
and of two names, of which one at least was visited, exactly one is more recent. -/
theorem conditions_exact (history : History) :
    (∀ condition : Condition, condition.holds history = true ↔ condition.Means history.toList) ∧
    (∀ name, (Condition.moreRecent name name).holds history = false) ∧
    (∀ older newer, (Condition.moreRecent older newer).holds history = true →
      (Condition.moreRecent newer older).holds history = false) ∧
    (∀ first second third, (Condition.moreRecent first second).holds history = true →
      (Condition.moreRecent second third).holds history = true →
        (Condition.moreRecent first third).holds history = true) ∧
    ∀ name other, name ≠ other → name ∈ history ∨ other ∈ history →
      (Condition.moreRecent name other).holds history =
        !(Condition.moreRecent other name).holds history := by
  refine ⟨fun condition => condition.holds_iff_means history, ?_, ?_, ?_, ?_⟩
  · intro name
    rw [← Bool.not_eq_true, Condition.holds_moreRecent_iff_lastPlace]
    exact Nat.lt_irrefl _
  · intro older newer
    rw [← Bool.not_eq_true, Condition.holds_moreRecent_iff_lastPlace,
      Condition.holds_moreRecent_iff_lastPlace]
    exact Nat.lt_asymm
  · intro first second third
    simp only [Condition.holds_moreRecent_iff_lastPlace]
    exact Nat.lt_trans
  · intro name other different occurs
    have apart := History.lastPlace_ne different occurs
    rw [Bool.eq_iff_iff, Bool.not_eq_true', ← Bool.not_eq_true,
      Condition.holds_moreRecent_iff_lastPlace, Condition.holds_moreRecent_iff_lastPlace]
    omega

namespace Kettle

/-- A kettle that is filled again after it has boiled; its lid stays closed. -/
def history : History := #["Filled", "Boiling", "Poured", "Filled"]

/-- It was poured right after boiling, and that was not the last of it. -/
def served : Condition :=
  .and (.sequence ["Boiling", "Poured"]) (.not (.lastIn (NameSet.ofList ["Boiling", "Poured"])))

end Kettle

/-- The kettle was served, and the order of its states is by their latest visits. -/
theorem kettle_conditions_exact :
    Kettle.served.Means Kettle.history.toList ∧
      (Condition.moreRecent "Boiling" "Filled").Means Kettle.history.toList ∧
      "Open" ≠ "Filled" ∧ ("Open" ∈ Kettle.history ∨ "Filled" ∈ Kettle.history) ∧
      (Condition.moreRecent "Open" "Filled").holds Kettle.history =
        !(Condition.moreRecent "Filled" "Open").holds Kettle.history := by
  obtain ⟨meaning, -, -, transitive, total⟩ := conditions_exact Kettle.history
  have different : "Open" ≠ "Filled" := by decide
  have visited : "Open" ∈ Kettle.history ∨ "Filled" ∈ Kettle.history := by decide +kernel
  refine ⟨(meaning _).1 (by decide +kernel), (meaning _).1 ?_, different, visited,
    total "Open" "Filled" different visited⟩
  exact transitive "Boiling" "Poured" "Filled" (by decide +kernel) (by decide +kernel)

end ScenarioGraph
