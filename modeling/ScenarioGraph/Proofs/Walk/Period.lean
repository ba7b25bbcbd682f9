/-
# ScenarioGraph.Proofs.Walk.Period -- a loop walked over and over

A loop is its first node and its tail, and walking it so many times puts down the first
node and then the tail so many times.  Hence walking a repeated loop repeatedly multiplies
the counts, and every round adds one tail to the length.  If the loop ends where it begins,
then going around once before the repeated loop or walking its tail once after it is the
same, which makes the repeated loop periodic: each of its nodes is that of the loop at the
same place of the round.

* `repeatLoop_repeatLoop`: repeating twice multiplies.
* `head?_repeatLoop`, `getLast?_repeatLoop`: a repeated loop begins and ends as the loop does.
* `hasPeriod_repeatLoop`, `getElem?_repeatLoop`: the rounds of a loop that closes are all alike.
* `repeatLoop_exact`: all of it, for any sequence.
-/
import ScenarioGraph.Proofs.Walk.Loop
import Mathlib.Data.List.PeriodicityLemma

namespace ScenarioGraph

set_option autoImplicit false

variable {κ : Type} {cycle : NodeSequence} {repetitions : Nat}

/-! ## Any sequence -/

/-- Walking a repeated loop repeatedly multiplies the counts. -/
theorem repeatLoop_repeatLoop (some : cycle ≠ []) {first second : Nat} (positive : 1 ≤ first)
    (positiveToo : 1 ≤ second) :
    repeatLoop (repeatLoop cycle first) second = repeatLoop cycle (first * second) := by
  obtain ⟨name, tail, rfl⟩ := List.exists_cons_of_ne_nil some
  rw [repeatLoop_cons positive, repeatLoop_cons positiveToo,
    repeatLoop_cons (Nat.mul_pos positive positiveToo), ← List.map_replicate,
    ← List.flatten_flatten, List.flatten_replicate_replicate, Nat.mul_comm]

theorem head?_repeatLoop (some : cycle ≠ []) (repetitions : Nat) :
    (repeatLoop cycle repetitions).head? = cycle.head? := by
  rw [repeatLoop_eq, List.head?_append_of_ne_nil _ some]

/-- A repeated loop ends as the loop does, even if the loop does not close. -/
theorem getLast?_repeatLoop (cycle : NodeSequence) (repetitions : Nat) :
    (repeatLoop cycle repetitions).getLast? = cycle.getLast? := by
  rw [repeatLoop_eq]
  cases repetitions - 1 with
  | zero => simp
  | succ count =>
      match cycle with
      | [] => simp
      | [name] => simp
      | name :: next :: rest =>
          rw [List.tail_cons, List.replicate_succ', List.flatten_concat, ← List.append_assoc,
            List.getLast?_append_of_ne_nil _ (List.cons_ne_nil next rest), List.getLast?_cons_cons]

/-! ## Loops that close -/

/-- Going around once before a repeated loop is walking its tail once more after it. -/
theorem dropLast_append_repeatLoop (closed : cycle.head? = cycle.getLast?)
    (positive : 1 ≤ repetitions) :
    cycle.dropLast ++ repeatLoop cycle repetitions =
      repeatLoop cycle repetitions ++ cycle.tail := by
  cases cycle with
  | nil => simp [repeatLoop_eq]
  | cons name tail =>
      obtain ⟨round, same⟩ := List.getLast?_eq_some_iff.1 closed.symm
      calc (name :: tail).dropLast ++ repeatLoop (name :: tail) repetitions
        _ = round ++ name :: (List.replicate repetitions tail).flatten := by
            rw [repeatLoop_cons positive, same, List.dropLast_concat]
        _ = name :: (List.replicate (repetitions + 1) tail).flatten := by
            rw [List.append_cons, ← same, List.replicate_succ, List.flatten_cons, List.cons_append]
        _ = repeatLoop (name :: tail) repetitions ++ tail := by
            rw [repeatLoop_cons positive, List.replicate_succ', List.flatten_concat,
              List.cons_append]

/-- The rounds of a repeated loop are all alike. -/
theorem hasPeriod_repeatLoop (closed : cycle.head? = cycle.getLast?)
    (positive : 1 ≤ repetitions) :
    (repeatLoop cycle repetitions).HasPeriod (cycle.length - 1) := by
  have round : (repeatLoop cycle repetitions).take (cycle.length - 1) = cycle.dropLast := by
    rw [repeatLoop_eq, List.take_append_of_le_length (Nat.sub_le _ _), List.dropLast_eq_take]
  rw [List.HasPeriod, round, dropLast_append_repeatLoop closed positive]
  exact List.prefix_append _ _

/-- Each node of a repeated loop is that of the loop at the same place of its round. -/
theorem getElem?_repeatLoop (closed : cycle.head? = cycle.getLast?) (long : 1 < cycle.length)
    (positive : 1 ≤ repetitions) {i : Nat} (inside : i < (repeatLoop cycle repetitions).length) :
    (repeatLoop cycle repetitions)[i]? = cycle[i % (cycle.length - 1)]? := by
  have before : i % (cycle.length - 1) < cycle.length - 1 := Nat.mod_lt _ (by omega)
  rw [← (hasPeriod_repeatLoop closed positive).getElem?_mod _ _ _ inside, repeatLoop_eq,
    List.getElem?_append_left (by omega)]

/-! ## Repetition -/

/-- **Repetition of loops is exact.**  Walking a sequence that is not empty so many times,
and what comes of it again so many times, is walking it as many times as the product.  The
result has one node and a tail for each time, and begins and ends as the sequence does.  If
the sequence ends where it begins, and has more than this one node, its nodes come around
in turn; and a closed walk of a graph stays one. -/
theorem repeatLoop_exact {cycle : NodeSequence} (some : cycle ≠ []) {first second : Nat}
    (positive : 1 ≤ first) (positiveToo : 1 ≤ second) :
    repeatLoop (repeatLoop cycle first) second = repeatLoop cycle (first * second) ∧
    (repeatLoop cycle first).length = 1 + first * (cycle.length - 1) ∧
    (repeatLoop cycle first).head? = cycle.head? ∧
    (repeatLoop cycle first).getLast? = cycle.getLast? ∧
    (cycle.head? = cycle.getLast? → 1 < cycle.length →
      ∀ i < (repeatLoop cycle first).length,
        (repeatLoop cycle first)[i]? = cycle[i % (cycle.length - 1)]?) ∧
    ∀ (g : Graph κ) (name : Name), g.ClosedWalk name cycle →
      g.ClosedWalk name (repeatLoop cycle first) := by
  refine ⟨repeatLoop_repeatLoop some positive positiveToo, length_repeatLoop some positive,
    head?_repeatLoop some first, getLast?_repeatLoop cycle first, ?_, ?_⟩
  · exact fun closed long i inside => getElem?_repeatLoop closed long positive inside
  · exact fun g name walk => walk.repeatLoop first

namespace Turnstile

/-- Unlocked, tipped once and locked again; no simple cycle, since it stays unlocked. -/
def tippedRound : NodeSequence := ["Locked", "Unlocked", "Unlocked", "Locked"]

theorem closedWalk_tippedRound : graph.ClosedWalk "Locked" tippedRound := by
  have chain := List.isChain_cons_cons.2 ⟨leads_unlocked_self, List.isChain_pair.2 leads_locked⟩
  exact ⟨⟨rfl, List.isChain_cons_cons.2 ⟨leads_unlocked, chain⟩⟩, rfl⟩

end Turnstile

/-- Two rounds three times are six, and the last tip of the second is that of the first. -/
theorem turnstile_repeatLoop_exact :
    Turnstile.tippedRound ≠ [] ∧ 1 ≤ 2 ∧ 1 ≤ 3 ∧
      Turnstile.tippedRound.head? = Turnstile.tippedRound.getLast? ∧
      1 < Turnstile.tippedRound.length ∧
      Turnstile.graph.ClosedWalk "Locked" Turnstile.tippedRound ∧
      repeatLoop (repeatLoop Turnstile.tippedRound 2) 3 = repeatLoop Turnstile.tippedRound 6 ∧
      5 < (repeatLoop Turnstile.tippedRound 2).length ∧
      (repeatLoop Turnstile.tippedRound 2)[5]? = Turnstile.tippedRound[5 % 3]? ∧
      Turnstile.graph.ClosedWalk "Locked" (repeatLoop Turnstile.tippedRound 2) := by
  have some : Turnstile.tippedRound ≠ [] := by decide
  have twice : 1 ≤ 2 := by decide
  have thrice : 1 ≤ 3 := by decide
  have closed : Turnstile.tippedRound.head? = Turnstile.tippedRound.getLast? := by decide
  have long : 1 < Turnstile.tippedRound.length := by decide
  have inside : 5 < (repeatLoop Turnstile.tippedRound 2).length := by decide
  have walk := Turnstile.closedWalk_tippedRound
  obtain ⟨composed, -, -, -, turns, walks⟩ :=
    repeatLoop_exact (κ := Unit) some twice thrice
  exact ⟨some, twice, thrice, closed, long, walk, composed, inside,
    turns closed long 5 inside, walks _ _ walk⟩

end ScenarioGraph
