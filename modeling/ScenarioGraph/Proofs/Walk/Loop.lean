/-
# ScenarioGraph.Proofs.Walk.Loop -- putting closed walks in place of nodes

A repeated cycle is again a walk from its node to itself, and replacing each node
of a walk by such a walk leaves a walk that still uses every edge it used before.

* `repeatLoop_cons`, `length_repeatLoop`: what any repeated sequence consists of.
* `Graph.ClosedWalk.repeatLoop`: repeating a closed walk gives a closed walk.
* `Graph.ClosedWalk.repeatLoop_eq_replicate`: it is that walk, so many times in a row.
* `exists_substitution_around`: each choice for a node stands in some substitution.
* `walksFrom_of_mem_substitutions`, `consecutive_subset_of_mem_substitutions`:
  what a substitution makes of a walk.
* `pairwise_forksBelow_substitutions`, `forks_of_mem_substitutions`: substitutions
  of one sequence come in name order, those of sequences that fork never meet.
* `length_substitutions`: their number is a product.
* `firstOccurrences_eq_eraseDups`: the first of equal sequences is kept, and no other.
* `choicesAt_eq`, `expandLoops_of_ne_zero`: expansion substitutes the repeated loops.
-/
import ScenarioGraph.Walk.Loop
import ScenarioGraph.Proofs.Walk.Cycle
import Mathlib.Algebra.BigOperators.Group.List.Basic

namespace ScenarioGraph

set_option autoImplicit false

variable {κ : Type} {g : Graph κ} {start name : Name} {nodes more : NodeSequence}

/-! ## Repeated loops -/

theorem repeatLoop_eq (cycle : NodeSequence) (repetitions : Nat) :
    repeatLoop cycle repetitions =
      cycle ++ (List.replicate (repetitions - 1) cycle.tail).flatten := by
  unfold repeatLoop
  split
  · rename_i short
    rw [List.isEmpty_iff.1 short, List.flatten_replicate_nil, List.append_nil]
  · rfl

/-- A repeated loop is the first node and then, for each round, the tail. -/
theorem repeatLoop_cons {tail : NodeSequence} {repetitions : Nat} (positive : 1 ≤ repetitions) :
    repeatLoop (name :: tail) repetitions =
      name :: (List.replicate repetitions tail).flatten := by
  obtain ⟨count, rfl⟩ := Nat.exists_eq_add_of_le' positive
  rw [repeatLoop_eq, List.tail_cons, Nat.add_sub_cancel, List.replicate_succ, List.flatten_cons,
    List.cons_append]

/-- Each round adds a tail. -/
theorem length_repeatLoop {cycle : NodeSequence} (some : cycle ≠ []) {repetitions : Nat}
    (positive : 1 ≤ repetitions) :
    (repeatLoop cycle repetitions).length = 1 + repetitions * (cycle.length - 1) := by
  obtain ⟨name, tail, rfl⟩ := List.exists_cons_of_ne_nil some
  rw [repeatLoop_cons positive]
  simp [Nat.add_comm]

/-- A walk to `name` goes on with whatever walks on from there. -/
theorem Graph.WalksFrom.append (walk : g.WalksFrom start nodes) (last : nodes.getLast? = some name)
    (next : g.WalksFrom name (name :: more)) : g.WalksFrom start (nodes ++ more) := by
  refine ⟨?_, walk.chain.append next.chain.tail ?_⟩
  · rw [List.head?_append, walk.head, Option.some_or]
  · intro node isLast other isHead
    obtain rfl : name = node := Option.some.inj (last.symm.trans isLast)
    exact next.chain.rel_head? isHead

namespace Graph.ClosedWalk

theorem singleton (g : Graph κ) (name : Name) : g.ClosedWalk name [name] :=
  ⟨⟨rfl, List.isChain_singleton name⟩, rfl⟩

theorem append (walk : g.ClosedWalk name nodes) (next : g.ClosedWalk name (name :: more)) :
    g.ClosedWalk name (nodes ++ more) := by
  refine ⟨walk.toWalksFrom.append walk.last next.toWalksFrom, ?_⟩
  cases more with
  | nil => rw [List.append_nil, walk.last]
  | cons first more =>
      rw [List.getLast?_append_of_ne_nil _ (List.cons_ne_nil _ _), ← next.last,
        List.getLast?_cons_cons]

/-- A closed walk stays one however often its tail is walked in front. -/
theorem replicate_tail (walk : g.ClosedWalk name nodes) (count : Nat) :
    g.ClosedWalk name (name :: (List.replicate count nodes.tail).flatten) := by
  obtain ⟨tail, rfl⟩ := List.head?_eq_some_iff.1 walk.head
  induction count with
  | zero => exact singleton g name
  | succ count ih =>
      rw [List.replicate_succ, List.flatten_cons, ← List.cons_append]
      exact walk.append ih

protected theorem repeatLoop (walk : g.ClosedWalk name nodes) (repetitions : Nat) :
    g.ClosedWalk name (repeatLoop nodes repetitions) := by
  rw [repeatLoop_eq]
  exact walk.append (walk.replicate_tail (repetitions - 1))

/-- A closed walk without its end, walked over and over: the end of one round is the
beginning of the next. -/
theorem cons_replicate_tail (walk : g.ClosedWalk name nodes) (count : Nat) :
    name :: (List.replicate count nodes.tail).flatten =
      (List.replicate count nodes.dropLast).flatten ++ [name] := by
  obtain ⟨tail, rfl⟩ := List.head?_eq_some_iff.1 walk.head
  obtain ⟨round, same⟩ := List.getLast?_eq_some_iff.1 walk.last
  rw [List.tail_cons, same, List.dropLast_concat]
  induction count with
  | zero => rfl
  | succ count ih =>
      rw [List.replicate_succ, List.replicate_succ, List.flatten_cons, List.flatten_cons,
        ← List.cons_append, same, List.append_assoc, List.append_assoc, ← ih]
      rfl

/-- A repeated loop is its cycle walked that many times in a row. -/
theorem repeatLoop_eq_replicate (walk : g.ClosedWalk name nodes) {repetitions : Nat}
    (positive : 1 ≤ repetitions) :
    ScenarioGraph.repeatLoop nodes repetitions =
      (List.replicate repetitions nodes.dropLast).flatten ++ [name] := by
  obtain ⟨tail, rfl⟩ := List.head?_eq_some_iff.1 walk.head
  rw [repeatLoop_cons positive, ← walk.cons_replicate_tail, List.tail_cons]

theorem length_repeatLoop (walk : g.ClosedWalk name nodes) {repetitions : Nat}
    (positive : 1 ≤ repetitions) :
    (ScenarioGraph.repeatLoop nodes repetitions).length =
      repetitions * (nodes.length - 1) + 1 := by
  have some : nodes ≠ [] := by
    rintro rfl
    cases walk.head
  rw [ScenarioGraph.length_repeatLoop some positive, Nat.add_comm]

end Graph.ClosedWalk

/-- What forks goes on forking when it is repeated. -/
theorem ForksBelow.repeatLoop (fork : ForksBelow nodes more) (repetitions : Nat) :
    ForksBelow (repeatLoop nodes repetitions) (repeatLoop more repetitions) := by
  rw [repeatLoop_eq, repeatLoop_eq]
  exact fork.append _ _

/-! ## Substitutions -/

section Substitutions

variable {choices : Name → List NodeSequence} {result : NodeSequence}

theorem mem_substitutions_cons {rest : NodeSequence} :
    result ∈ substitutions choices (name :: rest) ↔
      ∃ choice ∈ choices name, ∃ tail ∈ substitutions choices rest, choice ++ tail = result := by
  simp only [substitutions, List.mem_flatMap, List.mem_map]

theorem substitutions_ne_nil (some : ∀ name, choices name ≠ []) (nodes : NodeSequence) :
    substitutions choices nodes ≠ [] := by
  induction nodes with
  | nil => exact List.cons_ne_nil _ _
  | cons name rest ih =>
      obtain ⟨choice, chosen⟩ := List.exists_mem_of_ne_nil _ (some name)
      obtain ⟨tail, found⟩ := List.exists_mem_of_ne_nil _ ih
      exact List.ne_nil_of_mem (mem_substitutions_cons.2 ⟨choice, chosen, tail, found, rfl⟩)

/-- Every choice for a node of the sequence stands in some substitution, in one piece. -/
theorem exists_substitution_around (some : ∀ name, choices name ≠ []) {choice : NodeSequence}
    (member : name ∈ nodes) (chosen : choice ∈ choices name) :
    ∃ result ∈ substitutions choices nodes, choice <:+: result := by
  induction nodes with
  | nil => cases member
  | cons first rest ih =>
      rcases List.mem_cons.1 member with rfl | later
      · obtain ⟨tail, found⟩ := List.exists_mem_of_ne_nil _ (substitutions_ne_nil some rest)
        have here := mem_substitutions_cons.2 ⟨choice, chosen, tail, found, rfl⟩
        exact ⟨choice ++ tail, here, (List.prefix_append choice tail).isInfix⟩
      · obtain ⟨tail, found, inside⟩ := ih later
        obtain ⟨before, chosenBefore⟩ := List.exists_mem_of_ne_nil _ (some first)
        have there := mem_substitutions_cons.2 ⟨before, chosenBefore, tail, found, rfl⟩
        exact ⟨before ++ tail, there, inside.trans (List.suffix_append before tail).isInfix⟩

/-- With nothing to choose, a sequence stays as it is. -/
theorem substitutions_self (same : ∀ name, choices name = [[name]]) (nodes : NodeSequence) :
    substitutions choices nodes = [nodes] := by
  induction nodes with
  | nil => rfl
  | cons name rest ih => simp [substitutions, same, ih]

theorem length_substitutions (choices : Name → List NodeSequence) (nodes : NodeSequence) :
    (substitutions choices nodes).length =
      (nodes.map fun name => (choices name).length).prod := by
  induction nodes with
  | nil => rfl
  | cons name rest ih =>
      simp [substitutions, List.length_flatMap, ih]

/-- Closed walks in place of its nodes make a walk of a walk. -/
theorem walksFrom_of_mem_substitutions
    (closed : ∀ name, ∀ choice ∈ choices name, g.ClosedWalk name choice)
    (walk : g.WalksFrom start nodes) (found : result ∈ substitutions choices nodes) :
    g.WalksFrom start result := by
  induction nodes generalizing start result with
  | nil => cases walk.head
  | cons name rest ih =>
      obtain ⟨choice, chosen, tail, foundTail, rfl⟩ := mem_substitutions_cons.1 found
      obtain rfl : name = start := Option.some.inj walk.head
      have first := closed name choice chosen
      refine first.toWalksFrom.append first.last ?_
      cases rest with
      | nil =>
          obtain rfl := List.mem_singleton.1 foundTail
          exact walk
      | cons next rest =>
          obtain ⟨leads, chain⟩ := List.isChain_cons_cons.1 walk.chain
          have later := ih ⟨rfl, chain⟩ foundTail
          obtain ⟨after, rfl⟩ := List.head?_eq_some_iff.1 later.head
          exact ⟨rfl, List.isChain_cons_cons.2 ⟨leads, later.chain⟩⟩

theorem head?_of_mem_substitutions
    (begins : ∀ name, ∀ choice ∈ choices name, choice.head? = some name)
    (found : result ∈ substitutions choices nodes) : result.head? = nodes.head? := by
  cases nodes with
  | nil => rw [List.mem_singleton.1 found]
  | cons name rest =>
      obtain ⟨choice, chosen, tail, -, rfl⟩ := mem_substitutions_cons.1 found
      rw [List.head?_append, begins name choice chosen, Option.some_or, List.head?_cons]

/-- The edges of a sequence lie between the walks put in place of its nodes. -/
theorem consecutive_subset_of_mem_substitutions
    (closed : ∀ name, ∀ choice ∈ choices name, g.ClosedWalk name choice)
    (found : result ∈ substitutions choices nodes) :
    ∀ edge ∈ consecutive nodes, edge ∈ consecutive result := by
  induction nodes generalizing result with
  | nil => simp
  | cons name rest ih =>
      obtain ⟨choice, chosen, tail, foundTail, rfl⟩ := mem_substitutions_cons.1 found
      cases rest with
      | nil => simp
      | cons next rest =>
          obtain ⟨front, rfl⟩ := List.getLast?_eq_some_iff.1 (closed name choice chosen).last
          have begins := head?_of_mem_substitutions
            (fun name choice chosen => (closed name choice chosen).head) foundTail
          obtain ⟨after, rfl⟩ := List.head?_eq_some_iff.1 begins
          rw [consecutive_cons_cons]
          intro edge member
          rw [List.append_assoc, List.singleton_append, consecutive_append_cons,
            consecutive_cons_cons]
          rcases List.mem_cons.1 member with rfl | later
          · simp
          · have := ih foundTail edge later
            simp [this]

/-- Substitutions of one sequence fork pairwise if the choices for each node do. -/
theorem pairwise_forksBelow_substitutions
    (pairwise : ∀ name, (choices name).Pairwise ForksBelow) (nodes : NodeSequence) :
    (substitutions choices nodes).Pairwise ForksBelow := by
  induction nodes with
  | nil => exact List.pairwise_singleton _ _
  | cons name rest ih => exact pairwise_forksBelow_product (pairwise name) ih

/-- Substitutions of sequences that fork fork as well: before the place where the
sequences part ways either two choices differ, and fork, or all are the same. -/
theorem forks_of_mem_substitutions {first second other : NodeSequence}
    (pairwise : ∀ name, (choices name).Pairwise ForksBelow)
    (begins : ∀ name, ∀ choice ∈ choices name, choice.head? = some name)
    (fork : ForksBelow first second) (found : result ∈ substitutions choices first)
    (foundOther : other ∈ substitutions choices second) : Forks result other := by
  induction fork generalizing result other with
  | here lows highs below =>
      have low := head?_of_mem_substitutions begins found
      have high := head?_of_mem_substitutions begins foundOther
      obtain ⟨after, rfl⟩ := List.head?_eq_some_iff.1 low
      obtain ⟨next, rfl⟩ := List.head?_eq_some_iff.1 high
      exact Or.inl (.here after next below)
  | later name _ ih =>
      obtain ⟨choice, chosen, tail, foundTail, rfl⟩ := mem_substitutions_cons.1 found
      obtain ⟨choice', chosen', tail', foundTail', rfl⟩ := mem_substitutions_cons.1 foundOther
      by_cases same : choice = choice'
      · rw [same]
        exact (ih foundTail foundTail').prepend choice'
      · exact (Forks.of_pairwise (pairwise name) chosen chosen' same).append tail tail'

/-- Substitutions of pairwise forking sequences are all different. -/
theorem nodup_flatMap_substitutions {sequences : List NodeSequence}
    (pairwise : ∀ name, (choices name).Pairwise ForksBelow)
    (begins : ∀ name, ∀ choice ∈ choices name, choice.head? = some name)
    (forks : sequences.Pairwise ForksBelow) :
    (sequences.flatMap (substitutions choices)).Nodup := by
  rw [List.Nodup, List.pairwise_flatMap]
  constructor
  · intro nodes _
    exact (pairwise_forksBelow_substitutions pairwise nodes).imp ForksBelow.ne
  · refine forks.imp ?_
    intro first second fork result found other foundOther
    exact (forks_of_mem_substitutions pairwise begins fork found foundOther).ne

end Substitutions

/-! ## First occurrences -/

theorem firstOccurrencesFrom_eq {sequences kept : List NodeSequence}
    {seen : Std.TreeSet NodeSequence} (agree : ∀ nodes, nodes ∈ seen ↔ nodes ∈ kept) :
    firstOccurrencesFrom seen kept sequences =
      kept.reverse ++ (sequences.filter (· ∉ kept)).eraseDups := by
  induction sequences generalizing seen kept with
  | nil => simp [firstOccurrencesFrom]
  | cons first rest ih =>
      rw [firstOccurrencesFrom]
      split
      · rename_i before
        rw [ih agree, List.filter_cons_of_neg (by simpa using (agree first).1 before)]
      · rename_i fresh
        have agreeToo : ∀ nodes, nodes ∈ seen.insert first ↔ nodes ∈ first :: kept := by
          intro nodes
          rw [Std.TreeSet.mem_insert, Std.compare_eq_iff_eq, List.mem_cons, agree, eq_comm]
        rw [ih agreeToo, List.filter_cons_of_pos (by simpa using mt (agree first).2 fresh),
          List.eraseDups_cons, List.filter_filter, List.reverse_cons, List.append_assoc,
          List.singleton_append]
        have unlike : (fun nodes => decide (nodes ∉ first :: kept)) =
            fun nodes => !nodes == first && decide (nodes ∉ kept) := by
          funext nodes
          rw [Bool.eq_iff_iff]
          simp
        rw [unlike]

/-- The first of equal sequences is kept, and no other. -/
theorem firstOccurrences_eq_eraseDups (sequences : List NodeSequence) :
    firstOccurrences sequences = sequences.eraseDups := by
  rw [firstOccurrences, firstOccurrencesFrom_eq (by simp), List.reverse_nil, List.nil_append]
  simp

/-- Where no sequence stands twice, nothing is left out. -/
theorem firstOccurrences_eq_self {sequences : List NodeSequence} (distinct : sequences.Nodup) :
    firstOccurrences sequences = sequences := by
  rw [firstOccurrences_eq_eraseDups]
  induction sequences with
  | nil => rfl
  | cons first rest ih =>
      obtain ⟨once, distinctRest⟩ := List.nodup_cons.1 distinct
      have others : rest.filter (fun nodes => !nodes == first) = rest := by
        rw [List.filter_eq_self]
        intro nodes later
        simpa using fun same : nodes = first => once (same ▸ later)
      rw [List.eraseDups_cons, others, ih distinctRest]

/-! ## Expansion -/

section Expansion

variable {loops : List (Name × List NodeSequence)} {repetitions : Nat}

/-- What expansion may put in place of a node. -/
def choicesAt (loops : List (Name × List NodeSequence)) (repetitions : Nat) :
    Name → List NodeSequence :=
  replacements (loops.map fun (name, found) => (name, found.map (repeatLoop · repetitions)))

/-- A node without loops, whether or not it has an entry, is its only choice. -/
theorem choicesAt_eq :
    choicesAt loops repetitions name =
      if (loops.lookup name).getD [] = [] then [[name]]
      else ((loops.lookup name).getD []).map (repeatLoop · repetitions) := by
  rw [choicesAt, replacements, lookup_map_entries]
  cases loops.lookup name with
  | none => rfl
  | some found =>
      cases found with
      | nil => rfl
      | cons first rest => rfl

theorem expandLoops_of_ne_zero (sequences : List NodeSequence) (positive : repetitions ≠ 0) :
    expandLoops sequences loops repetitions =
      firstOccurrences (sequences.flatMap (substitutions (choicesAt loops repetitions))) :=
  if_neg positive

end Expansion

end ScenarioGraph
