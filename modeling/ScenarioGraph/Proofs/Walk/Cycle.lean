/-
# ScenarioGraph.Proofs.Walk.Cycle -- what the search for cycles finds

`mem_closings` says once how a way back to the origin begins: with an edge to the
origin, or with an edge to a free node and a way back from there.

* `closedWalk_of_mem_cyclesOf`: a cycle of a node is a walk from the node to itself.
* `WellFormed.mem_cyclesOf_iff`: the cycles of a node are all walks from the node to
  itself that visit no other node twice; `WellFormed.cyclesOf_ne_nil_iff`: there is one
  exactly if some walk leads back to the node.
* `pairwise_forksBelow_cyclesOf`: the cycles of a node come in name order, and no
  two of them run into each other.
* `cycles_exact`: all of it, for every graph that is built.
-/
import ScenarioGraph.Walk.Cycle
import ScenarioGraph.Proofs.Walk.Consecutive
import ScenarioGraph.Proofs.Walk.Fork

namespace ScenarioGraph

set_option autoImplicit false

variable {κ : Type}

/-! ## The search, one step at a time -/

section Closings

variable {successors : Name → List Name} {origin name : Name} {free : Std.TreeSet Name}
  {closing : NodeSequence}

/-- A way back closes at once, or enters a free node and goes on without it. -/
theorem mem_closings :
    closing ∈ closings successors origin free name ↔
      (origin ∈ successors name ∧ closing = [name, origin]) ∨
      ∃ next rest, next ∈ successors name ∧ next ≠ origin ∧ next ∈ free ∧
        rest ∈ closings successors origin (free.erase next) next ∧ closing = name :: rest := by
  rw [closings, List.mem_flatMap]
  constructor
  · rintro ⟨next, entered, found⟩
    split at found
    · rename_i closed
      subst closed
      exact Or.inl ⟨entered, List.mem_singleton.1 found⟩
    · rename_i going
      split at found
      · rename_i isFree
        obtain ⟨rest, foundRest, rfl⟩ := List.mem_map.1 found
        exact Or.inr ⟨next, rest, entered, going, isFree, foundRest, rfl⟩
      · cases found
  · rintro (⟨entered, rfl⟩ | ⟨next, rest, entered, going, isFree, foundRest, rfl⟩)
    · exact ⟨origin, entered, by simp⟩
    · refine ⟨next, entered, ?_⟩
      rw [if_neg going, dif_pos isFree]
      exact List.mem_map_of_mem foundRest

theorem head?_of_mem_closings (found : closing ∈ closings successors origin free name) :
    closing.head? = some name := by
  rcases mem_closings.1 found with ⟨-, rfl⟩ | ⟨next, rest, -, -, -, -, rfl⟩ <;> rfl

theorem getLast?_of_mem_closings (found : closing ∈ closings successors origin free name) :
    closing.getLast? = some origin := by
  induction closing generalizing free name with
  | nil => cases head?_of_mem_closings found
  | cons first closing ih =>
      rcases mem_closings.1 found with ⟨-, same⟩ | ⟨next, rest, -, -, -, foundRest, same⟩
      · rw [same]
        rfl
      · obtain ⟨-, rfl⟩ := List.cons.inj same
        obtain ⟨later, rfl⟩ := List.head?_eq_some_iff.1 (head?_of_mem_closings foundRest)
        rw [List.getLast?_cons_cons]
        exact ih foundRest

theorem isChain_of_mem_closings (found : closing ∈ closings successors origin free name) :
    closing.IsChain fun source target => target ∈ successors source := by
  induction closing generalizing free name with
  | nil => exact List.isChain_nil
  | cons first closing ih =>
      rcases mem_closings.1 found with
        ⟨entered, same⟩ | ⟨next, rest, entered, -, -, foundRest, same⟩
      · rw [same]
        exact List.isChain_pair.2 entered
      · obtain ⟨rfl, rfl⟩ := List.cons.inj same
        obtain ⟨later, rfl⟩ := List.head?_eq_some_iff.1 (head?_of_mem_closings foundRest)
        exact List.isChain_cons_cons.2 ⟨entered, ih foundRest⟩

theorem mem_erase_iff {other : Name} : other ∈ free.erase name ↔ other ≠ name ∧ other ∈ free := by
  rw [Std.TreeSet.mem_erase, Ne, Std.compare_eq_iff_eq, eq_comm]

/-- The nodes between `name` and the return to the origin are free, and visited once. -/
theorem exists_inner_of_mem_closings (found : closing ∈ closings successors origin free name) :
    ∃ inner, closing = name :: (inner ++ [origin]) ∧ inner.Nodup ∧
      ∀ node ∈ inner, node ≠ origin ∧ node ∈ free := by
  induction closing generalizing free name with
  | nil => cases head?_of_mem_closings found
  | cons first closing ih =>
      rcases mem_closings.1 found with
        ⟨-, same⟩ | ⟨next, rest, -, going, isFree, foundRest, same⟩
      · exact ⟨[], same, List.nodup_nil, by simp⟩
      · obtain ⟨rfl, rfl⟩ := List.cons.inj same
        obtain ⟨inner, rfl, distinct, within⟩ := ih foundRest
        have fresh : next ∉ inner := by
          intro again
          exact (mem_erase_iff.1 (within next again).2).1 rfl
        refine ⟨next :: inner, rfl, List.nodup_cons.2 ⟨fresh, distinct⟩, ?_⟩
        intro node member
        rcases List.mem_cons.1 member with rfl | later
        · exact ⟨going, isFree⟩
        · obtain ⟨apart, stillFree⟩ := within node later
          exact ⟨apart, (mem_erase_iff.1 stillFree).2⟩

/-- Every way back through free nodes that visits none of them twice is found. -/
theorem mem_closings_of_inner {inner : NodeSequence} (distinct : inner.Nodup)
    (within : ∀ node ∈ inner, node ≠ origin ∧ node ∈ free)
    (chain : (name :: (inner ++ [origin])).IsChain fun source target => target ∈ successors source) :
    name :: (inner ++ [origin]) ∈ closings successors origin free name := by
  induction inner generalizing free name with
  | nil =>
      have entered := List.isChain_pair.1 chain
      exact mem_closings.2 (Or.inl ⟨entered, rfl⟩)
  | cons next inner ih =>
      obtain ⟨entered, chainRest⟩ := List.isChain_cons_cons.1 chain
      obtain ⟨fresh, distinctRest⟩ := List.nodup_cons.1 distinct
      obtain ⟨going, isFree⟩ := within next List.mem_cons_self
      have withinRest : ∀ node ∈ inner, node ≠ origin ∧ node ∈ free.erase next := by
        intro node member
        obtain ⟨apart, stillFree⟩ := within node (List.mem_cons_of_mem _ member)
        have other : node ≠ next := fun same => fresh (same ▸ member)
        exact ⟨apart, mem_erase_iff.2 ⟨other, stillFree⟩⟩
      have foundRest := ih distinctRest withinRest chainRest
      exact mem_closings.2 (Or.inr ⟨next, _, entered, going, isFree, foundRest, rfl⟩)

/-- Ways back come in name order if successors do, and none is a prefix of another. -/
theorem pairwise_forksBelow_closings (increasing : ∀ name, (successors name).Pairwise (· < ·)) :
    (closings successors origin free name).Pairwise ForksBelow := by
  induction free, name using closings.induct with
  | case1 free name ih =>
      rw [closings, List.pairwise_flatMap]
      constructor
      · intro next _
        split
        · exact List.pairwise_singleton _ _
        · split
          · rename_i isFree
            exact pairwise_forksBelow_cons (ih next isFree) name
          · exact List.Pairwise.nil
      · -- ways back over different successors differ at their second node
        have second : ∀ next closing,
            closing ∈ (if next = origin then [[name, origin]]
              else if next ∈ free then
                (closings successors origin (free.erase next) next).map (name :: ·)
              else []) → ∃ rest, closing = name :: next :: rest := by
          intro next closing found
          split at found
          · rename_i closed
            exact ⟨[], closed ▸ List.mem_singleton.1 found⟩
          · split at found
            · obtain ⟨rest, foundRest, rfl⟩ := List.mem_map.1 found
              obtain ⟨later, rfl⟩ := List.head?_eq_some_iff.1 (head?_of_mem_closings foundRest)
              exact ⟨later, rfl⟩
            · cases found
        refine (increasing name).imp ?_
        intro next other below first inFirst last inLast
        obtain ⟨rest, rfl⟩ := second next first inFirst
        obtain ⟨later, rfl⟩ := second other last inLast
        exact .later name (.here rest later below)

end Closings

/-! ## Cycles of a graph -/

/-- A table made from a list of names has an entry for each of them. -/
theorem lookup_map_keyed {β : Type} (entry : Name → β) (names : List Name) (name : Name) :
    (names.map fun name => (name, entry name)).lookup name =
      if name ∈ names then some (entry name) else none := by
  induction names with
  | nil => simp
  | cons first names ih =>
      rw [List.map_cons, List.lookup_cons, ih]
      by_cases same : name = first
      · simp [same]
      · simp [same, beq_false_of_ne same]

/-- Changing the entries of a table changes what is found, not where. -/
theorem lookup_map_entries {β γ : Type} (change : β → γ) (table : List (Name × β)) (name : Name) :
    (table.map fun (name, entry) => (name, change entry)).lookup name =
      (table.lookup name).map change := by
  induction table with
  | nil => rfl
  | cons first table ih =>
      rw [List.map_cons, List.lookup_cons, List.lookup_cons, ih]
      split <;> rfl

namespace Graph

variable {g : Graph κ} {name : Name} {nodes : NodeSequence}

/-- The simple cycles through `name` that the search finds; none if `name` is not declared. -/
def cyclesOf (g : Graph κ) (name : Name) : List NodeSequence := (g.cycles.lookup name).getD []

/-- A walk from `name` to itself. -/
structure ClosedWalk (g : Graph κ) (name : Name) (nodes : NodeSequence) : Prop
    extends g.WalksFrom name nodes where
  last : nodes.getLast? = some name

theorem lookup_cycles (g : Graph κ) (name : Name) :
    g.cycles.lookup name =
      if name ∈ g.names then
        some (closings g.successors name ((Std.TreeSet.ofList g.names).erase name) name)
      else none := by
  rw [cycles, lookup_map_keyed]

theorem cyclesOf_eq (declared : name ∈ g.names) :
    g.cyclesOf name =
      closings g.successors name ((Std.TreeSet.ofList g.names).erase name) name := by
  rw [cyclesOf, lookup_cycles, if_pos declared, Option.getD_some]

/-- Every declared node has its entry, in name order. -/
theorem cycles_eq (g : Graph κ) : g.cycles = g.names.map fun name => (name, g.cyclesOf name) := by
  rw [cycles]
  refine List.map_congr_left fun name declared => ?_
  rw [cyclesOf_eq declared]

theorem cyclesOf_eq_nil (undeclared : name ∉ g.names) : g.cyclesOf name = [] := by
  rw [cyclesOf, lookup_cycles, if_neg undeclared, Option.getD_none]

/-- Only declared nodes have cycles. -/
theorem mem_names_of_mem_cyclesOf (cycle : nodes ∈ g.cyclesOf name) : name ∈ g.names := by
  by_contra undeclared
  rw [cyclesOf_eq_nil undeclared] at cycle
  cases cycle

/-- A cycle of a node is a walk from the node to itself. -/
theorem closedWalk_of_mem_cyclesOf (cycle : nodes ∈ g.cyclesOf name) : g.ClosedWalk name nodes := by
  rw [cyclesOf_eq (mem_names_of_mem_cyclesOf cycle)] at cycle
  refine ⟨⟨head?_of_mem_closings cycle, ?_⟩, getLast?_of_mem_closings cycle⟩
  exact (isChain_of_mem_closings cycle).imp fun _ _ => leads_of_mem_successors

/-- The cycles of a node are exactly the walks from the node to itself that visit no node
twice on their way. -/
theorem WellFormed.mem_cyclesOf_iff (wf : g.WellFormed) :
    nodes ∈ g.cyclesOf name ↔
      ∃ inner, nodes = name :: (inner ++ [name]) ∧ (name :: inner).Nodup ∧
        nodes.IsChain g.Leads := by
  constructor
  · intro cycle
    have chain := (closedWalk_of_mem_cyclesOf cycle).chain
    rw [cyclesOf_eq (mem_names_of_mem_cyclesOf cycle)] at cycle
    obtain ⟨inner, same, distinct, within⟩ := exists_inner_of_mem_closings cycle
    have apart : name ∉ inner := fun again => (within name again).1 rfl
    exact ⟨inner, same, List.nodup_cons.2 ⟨apart, distinct⟩, chain⟩
  · rintro ⟨inner, rfl, distinct, chain⟩
    obtain ⟨apart, distinctInner⟩ := List.nodup_cons.1 distinct
    have declared : name ∈ g.names := by
      cases inner with
      | nil => exact wf.source_mem (List.isChain_pair.1 chain)
      | cons next inner => exact wf.source_mem (List.isChain_cons_cons.1 chain).1
    have walk : g.WalksFrom name (name :: (inner ++ [name])) := ⟨rfl, chain⟩
    have free : ∀ node ∈ inner,
        node ≠ name ∧ node ∈ (Std.TreeSet.ofList g.names).erase name := by
      intro node member
      have other : node ≠ name := fun same => apart (same ▸ member)
      have reaches : g.Reaches name node := walk.reaches_of_mem (by simp [member])
      refine ⟨other, mem_erase_iff.2 ⟨other, ?_⟩⟩
      simpa using reaches.mem_names declared
    rw [cyclesOf_eq declared]
    exact mem_closings_of_inner distinctInner free
      (chain.imp fun _ _ => wf.mem_successors_iff.2)

/-- A node has a cycle exactly if some walk leads back to it. -/
theorem WellFormed.cyclesOf_ne_nil_iff (wf : g.WellFormed) :
    g.cyclesOf name ≠ [] ↔ g.OnCycle name := by
  constructor
  · intro some
    obtain ⟨nodes, found⟩ := List.exists_mem_of_ne_nil _ some
    obtain ⟨inner, rfl, -, chain⟩ := wf.mem_cyclesOf_iff.1 found
    have goesOn : inner ++ [name] ≠ [] := by simp
    obtain ⟨next, back, split⟩ := List.exists_cons_of_ne_nil goesOn
    rw [split] at chain
    obtain ⟨leads, chainBack⟩ := List.isChain_cons_cons.1 chain
    have walk : g.WalksFrom next (next :: back) := ⟨rfl, chainBack⟩
    have returns : name ∈ next :: back := split ▸ by simp
    exact Relation.TransGen.head' leads (walk.reaches_of_mem returns)
  · intro cycle
    -- the first edge, and then a way back that visits no node twice
    obtain ⟨next, leads, reaches⟩ := Relation.TransGen.head'_iff.1 cycle
    obtain ⟨inner, walk, distinct⟩ := Reaches.exists_simple reaches
    obtain ⟨back, split⟩ := List.head?_eq_some_iff.1 walk.head
    have chain : (name :: (inner ++ [name])).IsChain g.Leads := by
      rw [split]
      exact List.isChain_cons_cons.2 ⟨leads, split ▸ walk.chain⟩
    have once : (name :: inner).Nodup := (List.perm_append_singleton name inner).nodup_iff.1 distinct
    exact List.ne_nil_of_mem (wf.mem_cyclesOf_iff.2 ⟨inner, rfl, once, chain⟩)

/-- The cycles of a node come in name order, and none is a prefix of another. -/
theorem pairwise_forksBelow_cyclesOf (g : Graph κ) (name : Name) :
    (g.cyclesOf name).Pairwise ForksBelow := by
  by_cases declared : name ∈ g.names
  · rw [cyclesOf_eq declared]
    exact pairwise_forksBelow_closings g.increasing_successors
  · rw [cyclesOf_eq_nil declared]
    exact List.Pairwise.nil

/-- The nodes of a graph have one entry each, in name order. -/
theorem map_fst_cycles (g : Graph κ) : g.cycles.map Prod.fst = g.names := by
  rw [cycles_eq, List.map_map]
  exact List.map_id _

theorem eq_cyclesOf_of_mem_cycles {found : List NodeSequence} (entry : (name, found) ∈ g.cycles) :
    found = g.cyclesOf name := by
  rw [cycles_eq] at entry
  obtain ⟨node, -, same⟩ := List.mem_map.1 entry
  obtain ⟨rfl, rfl⟩ := Prod.mk.inj same
  rfl

end Graph

/-! ## The turnstile -/

namespace Turnstile

/-- A coin unlocks the turnstile, and a push locks it again. -/
theorem mem_cyclesOf_locked : ["Locked", "Unlocked", "Locked"] ∈ graph.cyclesOf "Locked" := by
  apply (wellFormed_of_build build_declaration).mem_cyclesOf_iff.2
  refine ⟨["Unlocked"], rfl, by decide, ?_⟩
  exact List.isChain_cons_cons.2 ⟨leads_unlocked, List.isChain_pair.2 leads_locked⟩

end Turnstile

/-! ## Cycles of a built graph -/

/-- **Cycles are found exactly.**  In a built graph every declared node has one entry, and
no other name has one.  The entry of a node lists the walks from the node to itself that
visit no other node twice and the node not in between, each of them once and nothing
else, in name order; so it is empty exactly if no walk of at least one edge leads back to
the node. -/
theorem cycles_exact {d : Declaration κ} {g : Graph κ} (built : d.build = .ok g) :
    (g.cycles.map Prod.fst).Pairwise (· < ·) ∧
    (∀ name, name ∈ g.cycles.map Prod.fst ↔ name ∈ d.names) ∧
    ∀ name found, (name, found) ∈ g.cycles →
      (∀ nodes, nodes ∈ found ↔ ∃ inner, nodes = name :: (inner ++ [name]) ∧
        nodes.IsChain g.Leads ∧ inner.Nodup ∧ name ∉ inner) ∧
      found.Nodup ∧ found.Pairwise (· < ·) ∧ (found = [] ↔ ¬ g.OnCycle name) := by
  have wf := wellFormed_of_build built
  rw [g.map_fst_cycles]
  refine ⟨wf.increasing, fun _ => (Declaration.names_perm_of_build built).mem_iff, ?_⟩
  intro name found entry
  obtain rfl := Graph.eq_cyclesOf_of_mem_cycles entry
  have forks := g.pairwise_forksBelow_cyclesOf name
  refine ⟨fun nodes => ?_, forks.imp ForksBelow.ne, forks.imp ForksBelow.lt, ?_⟩
  · rw [wf.mem_cyclesOf_iff]
    simp only [List.nodup_cons, and_comm]
  · rw [← wf.cyclesOf_ne_nil_iff, not_not]

/-- The turnstile stays unlocked, or is locked and unlocked again; a walk that passes the
unlocked state on its way is no cycle of it. -/
theorem turnstile_cycles_exact :
    Turnstile.declaration.build = .ok Turnstile.graph ∧
      ∃ found, ("Unlocked", found) ∈ Turnstile.graph.cycles ∧ found.Pairwise (· < ·) ∧
        ["Unlocked", "Unlocked"] ∈ found ∧ ["Unlocked", "Locked", "Unlocked"] ∈ found ∧
        ["Unlocked", "Unlocked", "Unlocked"] ∉ found := by
  obtain ⟨-, entries, lists⟩ := cycles_exact Turnstile.build_declaration
  obtain ⟨⟨_, found⟩, entry, rfl⟩ := List.mem_map.1 ((entries "Unlocked").2 (by decide))
  obtain ⟨exactly, -, increasing, -⟩ := lists _ _ entry
  refine ⟨Turnstile.build_declaration, found, entry, increasing, ?_, ?_, ?_⟩
  · have chain := List.isChain_pair.2 Turnstile.leads_unlocked_self
    exact (exactly _).2 ⟨[], rfl, chain, by decide, by decide⟩
  · have chain := List.isChain_cons_cons.2
      ⟨Turnstile.leads_locked, List.isChain_pair.2 Turnstile.leads_unlocked⟩
    exact (exactly _).2 ⟨["Locked"], rfl, chain, by decide, by decide⟩
  · intro again
    obtain ⟨inner, same, -, -, apart⟩ := (exactly _).1 again
    have split : ["Unlocked"] ++ ["Unlocked"] = inner ++ ["Unlocked"] := (List.cons.inj same).2
    obtain rfl := List.append_cancel_right split
    exact apart (List.mem_singleton_self _)

end ScenarioGraph
