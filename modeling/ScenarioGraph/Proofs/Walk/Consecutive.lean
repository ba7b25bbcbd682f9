/-
# ScenarioGraph.Proofs.Walk.Consecutive -- walks, read as consecutive pairs

The consecutive pairs of a sequence are the edges it uses, in order.  A sequence
walks from a node when it begins there and all its consecutive pairs are edges.

* `mem_consecutive`: a pair is consecutive exactly where it splits the sequence.
* `Graph.WalksFrom.reaches_of_mem`: a walk visits reachable nodes only.
* `Graph.Reaches.exists_simple`: a reachable node is reached by a walk that visits
  no node twice; one more edge still makes no edge used twice
  (`nodup_consecutive_concat`).
-/
import ScenarioGraph.Walk.Trail
import ScenarioGraph.Proofs.Graph.WellFormed
import Mathlib.Data.List.Chain
import Mathlib.Data.List.Nodup

namespace ScenarioGraph

set_option autoImplicit false

variable {κ : Type}

/-! ## Consecutive pairs -/

/-- The pairs of nodes that stand next to each other, in order. -/
def consecutive (nodes : NodeSequence) : List Edge := nodes.zip nodes.tail

@[simp] theorem consecutive_nil : consecutive [] = [] := rfl

@[simp] theorem consecutive_singleton (name : Name) : consecutive [name] = [] := rfl

@[simp] theorem consecutive_cons_cons (name next : Name) (rest : NodeSequence) :
    consecutive (name :: next :: rest) = (name, next) :: consecutive (next :: rest) := rfl

theorem consecutive_append_cons (front back : NodeSequence) (name : Name) :
    consecutive (front ++ name :: back) =
      consecutive (front ++ [name]) ++ consecutive (name :: back) := by
  induction front with
  | nil => rfl
  | cons first front ih =>
      cases front with
      | nil => rfl
      | cons second front =>
          simp only [List.cons_append, consecutive_cons_cons] at ih ⊢
          rw [ih]

theorem mem_consecutive {name next : Name} {nodes : NodeSequence} :
    (name, next) ∈ consecutive nodes ↔ ∃ front back, nodes = front ++ name :: next :: back := by
  constructor
  · intro member
    induction nodes with
    | nil => simp at member
    | cons first nodes ih =>
        cases nodes with
        | nil => simp at member
        | cons second nodes =>
            rw [consecutive_cons_cons, List.mem_cons, Prod.mk.injEq] at member
            rcases member with ⟨rfl, rfl⟩ | later
            · exact ⟨[], nodes, rfl⟩
            · obtain ⟨front, back, split⟩ := ih later
              exact ⟨first :: front, back, by rw [split, List.cons_append]⟩
  · rintro ⟨front, back, rfl⟩
    rw [consecutive_append_cons]
    simp

/-- The sources of the consecutive pairs are all nodes but the last. -/
theorem map_fst_consecutive (nodes : NodeSequence) :
    (consecutive nodes).map Prod.fst = nodes.dropLast := by
  induction nodes with
  | nil => rfl
  | cons name nodes ih =>
      cases nodes with
      | nil => rfl
      | cons next nodes =>
          rw [consecutive_cons_cons, List.map_cons, ih, List.dropLast_cons_cons]

/-- A walk that visits no node twice uses no edge twice, even with one edge more. -/
theorem nodup_consecutive_concat {nodes : NodeSequence} (distinct : nodes.Nodup) (name : Name) :
    (consecutive (nodes ++ [name])).Nodup := by
  refine List.Nodup.of_map Prod.fst ?_
  rw [map_fst_consecutive, List.dropLast_concat]
  exact distinct

theorem isChain_iff_consecutive {r : Name → Name → Prop} {nodes : NodeSequence} :
    nodes.IsChain r ↔ ∀ name next, (name, next) ∈ consecutive nodes → r name next := by
  simp only [List.isChain_iff_forall_rel_of_append_cons_cons, mem_consecutive]
  constructor
  · rintro related name next ⟨front, back, split⟩
    exact related split
  · intro related name next front back split
    exact related name next ⟨front, back, split⟩

/-- A sequence that begins somewhere ends somewhere. -/
theorem exists_concat_of_head? {name : Name} {nodes : NodeSequence}
    (begins : nodes.head? = some name) : ∃ front last, nodes = front ++ [last] := by
  rcases List.eq_nil_or_concat' nodes with rfl | split
  · cases begins
  · exact split

/-! ## Walks of a graph -/

namespace Graph

variable {g : Graph κ} {start name next : Name} {nodes : NodeSequence}

/-- The sequence begins at `start`, and an edge leads from each node to the next. -/
structure WalksFrom (g : Graph κ) (start : Name) (nodes : NodeSequence) : Prop where
  head : nodes.head? = some start
  chain : nodes.IsChain g.Leads

theorem WalksFrom.leads (walk : g.WalksFrom start nodes)
    (member : (name, next) ∈ consecutive nodes) : g.Leads name next :=
  isChain_iff_consecutive.1 walk.chain name next member

/-- A walk visits reachable nodes only. -/
theorem WalksFrom.reaches_of_mem (walk : g.WalksFrom start nodes) (member : name ∈ nodes) :
    g.Reaches start name := by
  obtain ⟨rest, rfl⟩ := List.head?_eq_some_iff.1 walk.head
  rcases List.mem_cons.1 member with rfl | later
  · exact .refl
  · exact walk.chain.cons_induction (g.Reaches start) rest
      (fun _ _ leads reaches => reaches.tail leads) .refl name later

/-- A reachable node is reached by a walk that visits no node twice. -/
theorem Reaches.exists_simple (reaches : g.Reaches start name) :
    ∃ front, g.WalksFrom start (front ++ [name]) ∧ (front ++ [name]).Nodup := by
  induction reaches with
  | refl => exact ⟨[], ⟨rfl, List.isChain_singleton _⟩, List.nodup_singleton _⟩
  | @tail last next _ leads ih =>
      obtain ⟨front, walk, distinct⟩ := ih
      by_cases visited : next ∈ front ++ [last]
      · -- the walk has passed `next` before: stop there
        obtain ⟨before, after, split⟩ := List.append_of_mem visited
        rw [List.append_cons before] at split
        rw [split] at walk distinct
        refine ⟨before, ⟨?_, walk.chain.left_of_append⟩, (List.nodup_append.1 distinct).1⟩
        rw [← walk.head, List.head?_append_of_ne_nil (before ++ [next]) (by simp)]
      · refine ⟨front ++ [last], ⟨?_, ?_⟩, ?_⟩
        · rw [List.head?_append_of_ne_nil _ (by simp)]
          exact walk.head
        · refine walk.chain.append (List.isChain_singleton _) ?_
          simpa using leads
        · refine List.nodup_append.2 ⟨distinct, List.nodup_singleton _, ?_⟩
          intro node member other isNext same
          exact visited (List.mem_singleton.1 isNext ▸ same ▸ member)

end Graph

end ScenarioGraph
