/-
# ScenarioGraph.Proofs.Walk.Trail -- what the search for trails finds

`mem_trailsOver` says once how a trail begins: with an unused edge, or nowhere if
there is none.  Everything else follows from it by induction on the trail.

* `consecutive_subset_of_mem_trailsOver`: a trail uses unused edges only.
* `exists_trail_extending`: every walk over unused edges that uses none twice is
  the beginning of a trail.
* `mem_trailsOver_iff`: the trails are exactly the maximal ones.
* `pairwise_forksBelow_trailsOver`: trails come in name order, and no two of
  them run into each other.
* `trails_exact`: all of it, for every graph that is built.
-/
import ScenarioGraph.Proofs.Walk.Consecutive
import ScenarioGraph.Proofs.Walk.Fork

namespace ScenarioGraph

set_option autoImplicit false

/-! ## The search, one step at a time -/

/-- The unused edges that leave `name`. -/
def exits (unused : List Edge) (name : Name) : List Edge := unused.filter fun edge => edge.1 = name

theorem mem_exits {unused : List Edge} {name : Name} {edge : Edge} :
    edge ∈ exits unused name ↔ edge ∈ unused ∧ edge.1 = name := by
  simp [exits]

theorem trailsOver_eq (unused : List Edge) (name : Name) :
    trailsOver unused name =
      if exits unused name = [] then [[name]]
      else (exits unused name).flatMap fun edge =>
        (trailsOver (unused.erase edge) edge.2).map (name :: ·) := by
  rw [trailsOver]
  simp only [exits, List.isEmpty_iff, List.flatMap_subtype, List.unattach_attach]
  congr

/-- Induction along the search: each step takes an exit from the unused edges. -/
@[elab_as_elim]
theorem trails_induction {motive : List Edge → Name → Prop}
    (step : ∀ unused name,
      (∀ edge ∈ exits unused name, motive (unused.erase edge) edge.2) → motive unused name)
    (unused : List Edge) (name : Name) : motive unused name := by
  induction unused, name using trailsOver.induct with
  | case1 unused name _ stuck =>
      have none : exits unused name = [] := List.isEmpty_iff.1 stuck
      refine step unused name fun edge member => ?_
      rw [none] at member
      cases member
  | case2 unused name _ _ ih => exact step unused name ih

variable {unused : List Edge} {name : Name} {trail : NodeSequence}

/-- A trail begins with an unused edge and goes on without it, or stays where it is. -/
theorem mem_trailsOver :
    trail ∈ trailsOver unused name ↔
      (exits unused name = [] ∧ trail = [name]) ∨
      ∃ next rest, (name, next) ∈ unused ∧ rest ∈ trailsOver (unused.erase (name, next)) next ∧
        trail = name :: rest := by
  have leaves : ∀ edge ∈ exits unused name,
      ∃ next, (name, next) ∈ unused ∧ edge = (name, next) := by
    rintro ⟨source, next⟩ member
    obtain ⟨isUnused, rfl⟩ := mem_exits.1 member
    exact ⟨next, isUnused, rfl⟩
  rw [trailsOver_eq]
  split
  · rename_i stuck
    simp only [stuck, List.mem_singleton, true_and]
    refine (or_iff_left ?_).symm
    rintro ⟨next, rest, isUnused, -⟩
    simpa [stuck] using mem_exits.2 ⟨isUnused, rfl⟩
  · rename_i free
    simp only [free, false_and, false_or, List.mem_flatMap, List.mem_map]
    constructor
    · rintro ⟨edge, member, rest, found, rfl⟩
      obtain ⟨next, isUnused, rfl⟩ := leaves edge member
      exact ⟨next, rest, isUnused, found, rfl⟩
    · rintro ⟨next, rest, isUnused, found, rfl⟩
      exact ⟨(name, next), mem_exits.2 ⟨isUnused, rfl⟩, rest, found, rfl⟩

theorem head?_of_mem_trailsOver (found : trail ∈ trailsOver unused name) :
    trail.head? = some name := by
  rcases mem_trailsOver.1 found with ⟨-, rfl⟩ | ⟨next, rest, -, -, rfl⟩ <;> rfl

/-- A trail that goes on uses its first edge, then those of the rest. -/
theorem consecutive_cons_of_mem_trailsOver {next : Name} {rest : NodeSequence}
    (found : rest ∈ trailsOver unused next) (name : Name) :
    consecutive (name :: rest) = (name, next) :: consecutive rest := by
  obtain ⟨later, rfl⟩ := List.head?_eq_some_iff.1 (head?_of_mem_trailsOver found)
  exact consecutive_cons_cons name next later

/-! ## Trails use unused edges -/

theorem consecutive_subset_of_mem_trailsOver (found : trail ∈ trailsOver unused name) :
    ∀ edge ∈ consecutive trail, edge ∈ unused := by
  induction trail generalizing unused name with
  | nil => simp
  | cons first trail ih =>
      rcases mem_trailsOver.1 found with ⟨-, only⟩ | ⟨next, rest, isUnused, foundRest, same⟩
      · rw [only]
        simp
      · obtain ⟨rfl, rfl⟩ := List.cons.inj same
        rw [consecutive_cons_of_mem_trailsOver foundRest]
        intro edge member
        rcases List.mem_cons.1 member with rfl | later
        · exact isUnused
        · exact List.mem_of_mem_erase (ih foundRest edge later)

/-! ## Every walk without repeated edges begins a trail -/

theorem trailsOver_ne_nil (unused : List Edge) (name : Name) : trailsOver unused name ≠ [] := by
  induction unused, name using trails_induction with
  | step unused name ih =>
      rw [trailsOver_eq]
      split
      · simp
      · rename_i free
        obtain ⟨edge, member⟩ := List.exists_mem_of_ne_nil _ free
        obtain ⟨rest, found⟩ := List.exists_mem_of_ne_nil _ (ih edge member)
        exact List.ne_nil_of_mem (List.mem_flatMap.2 ⟨edge, member, List.mem_map_of_mem found⟩)

/-- A walk that uses unused edges, none of them twice, is the beginning of a trail. -/
theorem exists_trail_extending {path : NodeSequence} (begins : path.head? = some name)
    (once : (consecutive path).Nodup) (within : ∀ edge ∈ consecutive path, edge ∈ unused) :
    ∃ trail ∈ trailsOver unused name, path <+: trail := by
  induction path generalizing unused name with
  | nil => cases begins
  | cons first path ih =>
      cases begins
      cases path with
      | nil =>
          obtain ⟨trail, found⟩ := List.exists_mem_of_ne_nil _ (trailsOver_ne_nil unused first)
          obtain ⟨rest, rfl⟩ := List.head?_eq_some_iff.1 (head?_of_mem_trailsOver found)
          exact ⟨first :: rest, found, List.prefix_append [first] rest⟩
      | cons next path =>
          rw [consecutive_cons_cons] at once within
          obtain ⟨fresh, onceRest⟩ := List.nodup_cons.1 once
          have withinRest : ∀ edge ∈ consecutive (next :: path),
              edge ∈ unused.erase (first, next) := by
            intro edge later
            refine (List.mem_erase_of_ne ?_).2 (within edge (List.mem_cons_of_mem _ later))
            exact fun same => fresh (same ▸ later)
          obtain ⟨rest, found, begins⟩ := ih rfl onceRest withinRest
          have isUnused := within (first, next) List.mem_cons_self
          exact ⟨first :: rest, mem_trailsOver.2 (Or.inr ⟨next, rest, isUnused, found, rfl⟩),
            (List.prefix_cons_inj first).2 begins⟩

/-! ## Exactly the maximal trails -/

/-- A walk from `name` over unused edges that uses none of them twice, and cannot go on:
every unused edge that leaves its last node is used on the way. -/
structure MaximalTrail (unused : List Edge) (name : Name) (trail : NodeSequence) : Prop where
  head : trail.head? = some name
  once : (consecutive trail).Nodup
  within : ∀ edge ∈ consecutive trail, edge ∈ unused
  stuck : ∀ last ∈ trail.getLast?, ∀ next, (last, next) ∈ unused →
    (last, next) ∈ consecutive trail

theorem nodup_consecutive_of_mem_trailsOver (distinct : unused.Nodup)
    (found : trail ∈ trailsOver unused name) : (consecutive trail).Nodup := by
  induction trail generalizing unused name with
  | nil => exact List.nodup_nil
  | cons first trail ih =>
      rcases mem_trailsOver.1 found with ⟨-, only⟩ | ⟨next, rest, -, foundRest, same⟩
      · rw [only]
        exact List.nodup_nil
      · obtain ⟨rfl, rfl⟩ := List.cons.inj same
        rw [consecutive_cons_of_mem_trailsOver foundRest]
        refine List.nodup_cons.2 ⟨?_, ih (distinct.erase _) foundRest⟩
        intro again
        have still := consecutive_subset_of_mem_trailsOver foundRest _ again
        exact (distinct.mem_erase_iff.1 still).1 rfl

/-- A trail ends where every unused edge is used by then. -/
theorem stuck_of_mem_trailsOver (found : trail ∈ trailsOver unused name) :
    ∀ last ∈ trail.getLast?, ∀ next, (last, next) ∈ unused →
      (last, next) ∈ consecutive trail := by
  induction trail generalizing unused name with
  | nil => simp
  | cons first trail ih =>
      rcases mem_trailsOver.1 found with ⟨none, only⟩ | ⟨next, rest, -, foundRest, same⟩
      · rw [only]
        intro last isLast other isUnused
        obtain rfl : name = last := Option.some.inj isLast
        have exit := mem_exits.2 ⟨isUnused, rfl⟩
        rw [none] at exit
        cases exit
      · obtain ⟨rfl, rfl⟩ := List.cons.inj same
        rw [consecutive_cons_of_mem_trailsOver foundRest]
        intro last isLast other isUnused
        by_cases now : (last, other) = (first, next)
        · rw [now]
          exact List.mem_cons_self
        · have isLastRest : last ∈ trail.getLast? := by
            obtain ⟨later, rfl⟩ := List.head?_eq_some_iff.1 (head?_of_mem_trailsOver foundRest)
            exact isLast
          have stillUnused := (List.mem_erase_of_ne now).2 isUnused
          exact List.mem_cons_of_mem _ (ih foundRest last isLastRest other stillUnused)

/-- Whatever goes on after a maximal trail uses an edge twice. -/
theorem MaximalTrail.not_nodup_append {next : Name} {rest : NodeSequence}
    (maximal : MaximalTrail unused name trail)
    (within : ∀ edge ∈ consecutive (trail ++ next :: rest), edge ∈ unused) :
    ¬ (consecutive (trail ++ next :: rest)).Nodup := by
  intro once
  obtain ⟨front, last, rfl⟩ := exists_concat_of_head? maximal.head
  have split : consecutive (front ++ [last] ++ next :: rest) =
      consecutive (front ++ [last]) ++ (last, next) :: consecutive (next :: rest) := by
    rw [List.append_assoc, List.singleton_append, consecutive_append_cons, consecutive_cons_cons]
  rw [split] at once within
  have before := maximal.stuck last (by simp) next (within _ (by simp))
  exact (List.nodup_append.1 once).2.2 _ before _ List.mem_cons_self rfl

/-- The search finds exactly the maximal trails. -/
theorem mem_trailsOver_iff (distinct : unused.Nodup) :
    trail ∈ trailsOver unused name ↔ MaximalTrail unused name trail := by
  constructor
  · intro found
    exact ⟨head?_of_mem_trailsOver found, nodup_consecutive_of_mem_trailsOver distinct found,
      consecutive_subset_of_mem_trailsOver found, stuck_of_mem_trailsOver found⟩
  · intro maximal
    obtain ⟨whole, found, rest, rfl⟩ :=
      exists_trail_extending maximal.head maximal.once maximal.within
    cases rest with
    | nil => simpa using found
    | cons next rest =>
        have once := nodup_consecutive_of_mem_trailsOver distinct found
        have within := consecutive_subset_of_mem_trailsOver found
        exact absurd once (maximal.not_nodup_append within)

/-! ## Order of the trails -/

/-- Trails come in name order, and none is a prefix of another. -/
theorem pairwise_forksBelow_trailsOver (increasing : IncreasingTargets unused) :
    (trailsOver unused name).Pairwise ForksBelow := by
  induction unused, name using trails_induction with
  | step unused name ih =>
      rw [trailsOver_eq]
      split
      · exact List.pairwise_singleton _ _
      rw [List.pairwise_flatMap]
      constructor
      · intro edge member
        exact pairwise_forksBelow_cons (ih edge member (increasing.sublist List.erase_sublist)) name
      · refine (increasing.filter _).imp_of_mem ?_
        intro edge other inEdge inOther below first inFirst second inSecond
        obtain ⟨rest, foundRest, rfl⟩ := List.mem_map.1 inFirst
        obtain ⟨later, foundLater, rfl⟩ := List.mem_map.1 inSecond
        obtain ⟨rest, rfl⟩ := List.head?_eq_some_iff.1 (head?_of_mem_trailsOver foundRest)
        obtain ⟨later, rfl⟩ := List.head?_eq_some_iff.1 (head?_of_mem_trailsOver foundLater)
        have sources : edge.1 = other.1 := (mem_exits.1 inEdge).2.trans (mem_exits.1 inOther).2.symm
        exact .later name (.here rest later (below sources))

/-! ## Trails of a graph -/

namespace Graph

variable {κ : Type} {g : Graph κ} {start : Name}

/-- A walk from `start` that uses no edge twice and cannot go on: every edge that leaves
its last node is used on the way. -/
structure TrailFrom (g : Graph κ) (start : Name) (nodes : NodeSequence) : Prop
    extends g.WalksFrom start nodes where
  once : (consecutive nodes).Nodup
  stuck : ∀ last ∈ nodes.getLast?, ∀ next, g.Leads last next → (last, next) ∈ consecutive nodes

theorem trails_eq_ok (declared : start ∈ g.names) :
    g.trails start = .ok (trailsOver g.edges start) := by
  rw [trails, if_pos (contains_iff.2 declared)]

theorem trails_eq_error (undeclared : start ∉ g.names) :
    g.trails start = .error (.unknownNode start) := by
  rw [trails, if_neg (mt contains_iff.1 undeclared)]

/-- The edges of a graph are the pairs that an edge leads between, so its trails are the
maximal ones over them. -/
theorem WellFormed.mem_trails_iff (wf : g.WellFormed) {nodes : NodeSequence} :
    nodes ∈ trailsOver g.edges start ↔ g.TrailFrom start nodes := by
  rw [mem_trailsOver_iff wf.increasingTargets_edges.nodup]
  constructor
  · intro maximal
    have chain : nodes.IsChain g.Leads := by
      apply isChain_iff_consecutive.2
      intro name next used
      exact wf.mem_edges_iff.1 (maximal.within _ used)
    refine ⟨⟨maximal.head, chain⟩, maximal.once, ?_⟩
    intro last isLast next leads
    exact maximal.stuck last isLast next (wf.mem_edges_iff.2 leads)
  · intro trail
    refine ⟨trail.head, trail.once, ?_, ?_⟩
    · rintro ⟨name, next⟩ used
      exact wf.mem_edges_iff.2 (trail.leads used)
    · intro last isLast next isEdge
      exact trail.stuck last isLast next (wf.mem_edges_iff.1 isEdge)

theorem WellFormed.pairwise_forksBelow_trails (wf : g.WellFormed) (start : Name) :
    (trailsOver g.edges start).Pairwise ForksBelow :=
  pairwise_forksBelow_trailsOver wf.increasingTargets_edges

end Graph

namespace Turnstile

/-- A coin, a tip and a push use three edges, and no other edge leaves the locked state. -/
theorem trailFrom_tipped :
    graph.TrailFrom "Locked" ["Locked", "Unlocked", "Unlocked", "Locked"] := by
  have chain : ["Locked", "Unlocked", "Unlocked", "Locked"].IsChain graph.Leads := by
    simp only [List.isChain_cons_cons, List.isChain_singleton, and_true]
    exact ⟨leads_unlocked, leads_unlocked_self, leads_locked⟩
  refine ⟨⟨rfl, chain⟩, by decide, ?_⟩
  intro last isLast next leads
  obtain rfl : "Locked" = last := Option.some.inj isLast
  obtain ⟨node, member, rfl, entered⟩ := leads
  have used : ∀ node ∈ graph.nodes, "Locked" ∈ node.predecessors →
      ("Locked", node.name) ∈ consecutive ["Locked", "Unlocked", "Unlocked", "Locked"] := by decide
  exact used node member entered

end Turnstile

/-! ## Trails of a built graph -/

/-- **Trails are enumerated exactly.**  In a built graph no name but that of a declared
node has trails.  From a declared node, the walks that use no edge twice and cannot go
on are listed, each of them once and nothing else; they come in name order, and none of
them is the beginning of another. -/
theorem trails_exact {κ : Type} {d : Declaration κ} {g : Graph κ} (built : d.build = .ok g)
    (start : Name) :
    (start ∉ d.names → g.trails start = .error (.unknownNode start)) ∧
    (start ∈ d.names → ∃ trails, g.trails start = .ok trails ∧
      (∀ nodes, nodes ∈ trails ↔ g.TrailFrom start nodes) ∧ trails.Nodup ∧
      trails.Pairwise (· < ·) ∧
      ∀ first ∈ trails, ∀ second ∈ trails, first <+: second → first = second) := by
  have wf := wellFormed_of_build built
  have same : start ∈ g.names ↔ start ∈ d.names :=
    (Declaration.names_perm_of_build built).mem_iff
  constructor
  · intro undeclared
    exact Graph.trails_eq_error (mt same.1 undeclared)
  · intro declared
    have forks := wf.pairwise_forksBelow_trails start
    refine ⟨_, Graph.trails_eq_ok (same.2 declared), ?_, ?_, ?_, ?_⟩
    · exact fun _ => wf.mem_trails_iff
    · exact forks.imp ForksBelow.ne
    · exact forks.imp ForksBelow.lt
    · exact fun _ inFirst _ inSecond begins => eq_of_isPrefix forks inFirst inSecond begins

/-- The turnstile is unlocked, tipped and locked on one trail, and has no state `Broken`. -/
theorem turnstile_trails_exact :
    Turnstile.declaration.build = .ok Turnstile.graph ∧
      Turnstile.graph.trails "Broken" = .error (.unknownNode "Broken") ∧
      ∃ trails, Turnstile.graph.trails "Locked" = .ok trails ∧
        ["Locked", "Unlocked", "Unlocked", "Locked"] ∈ trails ∧ ["Locked", "Unlocked"] ∉ trails ∧
        trails.Pairwise (· < ·) := by
  have unknown := (trails_exact Turnstile.build_declaration "Broken").1 (by decide)
  obtain ⟨trails, searched, exactly, -, increasing, noPrefix⟩ :=
    (trails_exact Turnstile.build_declaration "Locked").2 (by decide)
  have tipped := (exactly _).2 Turnstile.trailFrom_tipped
  refine ⟨Turnstile.build_declaration, unknown, trails, searched, tipped, ?_, increasing⟩
  intro unfinished
  have same := noPrefix _ unfinished _ tipped ⟨["Unlocked", "Locked"], rfl⟩
  exact absurd same (by decide)

end ScenarioGraph
