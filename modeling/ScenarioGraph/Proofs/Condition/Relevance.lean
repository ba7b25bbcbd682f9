/-
# ScenarioGraph.Proofs.Condition.Relevance -- what a condition looks at

A condition compares the nodes of a history with the names that it mentions, and never
two nodes with each other.  So the nodes that it does not mention may be exchanged for one
another, place by place (`History.mask` makes them all alike); and they may be left out
where the history begins.  Left out at its end they uncover another last node, which only
`Condition.lastIn` looks at.

* `Condition.holds_congr_masked`: two histories with one masked form are told apart by no
  condition on the names kept.
* `Condition.holds_append_left`, `Condition.holds_append_right`: visits that a condition
  does not mention, before a history and after it.
* `conditions_see_only_names`, `conditions_ignore_unrelated`: the same for histories that
  agree on the names of a condition, for the guards of a built graph, and for any visits.
-/
import ScenarioGraph.Proofs.Condition.Meaning
import ScenarioGraph.Proofs.Graph.Validity
import Mathlib.Tactic.IntervalCases

namespace ScenarioGraph

set_option autoImplicit false

variable {κ : Type}

/-! ## Masked histories -/

namespace History

variable {names : NameSet} {name : Name} {nodes window : List Name}

/-- At each place the two hold one name, or both hold names outside the set. -/
structure AgreeOn (names : NameSet) (first second : History) : Prop where
  size : first.size = second.size
  place : ∀ i, (inFirst : i < first.size) → (inSecond : i < second.size) →
    first[i] = second[i] ∨ first[i] ∉ names ∧ second[i] ∉ names

/-- A name of the set is kept; all others look alike. -/
def mask (names : NameSet) (name : Name) : Option Name := if name ∈ names then some name else none

theorem mask_of_mem (member : name ∈ names) : mask names name = some name := if_pos member

theorem mask_of_not_mem (apart : name ∉ names) : mask names name = none := if_neg apart

theorem mask_eq_some_iff {kept : Name} : mask names name = some kept ↔ kept ∈ names ∧ name = kept := by
  by_cases member : name ∈ names
  · rw [mask_of_mem member, Option.some.injEq]
    exact ⟨fun same => ⟨same ▸ member, same⟩, And.right⟩
  · simp only [mask_of_not_mem member, reduceCtorEq, false_iff, not_and]
    rintro inside rfl
    exact member inside

/-- Histories that agree on a set have one masked form. -/
theorem AgreeOn.map_mask_eq {first second : History} (agree : AgreeOn names first second) :
    first.toList.map (mask names) = second.toList.map (mask names) := by
  refine List.ext_getElem (by simpa using agree.size) fun i inFirst inSecond => ?_
  rw [List.length_map, Array.length_toList] at inFirst inSecond
  rw [List.getElem_map, List.getElem_map, Array.getElem_toList, Array.getElem_toList]
  rcases agree.place i inFirst inSecond with same | ⟨outside, outsideToo⟩
  · rw [same]
  · rw [mask_of_not_mem outside, mask_of_not_mem outsideToo]

theorem some_mem_map_mask_iff (kept : name ∈ names) :
    some name ∈ nodes.map (mask names) ↔ name ∈ nodes := by
  simp only [List.mem_map, mask_eq_some_iff]
  constructor
  · rintro ⟨node, member, -, rfl⟩
    exact member
  · exact fun member => ⟨name, member, kept, rfl⟩

theorem map_mask_eq_map_some_iff (kept : ∀ name ∈ window, name ∈ names) :
    nodes.map (mask names) = window.map some ↔ nodes = window := by
  induction window generalizing nodes with
  | nil => simp
  | cons first rest ih =>
      rw [List.forall_mem_cons] at kept
      cases nodes with
      | nil => simp
      | cons node nodes =>
          simp only [List.map_cons, List.cons.injEq, mask_eq_some_iff, ih kept.2, kept.1, true_and]

/-- A window is a part of the history exactly if it is one of the masked history. -/
theorem infix_map_mask_iff (kept : ∀ name ∈ window, name ∈ names) :
    window.map some <:+: nodes.map (mask names) ↔ window <:+: nodes := by
  rw [← (map_mask_eq_map_some_iff kept).2 rfl]
  refine ⟨?_, fun part => part.map _⟩
  rintro ⟨front, back, split⟩
  obtain ⟨most, after, rfl, masked, -⟩ := List.map_eq_append_iff.1 split.symm
  obtain ⟨before, part, rfl, -, masked⟩ := List.map_eq_append_iff.1 masked
  rw [(map_mask_eq_map_some_iff kept).2 rfl, map_mask_eq_map_some_iff kept] at masked
  exact ⟨before, after, by rw [masked]⟩

end History

namespace Condition

variable {names : NameSet} {first second : History}

theorem holds_sequence_iff_masked {window : List Name} (kept : ∀ name ∈ window, name ∈ names)
    (history : History) :
    (sequence window).holds history = true ↔
      window.map some <:+: history.toList.map (History.mask names) := by
  rw [holds_sequence_iff, History.infix_map_mask_iff kept]

theorem holds_moreRecent_iff_masked {older newer : Name} (keptOlder : older ∈ names)
    (keptNewer : newer ∈ names) (history : History) :
    (moreRecent older newer).holds history = true ↔
      ∃ k, some older ∉ (history.toList.map (History.mask names)).drop k ∧
        some newer ∈ (history.toList.map (History.mask names)).drop k := by
  simp only [holds_moreRecent_iff, ← List.map_drop, History.some_mem_map_mask_iff keptOlder,
    History.some_mem_map_mask_iff keptNewer]

theorem holds_lastIn_iff_masked {set : NameSet} (kept : ∀ name ∈ set, name ∈ names)
    (history : History) :
    (lastIn set).holds history = true ↔
      ∃ last ∈ set, (history.toList.map (History.mask names)).getLast? = some (some last) := by
  rw [holds_lastIn_iff]
  refine exists_congr fun last => and_congr_right fun member => ?_
  simp [List.getLast?_map, History.mask_eq_some_iff, kept last member]

/-- A condition on names that are kept is not changed by masking the others. -/
theorem holds_congr_masked {condition : Condition} (kept : ∀ name ∈ condition.names, name ∈ names)
    (masked : first.toList.map (History.mask names) = second.toList.map (History.mask names)) :
    condition.holds first = condition.holds second := by
  induction condition with
  | sequence window =>
      have kept : ∀ name ∈ window, name ∈ names := fun name member =>
        kept name (mem_names_iff.2 (.sequence member))
      rw [Bool.eq_iff_iff, holds_sequence_iff_masked kept, holds_sequence_iff_masked kept, masked]
  | moreRecent older newer =>
      have keptOlder : older ∈ names := kept older (mem_names_iff.2 (.older newer))
      have keptNewer : newer ∈ names := kept newer (mem_names_iff.2 (.newer older))
      rw [Bool.eq_iff_iff, holds_moreRecent_iff_masked keptOlder keptNewer,
        holds_moreRecent_iff_masked keptOlder keptNewer, masked]
  | lastIn set =>
      have kept : ∀ name ∈ set, name ∈ names := kept
      rw [Bool.eq_iff_iff, holds_lastIn_iff_masked kept, holds_lastIn_iff_masked kept, masked]
  | and left right ihLeft ihRight | or left right ihLeft ihRight =>
      rw [holds, holds, ihLeft fun name member => kept name (NameSet.mem_union.2 (Or.inl member)),
        ihRight fun name member => kept name (NameSet.mem_union.2 (Or.inr member))]
  | not inner ih => rw [holds, holds, ih kept]

theorem holds_of_agreeOn {condition : Condition} (agree : first.AgreeOn condition.names second) :
    condition.holds first = condition.holds second :=
  holds_congr_masked (fun _ => id) agree.map_mask_eq

end Condition

/-! ## Guards of a built graph -/

namespace Guard

/-- Every name that the guard mentions. -/
def names : Guard → NameSet
  | after names => names
  | when condition => condition.names

theorem accepts_of_agreeOn {guard : Guard} {first second : History}
    (agree : first.AgreeOn guard.names second) : guard.accepts first = guard.accepts second := by
  cases guard with
  | after names =>
      have asCondition : ∀ history, (after names).accepts history =
          (Condition.lastIn names).holds history := fun _ => rfl
      rw [asCondition, asCondition]
      exact Condition.holds_of_agreeOn agree
  | when condition => exact Condition.holds_of_agreeOn agree

/-- What a guard of a well-formed graph may mention is declared. -/
theorem Allowed.mem_names {g : Graph κ} (wf : g.WellFormed) {node : Node κ}
    (member : node ∈ g.nodes) {guard : Guard} (allowed : guard.Allowed g.names node.predecessors) :
    ∀ name ∈ guard.names, name ∈ g.names := by
  cases guard with
  | after names => exact fun name listed => wf.declared node member name (allowed name listed)
  | when condition => exact allowed

end Guard

/-- **A condition sees only the names that it mentions.**  Two histories of one length that
hold the same name at each place, or two names that the condition does not mention, are not
told apart by it.  The guards of a built graph mention only names that they may, all of
them declared, and see nothing else. -/
theorem conditions_see_only_names :
    (∀ (condition : Condition) (first second : History), first.AgreeOn condition.names second →
      condition.holds first = condition.holds second) ∧
    ∀ (d : Declaration κ) (g : Graph κ), d.build = .ok g →
      ∀ node ∈ g.nodes, ∀ guard ∈ node.guards,
        guard.Allowed g.names node.predecessors ∧ (∀ name ∈ guard.names, name ∈ g.names) ∧
          ∀ first second : History, first.AgreeOn guard.names second →
            guard.accepts first = guard.accepts second := by
  refine ⟨fun _ _ _ => Condition.holds_of_agreeOn, ?_⟩
  intro d g built node member guard listed
  have allowed := allowed_of_build built member listed
  refine ⟨allowed, allowed.mem_names (wellFormed_of_build built) member, ?_⟩
  exact fun _ _ => Guard.accepts_of_agreeOn

namespace Turnstile

/-- The guard of the only check of a turnstile. -/
def wasLocked : Guard := .when (.lastIn (NameSet.ofList ["Locked"]))

/-- Tips, which the guard of the check does not mention. -/
def tipped : History := #["Locked", "Unlocked", "Unlocked"]

/-- Other visits that it does not mention, of nodes that a turnstile does not have. -/
def broken : History := #["Locked", "Broken", "Repaired"]

theorem tipped_agreeOn : History.AgreeOn wasLocked.names tipped broken := by
  have first : "Unlocked" ∉ wasLocked.names ∧ "Broken" ∉ wasLocked.names := by decide +kernel
  have second : "Unlocked" ∉ wasLocked.names ∧ "Repaired" ∉ wasLocked.names := by decide +kernel
  refine ⟨rfl, fun i inFirst _ => ?_⟩
  have bound : i < 3 := inFirst
  interval_cases i
  · exact Or.inl rfl
  · exact Or.inr first
  · exact Or.inr second

end Turnstile

/-- The check of a turnstile does not tell tips from a repair. -/
theorem turnstile_check_sees_only_names :
    Turnstile.declaration.build = .ok Turnstile.graph ∧
      (∃ node ∈ Turnstile.graph.nodes, Turnstile.wasLocked ∈ node.guards ∧
        Turnstile.wasLocked.Allowed Turnstile.graph.names node.predecessors) ∧
      History.AgreeOn Turnstile.wasLocked.names Turnstile.tipped Turnstile.broken ∧
      Turnstile.wasLocked.accepts Turnstile.tipped = Turnstile.wasLocked.accepts Turnstile.broken := by
  obtain ⟨node, member, listed⟩ :
      ∃ node ∈ Turnstile.graph.nodes, Turnstile.wasLocked ∈ node.guards := by decide +kernel
  obtain ⟨allowed, -, sees⟩ := conditions_see_only_names.2 _ _ Turnstile.build_declaration node
    member Turnstile.wasLocked listed
  exact ⟨Turnstile.build_declaration, ⟨node, member, listed, allowed⟩, Turnstile.tipped_agreeOn,
    sees _ _ Turnstile.tipped_agreeOn⟩

/-! ## Unrelated visits -/

section Unrelated

variable {before nodes after window : List Name} {name : Name}

/-- A window has no part in nodes that it does not name. -/
theorem infix_append_left_iff (apart : ∀ name ∈ window, name ∉ before) :
    window <:+: before ++ nodes ↔ window <:+: nodes := by
  -- what the window shares with the nodes before is empty
  have none : ∀ part : List Name, part ⊆ window → part ⊆ before → part = [] :=
    fun part inWindow inBefore => List.eq_nil_iff_forall_not_mem.2 fun name member =>
      apart name (inWindow member) (inBefore member)
  rw [List.infix_append_iff]
  constructor
  · rintro (inside | part | ⟨front, back, rfl, ends, begins⟩)
    · rw [none window (List.Subset.refl _) inside.subset]
      exact List.nil_infix
    · exact part
    · rw [none front (List.subset_append_left _ _) ends.subset, List.nil_append]
      exact begins.isInfix
  · exact fun part => Or.inr (Or.inl part)

theorem infix_append_right_iff (apart : ∀ name ∈ window, name ∉ after) :
    window <:+: nodes ++ after ↔ window <:+: nodes := by
  have apart : ∀ name ∈ window.reverse, name ∉ after.reverse := by simpa using apart
  rw [← List.reverse_infix, List.reverse_append, infix_append_left_iff apart, List.reverse_infix]

theorem mem_drop_around_iff (notBefore : name ∉ before) (notAfter : name ∉ after) (k : Nat) :
    name ∈ (before ++ nodes ++ after).drop k ↔ name ∈ nodes.drop (k - before.length) := by
  simp only [List.drop_append, List.mem_append]
  have notBefore : name ∉ before.drop k := mt List.mem_of_mem_drop notBefore
  have notAfter : name ∉ after.drop (k - (before ++ nodes).length) :=
    mt List.mem_of_mem_drop notAfter
  simp only [notBefore, notAfter, false_or, or_false]

theorem getLast?_append_eq_some_iff (apart : name ∉ before) :
    (before ++ nodes).getLast? = some name ↔ nodes.getLast? = some name := by
  rw [List.getLast?_append, Option.or_eq_some_iff]
  refine ⟨fun last => last.resolve_right ?_, Or.inl⟩
  exact fun ⟨_, last⟩ => apart (List.mem_of_getLast? last)

end Unrelated

namespace Condition

/-- The condition nowhere asks for the last node. -/
def LastFree : Condition → Prop
  | sequence _ => True
  | moreRecent _ _ => True
  | lastIn _ => False
  | and left right => left.LastFree ∧ right.LastFree
  | or left right => left.LastFree ∧ right.LastFree
  | not inner => inner.LastFree

/-- Visits that the condition does not mention, before the history and after it; after it
only if the condition does not ask for the last node. -/
theorem holds_around {condition : Condition} {before history after : History}
    (notBefore : ∀ name ∈ condition.names, name ∉ before)
    (notAfter : ∀ name ∈ condition.names, name ∉ after)
    (free : after = #[] ∨ condition.LastFree) :
    condition.holds (before ++ history ++ after) = condition.holds history := by
  simp only [← Array.mem_toList_iff] at notBefore notAfter
  induction condition with
  | sequence window =>
      have mentioned : ∀ name ∈ window, name ∈ (sequence window).names := fun name member =>
        mem_names_iff.2 (.sequence member)
      rw [Bool.eq_iff_iff, holds_sequence_iff, holds_sequence_iff, Array.toList_append,
        Array.toList_append,
        infix_append_right_iff fun name member => notAfter name (mentioned name member),
        infix_append_left_iff fun name member => notBefore name (mentioned name member)]
  | moreRecent older newer =>
      have mentionedOlder : older ∈ (moreRecent older newer).names :=
        mem_names_iff.2 (.older newer)
      have mentionedNewer : newer ∈ (moreRecent older newer).names :=
        mem_names_iff.2 (.newer older)
      rw [Bool.eq_iff_iff, holds_moreRecent_iff, holds_moreRecent_iff]
      simp only [Array.toList_append,
        mem_drop_around_iff (notBefore older mentionedOlder) (notAfter older mentionedOlder),
        mem_drop_around_iff (notBefore newer mentionedNewer) (notAfter newer mentionedNewer)]
      constructor
      · rintro ⟨k, split⟩
        exact ⟨_, split⟩
      · rintro ⟨k, split⟩
        exact ⟨k + before.toList.length, by rwa [Nat.add_sub_cancel]⟩
  | lastIn set =>
      obtain rfl : after = #[] := free.resolve_right id
      rw [Bool.eq_iff_iff, holds_lastIn_iff, holds_lastIn_iff, Array.append_empty,
        Array.toList_append]
      exact exists_congr fun last => and_congr_right fun member =>
        getLast?_append_eq_some_iff (notBefore last member)
  | and left right ihLeft ihRight | or left right ihLeft ihRight =>
      have inLeft : ∀ name ∈ left.names, name ∈ left.names.union right.names :=
        fun name member => NameSet.mem_union.2 (Or.inl member)
      have inRight : ∀ name ∈ right.names, name ∈ left.names.union right.names :=
        fun name member => NameSet.mem_union.2 (Or.inr member)
      rw [holds, holds,
        ihLeft (free.imp_right And.left) (fun name member => notBefore name (inLeft name member))
          fun name member => notAfter name (inLeft name member),
        ihRight (free.imp_right And.right) (fun name member => notBefore name (inRight name member))
          fun name member => notAfter name (inRight name member)]
  | not inner ih => rw [holds, holds, ih free notBefore notAfter]

end Condition

/-- **Unrelated visits do not matter.**  Visits to nodes that a condition does not mention
change nothing before a history, and nothing after it unless the condition asks for the last
node. -/
theorem conditions_ignore_unrelated (condition : Condition) (history unrelated : History)
    (apart : ∀ name ∈ unrelated, name ∉ condition.names) :
    condition.holds (unrelated ++ history) = condition.holds history ∧
      (condition.LastFree → condition.holds (history ++ unrelated) = condition.holds history) := by
  have apart : ∀ name ∈ condition.names, name ∉ unrelated := fun name mentioned visited =>
    apart name visited mentioned
  have none : ∀ name ∈ condition.names, name ∉ (#[] : History) := fun _ _ => Array.not_mem_empty _
  constructor
  · have around : condition.holds (unrelated ++ history ++ #[]) = condition.holds history :=
      Condition.holds_around apart none (Or.inl rfl)
    rwa [Array.append_empty] at around
  · intro free
    have around : condition.holds (#[] ++ history ++ unrelated) = condition.holds history :=
      Condition.holds_around none apart (Or.inr free)
    rwa [Array.empty_append] at around

namespace Kettle

/-- It was not filled since it was poured, or it boiled right after it was filled. -/
def safe : Condition :=
  .or (.sequence ["Filled", "Boiling"]) (.not (.moreRecent "Poured" "Filled"))

/-- Visits of a lid. -/
def lid : History := #["Open", "Closed"]

end Kettle

/-- The lid of a kettle may be opened and closed before it is filled, and after it was. -/
theorem kettle_ignores_lid :
    (∀ name ∈ Kettle.lid, name ∉ Kettle.safe.names) ∧ Kettle.safe.LastFree ∧
      Kettle.safe.holds (Kettle.lid ++ Kettle.history) = Kettle.safe.holds Kettle.history ∧
      Kettle.safe.holds (Kettle.history ++ Kettle.lid) = Kettle.safe.holds Kettle.history := by
  have apart : ∀ name ∈ Kettle.lid, name ∉ Kettle.safe.names := by decide +kernel
  have free : Kettle.safe.LastFree := ⟨trivial, trivial⟩
  obtain ⟨before, after⟩ := conditions_ignore_unrelated Kettle.safe Kettle.history Kettle.lid apart
  exact ⟨apart, free, before, after free⟩

/-- A condition on the last node does not ignore what comes after it. -/
example :
    (Condition.lastIn (NameSet.ofList ["Filled"])).holds #["Filled"] = true ∧
      (Condition.lastIn (NameSet.ofList ["Filled"])).holds #["Filled", "Open"] = false := by
  decide +kernel

end ScenarioGraph
