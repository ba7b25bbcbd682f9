/-
# ScenarioGraph.Proofs.Scenario.Naming -- no two scenarios have one name

Scenarios are named one after another, each with a name that is not taken.  A name
that is taken gets a suffix: different numbers give different names, and none of them
gives the name itself, so the names taken, one of which is the name itself, leave one
of as many suffixes free.

* `freeName_not_mem`: the search for a suffix always ends at a name that is free.
* `nodup_names_nameScenarios`: all names of an enumeration are different, whatever the
  sequences and the names of their nodes.
* `NamedAt`, `namedAt_nameScenarios`: which name the scenario at each place has, given
  those of the scenarios before it.
* `name_of_mem_nameScenarios`: sequences whose joined names are different keep them;
  no suffix is added.
-/
import ScenarioGraph.Scenario
import Std.Data.String.ToNat
import Mathlib.Data.List.Nodup
import Mathlib.Data.List.Perm.Subperm

namespace ScenarioGraph

set_option autoImplicit false

variable {taken : Std.TreeSet String} {base : String}

/-! ## Suffixes -/

theorem suffixed_injective (base : String) : Function.Injective (suffixed base) := by
  intro first second same
  unfold suffixed at same
  exact Nat.repr_injective ((String.append_right_inj _).1 same)

/-- A suffix is never empty, so it changes the name. -/
theorem suffixed_ne (base : String) (k : Nat) : suffixed base k ≠ base := by
  intro same
  have lengths := congrArg String.length same
  unfold suffixed at lengths
  rw [String.length_append, String.length_append] at lengths
  have : "#".length = 1 := by decide
  omega

/-- If one of the suffixes tried is free, the search ends at a free one. -/
theorem suffixed_freeSuffix_not_mem {tries k : Nat}
    (free : ∃ tried < tries, suffixed base (k + tried) ∉ taken) :
    suffixed base (freeSuffix taken base tries k) ∉ taken := by
  induction tries generalizing k with
  | zero =>
      obtain ⟨tried, early, -⟩ := free
      exact absurd early (Nat.not_lt_zero tried)
  | succ tries ih =>
      rw [freeSuffix]
      split
      · rename_i present
        apply ih
        obtain ⟨tried, early, absent⟩ := free
        cases tried with
        | zero => exact absurd present absent
        | succ tried =>
            refine ⟨tried, Nat.lt_of_succ_lt_succ early, ?_⟩
            rwa [Nat.add_right_comm, Nat.add_assoc]
      · rename_i absent
        exact absent

/-- The search goes on from `k`, past suffixes that are taken. -/
theorem freeSuffix_least (taken : Std.TreeSet String) (base : String) (tries k : Nat) :
    k ≤ freeSuffix taken base tries k ∧
      ∀ j, k ≤ j → j < freeSuffix taken base tries k → suffixed base j ∈ taken := by
  induction tries generalizing k with
  | zero =>
      refine ⟨Nat.le_refl k, fun j atLeast before => ?_⟩
      rw [freeSuffix] at before
      omega
  | succ tries ih =>
      rw [freeSuffix]
      split
      · rename_i present
        obtain ⟨later, passed⟩ := ih (k + 1)
        refine ⟨by omega, fun j atLeast before => ?_⟩
        rcases Nat.eq_or_lt_of_le atLeast with rfl | after
        · exact present
        · exact passed j after before
      · refine ⟨Nat.le_refl k, fun j atLeast before => ?_⟩
        omega

/-- As many suffixes as there are names taken cannot all be taken, if the name without a
suffix is taken as well. -/
theorem exists_free_suffix (present : base ∈ taken) (k : Nat) :
    ∃ tried < taken.size, suffixed base (k + tried) ∉ taken := by
  by_contra none
  push Not at none
  have injective : Function.Injective fun tried => suffixed base (k + tried) := by
    intro first second same
    have := suffixed_injective base same
    omega
  have distinct : (base :: (List.range taken.size).map fun tried =>
      suffixed base (k + tried)).Nodup := by
    rw [List.nodup_cons]
    constructor
    · intro member
      obtain ⟨tried, -, same⟩ := List.mem_map.1 member
      exact suffixed_ne base _ same
    · exact List.nodup_range.map injective
  have within : (base :: (List.range taken.size).map fun tried =>
      suffixed base (k + tried)) ⊆ taken.toList := by
    intro name member
    rw [Std.TreeSet.mem_toList]
    rcases List.mem_cons.1 member with rfl | member
    · exact present
    · obtain ⟨tried, inRange, rfl⟩ := List.mem_map.1 member
      exact none tried (List.mem_range.1 inRange)
  have counted := (distinct.subperm within).length_le
  rw [Std.TreeSet.length_toList, List.length_cons, List.length_map, List.length_range] at counted
  omega

/-- The name found is not taken. -/
theorem freeName_not_mem (taken : Std.TreeSet String) (k : Nat) (base : String) :
    freeName taken k base ∉ taken := by
  unfold freeName
  split
  · rename_i present
    exact suffixed_freeSuffix_not_mem (exists_free_suffix present k)
  · rename_i absent
    exact absent

/-- A name that is not taken stays as it is. -/
theorem freeName_of_not_mem (k : Nat) (absent : base ∉ taken) : freeName taken k base = base :=
  if_neg absent

/-! ## Scenarios one after another -/

/-- The scenarios of the sequences from place `k` on, when some names are taken. -/
def namedFrom (taken : Std.TreeSet String) (k : Nat) (sequences : List NodeSequence) :
    List Scenario :=
  (((sequences.zipIdx k).mapM fun (nodes, index) => nameNext index nodes).run taken).1

theorem nameScenarios_eq (sequences : List NodeSequence) :
    nameScenarios sequences = namedFrom ∅ 0 sequences :=
  rfl

/-- One scenario is named, and its name is taken from then on. -/
theorem namedFrom_cons (taken : Std.TreeSet String) (k : Nat) (nodes : NodeSequence)
    (rest : List NodeSequence) :
    namedFrom taken k (nodes :: rest) =
      ⟨k, freeName taken k ("-".intercalate nodes), nodes⟩ ::
        namedFrom (taken.insert (freeName taken k ("-".intercalate nodes))) (k + 1) rest := by
  unfold namedFrom
  rw [List.zipIdx_cons, List.mapM_cons]
  rfl

theorem mem_insert_iff {name other : String} :
    other ∈ taken.insert name ↔ other = name ∨ other ∈ taken := by
  rw [Std.TreeSet.mem_insert, Std.compare_eq_iff_eq, eq_comm]

/-- All names are different, and none of them was taken before. -/
theorem nodup_names_namedFrom (taken : Std.TreeSet String) (k : Nat)
    (sequences : List NodeSequence) :
    ((namedFrom taken k sequences).map Scenario.name).Nodup ∧
      ∀ scenario ∈ namedFrom taken k sequences, scenario.name ∉ taken := by
  induction sequences generalizing taken k with
  | nil => exact ⟨List.nodup_nil, fun _ member => absurd member List.not_mem_nil⟩
  | cons nodes rest ih =>
      rw [namedFrom_cons]
      obtain ⟨distinct, fresh⟩ :=
        ih (taken.insert (freeName taken k ("-".intercalate nodes))) (k + 1)
      constructor
      · rw [List.map_cons, List.nodup_cons]
        refine ⟨fun again => ?_, distinct⟩
        obtain ⟨scenario, later, same⟩ := List.mem_map.1 again
        exact fresh scenario later (mem_insert_iff.2 (Or.inl same))
      · intro scenario member
        rcases List.mem_cons.1 member with rfl | later
        · exact freeName_not_mem taken k _
        · intro before
          exact fresh scenario later (mem_insert_iff.2 (Or.inr before))

/-- No two scenarios of an enumeration have one name. -/
theorem nodup_names_nameScenarios (sequences : List NodeSequence) :
    ((nameScenarios sequences).map Scenario.name).Nodup :=
  (nodup_names_namedFrom ∅ 0 sequences).1

/-- A suffix may itself be taken, by a node that has it in its name. -/
example : (nameScenarios [["x#2"], ["x"], ["x"]]).map Scenario.name = ["x#2", "x", "x#3"] := by
  decide +kernel

/-- Where the joined names are different and none of them is taken, none gets a suffix. -/
theorem name_of_mem_namedFrom {k : Nat} {sequences : List NodeSequence}
    (distinct : (sequences.map ("-".intercalate ·)).Nodup)
    (fresh : ∀ nodes ∈ sequences, "-".intercalate nodes ∉ taken) :
    ∀ scenario ∈ namedFrom taken k sequences, scenario.name = "-".intercalate scenario.nodes := by
  induction sequences generalizing taken k with
  | nil => exact fun _ member => absurd member List.not_mem_nil
  | cons nodes rest ih =>
      rw [List.map_cons, List.nodup_cons] at distinct
      have plain := freeName_of_not_mem k (fresh nodes List.mem_cons_self)
      intro scenario member
      rw [namedFrom_cons, plain] at member
      rcases List.mem_cons.1 member with rfl | later
      · rfl
      · refine ih distinct.2 (fun other inRest before => ?_) scenario later
        rcases mem_insert_iff.1 before with same | before
        · exact distinct.1 (same ▸ List.mem_map_of_mem inRest)
        · exact fresh other (List.mem_cons_of_mem _ inRest) before

/-- Different joined names are kept as they are. -/
theorem name_of_mem_nameScenarios {sequences : List NodeSequence}
    (distinct : (sequences.map ("-".intercalate ·)).Nodup) :
    ∀ scenario ∈ nameScenarios sequences, scenario.name = "-".intercalate scenario.nodes := by
  rw [nameScenarios_eq]
  exact name_of_mem_namedFrom distinct fun nodes _ => Std.TreeSet.not_mem_emptyc

/-! ## The name at each place -/

/-- The name at place `index`, after the names `earlier`: `base`, if it is not among them,
or else `base` with the least suffix from `index` on that is not, which is found before
`2 * index`. -/
inductive NamedAt (earlier : List String) (index : Nat) (base : String) : String → Prop where
  | plain (free : base ∉ earlier) : NamedAt earlier index base base
  | suffixed {k : Nat} (present : base ∈ earlier) (atLeast : index ≤ k) (early : k < 2 * index)
      (free : suffixed base k ∉ earlier)
      (least : ∀ j, index ≤ j → j < k → suffixed base j ∈ earlier) :
      NamedAt earlier index base (suffixed base k)

/-- As many names are taken as there are places before, so the suffix is found in time. -/
theorem namedAt_freeName {earlier : List String} {index : Nat} (counted : taken.size = index)
    (same : ∀ name, name ∈ taken ↔ name ∈ earlier) (base : String) :
    NamedAt earlier index base (freeName taken index base) := by
  have free := freeName_not_mem taken index base
  unfold freeName at free ⊢
  split
  · rename_i present
    rw [if_pos present, same] at free
    obtain ⟨atLeast, passed⟩ := freeSuffix_least taken base taken.size index
    obtain ⟨tried, few, absent⟩ := exists_free_suffix present index
    have early : freeSuffix taken base taken.size index ≤ index + tried := by
      by_contra late
      exact absent (passed _ (Nat.le_add_right index tried) (Nat.not_le.1 late))
    refine .suffixed ((same base).1 present) atLeast (by omega) free ?_
    exact fun j later before => (same _).1 (passed j later before)
  · rename_i absent
    exact .plain (mt (same base).2 absent)

/-- Each scenario is named after those before it: the names taken at first, and those of
the scenarios in front. -/
theorem namedAt_namedFrom {earlier : List String} {k : Nat} (counted : taken.size = k)
    (same : ∀ name, name ∈ taken ↔ name ∈ earlier) {sequences : List NodeSequence} {i : Nat}
    {scenario : Scenario} (found : (namedFrom taken k sequences)[i]? = some scenario) :
    scenario.index = k + i ∧
      NamedAt (earlier ++ ((namedFrom taken k sequences).take i).map Scenario.name) (k + i)
        ("-".intercalate scenario.nodes) scenario.name := by
  induction sequences generalizing taken earlier k i with
  | nil => cases found
  | cons nodes rest ih =>
      have named := namedAt_freeName counted same ("-".intercalate nodes)
      have fresh := freeName_not_mem taken k ("-".intercalate nodes)
      rw [namedFrom_cons] at found ⊢
      generalize freeName taken k ("-".intercalate nodes) = name at *
      cases i with
      | zero =>
          obtain rfl := Option.some.inj found
          exact ⟨rfl, by simpa using named⟩
      | succ i =>
          have counted' : (taken.insert name).size = k + 1 := by
            rw [Std.TreeSet.size_insert, if_neg (mt Std.TreeSet.contains_iff_mem.1 fresh), counted]
          have same' : ∀ other, other ∈ taken.insert name ↔ other ∈ earlier ++ [name] := by
            intro other
            rw [mem_insert_iff, same, List.mem_append, List.mem_singleton, or_comm]
          obtain ⟨index, later⟩ := ih counted' same' found
          rw [List.append_assoc] at later
          rw [Nat.add_right_comm] at index later
          exact ⟨index, later⟩

/-- The scenario at each place is named after those before it. -/
theorem namedAt_nameScenarios {sequences : List NodeSequence} {i : Nat} {scenario : Scenario}
    (found : (nameScenarios sequences)[i]? = some scenario) :
    scenario.index = i ∧
      NamedAt (((nameScenarios sequences).take i).map Scenario.name) i
        ("-".intercalate scenario.nodes) scenario.name := by
  have none : ∀ name, name ∈ (∅ : Std.TreeSet String) ↔ name ∈ ([] : List String) := by simp
  have named := namedAt_namedFrom Std.TreeSet.size_emptyc none found
  rwa [Nat.zero_add, List.nil_append] at named

end ScenarioGraph
