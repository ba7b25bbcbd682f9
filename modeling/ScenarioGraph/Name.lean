/-
# ScenarioGraph.Name -- names, and sets of names

A name is a text; names are ordered by code point.  A `NameSet` is a finite set
of names kept as the strictly increasing list of its members, so two sets with
the same members are equal (`NameSet.ext`) and every walk over a set visits its
members in name order.

* `NameSet.mem_ofList`: a set built from a list has exactly the members listed,
  whatever their order and however often they are listed.
-/

namespace ScenarioGraph

set_option autoImplicit false

/-- Names are ordered by code point, never by locale. -/
abbrev Name := String

/-- Put `x` in its place in a strictly increasing list, once. -/
def insertName (x : Name) : List Name → List Name
  | [] => [x]
  | y :: ys => if x < y then x :: y :: ys else if x = y then y :: ys else y :: insertName x ys

theorem mem_insertName {x z : Name} {ys : List Name} :
    z ∈ insertName x ys ↔ z = x ∨ z ∈ ys := by
  induction ys with
  | nil => simp [insertName]
  | cons y ys ih =>
      simp only [insertName]
      split
      · simp
      · split
        · rename_i same
          simp [same]
        · simp only [List.mem_cons, ih]
          exact or_left_comm

theorem pairwise_insertName {x : Name} {ys : List Name} (increasing : ys.Pairwise (· < ·)) :
    (insertName x ys).Pairwise (· < ·) := by
  induction ys with
  | nil => simp [insertName]
  | cons y ys ih =>
      obtain ⟨above, rest⟩ := List.pairwise_cons.1 increasing
      simp only [insertName]
      split
      · rename_i below
        refine List.pairwise_cons.2 ⟨fun z member => ?_, increasing⟩
        rcases List.mem_cons.1 member with rfl | later
        · exact below
        · exact String.lt_trans below (above z later)
      · split
        · exact increasing
        · rename_i notBelow different
          refine List.pairwise_cons.2 ⟨fun z member => ?_, ih rest⟩
          rcases mem_insertName.1 member with rfl | later
          · rcases String.le_total y z with le | le
            · exact Decidable.byContradiction fun notLt =>
                different (String.le_antisymm (String.not_lt.1 notLt) le)
            · exact absurd (String.le_antisymm le (String.not_lt.1 notBelow)) different
          · exact above z later

/-! ## Sets of names -/

/-- A finite set of names: the strictly increasing list of its members. -/
structure NameSet where
  toList : List Name
  increasing : toList.Pairwise (· < ·)
deriving DecidableEq

namespace NameSet

instance : Membership Name NameSet := ⟨fun set name => name ∈ set.toList⟩

instance (name : Name) (set : NameSet) : Decidable (name ∈ set) :=
  inferInstanceAs (Decidable (name ∈ set.toList))

theorem mem_toList {name : Name} {set : NameSet} : name ∈ set.toList ↔ name ∈ set := Iff.rfl

def empty : NameSet := ⟨[], List.Pairwise.nil⟩

def insert (name : Name) (set : NameSet) : NameSet :=
  ⟨insertName name set.toList, pairwise_insertName set.increasing⟩

/-- The set of the names listed. -/
def ofList (names : List Name) : NameSet := names.foldr insert empty

/-- The names in at least one of the two sets. -/
def union (first second : NameSet) : NameSet := first.toList.foldr insert second

def isEmpty (set : NameSet) : Bool := set.toList.isEmpty

theorem mem_insert {name other : Name} {set : NameSet} :
    other ∈ set.insert name ↔ other = name ∨ other ∈ set :=
  mem_insertName

theorem mem_foldr_insert {names : List Name} {set : NameSet} {name : Name} :
    name ∈ names.foldr insert set ↔ name ∈ names ∨ name ∈ set := by
  induction names with
  | nil => simp
  | cons first rest ih =>
      rw [List.foldr_cons, mem_insert, ih, List.mem_cons, or_assoc]

theorem mem_ofList {names : List Name} {name : Name} : name ∈ ofList names ↔ name ∈ names := by
  rw [ofList, mem_foldr_insert]
  exact or_iff_left (List.not_mem_nil)

theorem mem_union {first second : NameSet} {name : Name} :
    name ∈ first.union second ↔ name ∈ first ∨ name ∈ second :=
  mem_foldr_insert

/-- Two strictly increasing lists with the same members are equal. -/
theorem eq_of_mem_iff {xs ys : List Name} (hx : xs.Pairwise (· < ·)) (hy : ys.Pairwise (· < ·))
    (same : ∀ z, z ∈ xs ↔ z ∈ ys) : xs = ys := by
  induction xs generalizing ys with
  | nil =>
      cases ys with
      | nil => rfl
      | cons y ys => exact absurd ((same y).2 (by simp)) (by simp)
  | cons x xs ih =>
      cases ys with
      | nil => exact absurd ((same x).1 (by simp)) (by simp)
      | cons y ys =>
          obtain ⟨aboveX, restX⟩ := List.pairwise_cons.1 hx
          obtain ⟨aboveY, restY⟩ := List.pairwise_cons.1 hy
          have heads : x = y := by
            rcases List.mem_cons.1 ((same x).1 (by simp)) with eq | inY
            · exact eq
            · rcases List.mem_cons.1 ((same y).2 (by simp)) with eq | inX
              · exact eq.symm
              · exact absurd (aboveX y inX) (String.lt_asymm (aboveY x inY))
          subst heads
          refine congrArg (x :: ·) (ih restX restY fun z => ⟨fun member => ?_, fun member => ?_⟩)
          · rcases List.mem_cons.1 ((same z).1 (List.mem_cons_of_mem _ member)) with rfl | later
            · exact absurd (aboveX z member) (String.lt_irrefl z)
            · exact later
          · rcases List.mem_cons.1 ((same z).2 (List.mem_cons_of_mem _ member)) with rfl | later
            · exact absurd (aboveY z member) (String.lt_irrefl z)
            · exact later

/-- Sets with the same members are equal. -/
theorem ext {first second : NameSet} (same : ∀ name, name ∈ first ↔ name ∈ second) :
    first = second := by
  cases first
  cases second
  congr
  exact eq_of_mem_iff ‹_› ‹_› same

end NameSet

end ScenarioGraph
