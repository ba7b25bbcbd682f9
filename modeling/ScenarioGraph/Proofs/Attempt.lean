/-
# ScenarioGraph.Proofs.Attempt -- attempts one after another

An attempt either succeeds with a result or fails with a cause (`Except`).  These
lemmas take a chain of attempts apart: it succeeds if every attempt does, and a
list of attempts fails with the cause of the first one that does.

* `bind_eq_ok_iff`, `bind_eq_error_iff`, `mapError_eq_ok_iff`: one step of a chain.
* `mapM_eq_ok_iff`, `mapM_eq_error_iff`: a list of attempts.
-/
import Mathlib.Data.List.Forall2

namespace ScenarioGraph

set_option autoImplicit false

variable {ε δ α β γ : Type}

@[simp]
theorem ok_bind (a : α) (f : α → Except ε β) : (Except.ok a >>= f) = f a := rfl

@[simp]
theorem error_bind (failure : ε) (f : α → Except ε β) :
    (Except.error failure >>= f) = .error failure := rfl

@[simp]
theorem map_ok (a : α) (f : α → β) : f <$> (Except.ok a : Except ε α) = .ok (f a) := rfl

@[simp]
theorem map_error (failure : ε) (f : α → β) :
    f <$> (Except.error failure : Except ε α) = .error failure := rfl

@[simp]
theorem pure_eq_ok (a : α) : (pure a : Except ε α) = .ok a := rfl

@[simp]
theorem mapError_ok (a : α) (f : ε → δ) : (Except.ok a : Except ε α).mapError f = .ok a := rfl

theorem bind_eq_ok_iff {x : Except ε α} {f : α → Except ε β} {b : β} :
    (x >>= f) = .ok b ↔ ∃ a, x = .ok a ∧ f a = .ok b := by
  cases x with
  | error failure => simp
  | ok a => simp

theorem bind_eq_error_iff {x : Except ε α} {f : α → Except ε β} {failure : ε} :
    (x >>= f) = .error failure ↔
      x = .error failure ∨ ∃ a, x = .ok a ∧ f a = .error failure := by
  cases x with
  | error cause => simp
  | ok a => simp

theorem map_eq_ok_iff {x : Except ε α} {f : α → β} {b : β} :
    f <$> x = .ok b ↔ ∃ a, x = .ok a ∧ f a = b := by
  cases x with
  | error failure => simp
  | ok a => simp

theorem mapError_eq_ok_iff {x : Except ε α} {f : ε → δ} {a : α} :
    x.mapError f = .ok a ↔ x = .ok a := by
  cases x with
  | error failure => simp [Except.mapError]
  | ok b => simp [Except.mapError]

theorem mapError_eq_error_iff {x : Except ε α} {f : ε → δ} {failure : δ} :
    x.mapError f = .error failure ↔ ∃ cause, x = .error cause ∧ f cause = failure := by
  cases x with
  | error cause => simp [Except.mapError]
  | ok a => simp [Except.mapError]

/-- Each item stands for some value exactly if the whole list stands for some list. -/
theorem exists_forall₂_iff {stands : α → β → Prop} {xs : List α} :
    (∃ ys, List.Forall₂ stands xs ys) ↔ ∀ x ∈ xs, ∃ y, stands x y := by
  induction xs with
  | nil => simp
  | cons x xs ih =>
      rw [List.forall_mem_cons, ← ih]
      simp only [List.forall₂_cons_left_iff]
      constructor
      · rintro ⟨_, y, ys, first, rest, rfl⟩
        exact ⟨⟨y, first⟩, ys, rest⟩
      · rintro ⟨⟨y, first⟩, ys, rest⟩
        exact ⟨_, y, ys, first, rest, rfl⟩

/-- Items that stand for each other have the same place. -/
theorem exists_getElem?_of_forall₂ {stands : α → β → Prop} {xs : List α} {ys : List β}
    (pairs : List.Forall₂ stands xs ys) {i : Nat} {y : β} (found : ys[i]? = some y) :
    ∃ x, xs[i]? = some x ∧ stands x y := by
  induction pairs generalizing i with
  | nil => cases found
  | @cons first other xs ys pair _ ih =>
      cases i with
      | zero =>
          obtain rfl := Option.some.inj found
          exact ⟨first, rfl, pair⟩
      | succ i => exact ih found

theorem exists_mem_of_forall₂ {stands : α → β → Prop} {xs : List α} {ys : List β}
    (pairs : List.Forall₂ stands xs ys) {y : β} (member : y ∈ ys) : ∃ x ∈ xs, stands x y := by
  obtain ⟨i, found⟩ := List.mem_iff_getElem?.1 member
  obtain ⟨x, same, stood⟩ := exists_getElem?_of_forall₂ pairs found
  exact ⟨x, List.mem_of_getElem? same, stood⟩

/-- Items that stand for each other and have one image have the same images. -/
theorem map_eq_map_of_forall₂ {stands : α → β → Prop} {f : α → γ} {f' : β → γ} {xs : List α}
    {ys : List β} (pairs : List.Forall₂ stands xs ys)
    (same : ∀ x ∈ xs, ∀ y, stands x y → f x = f' y) : xs.map f = ys.map f' := by
  induction pairs with
  | nil => rfl
  | @cons x y xs ys pair pairs ih =>
      rw [List.map_cons, List.map_cons, same x List.mem_cons_self y pair,
        ih fun x member => same x (List.mem_cons_of_mem _ member)]

/-- Different items stand for values with different keys, if a key tells its item. -/
theorem nodup_map_of_forall₂ {stands : α → β → Prop} {key : β → γ} {xs : List α} {ys : List β}
    (pairs : List.Forall₂ stands xs ys) (distinct : xs.Nodup)
    (tells : ∀ {x x' y y'}, stands x y → stands x' y' → key y = key y' → x = x') :
    (ys.map key).Nodup := by
  induction pairs with
  | nil => exact List.nodup_nil
  | @cons x y xs ys pair pairs ih =>
      rw [List.nodup_cons] at distinct
      rw [List.map_cons, List.nodup_cons]
      refine ⟨fun member => distinct.1 ?_, ih distinct.2⟩
      obtain ⟨other, inRest, same⟩ := List.mem_map.1 member
      obtain ⟨item, inItems, stood⟩ := exists_mem_of_forall₂ pairs inRest
      rw [tells pair stood same.symm]
      exact inItems

/-- The results come in the order of the attempts. -/
theorem mapM_eq_ok_iff {f : α → Except ε β} {xs : List α} {ys : List β} :
    xs.mapM f = .ok ys ↔ List.Forall₂ (fun x y => f x = .ok y) xs ys := by
  induction xs generalizing ys with
  | nil => simp [eq_comm]
  | cons x xs ih =>
      rw [List.mapM_cons, bind_eq_ok_iff, List.forall₂_cons_left_iff]
      constructor
      · rintro ⟨y, first, rest⟩
        obtain ⟨later, others, made⟩ := bind_eq_ok_iff.1 rest
        cases made
        exact ⟨y, later, first, ih.1 others, rfl⟩
      · rintro ⟨y, later, first, others, rfl⟩
        exact ⟨y, first, bind_eq_ok_iff.2 ⟨later, ih.2 others, rfl⟩⟩

/-- A list of attempts succeeds exactly if each of them does. -/
theorem exists_mapM_ok_iff {f : α → Except ε β} {xs : List α} :
    (∃ ys, xs.mapM f = .ok ys) ↔ ∀ x ∈ xs, ∃ y, f x = .ok y := by
  simp only [mapM_eq_ok_iff, exists_forall₂_iff]

/-- A list of attempts fails with the cause of its first failure. -/
theorem mapM_eq_error_iff {f : α → Except ε β} {xs : List α} {failure : ε} :
    xs.mapM f = .error failure ↔
      ∃ before x after, xs = before ++ x :: after ∧ (∀ y ∈ before, ∃ z, f y = .ok z) ∧
        f x = .error failure := by
  induction xs with
  | nil => simp
  | cons x xs ih =>
      have cons : (x :: xs).mapM f = .error failure ↔
          f x = .error failure ∨ ∃ y, f x = .ok y ∧ xs.mapM f = .error failure := by
        rw [List.mapM_cons, bind_eq_error_iff]
        simp [bind_eq_error_iff]
      rw [cons]
      constructor
      · rintro (first | ⟨y, first, rest⟩)
        · exact ⟨[], x, xs, rfl, by simp, first⟩
        · obtain ⟨before, z, after, rfl, fine, fails⟩ := ih.1 rest
          refine ⟨x :: before, z, after, rfl, ?_, fails⟩
          exact List.forall_mem_cons.2 ⟨⟨y, first⟩, fine⟩
      · rintro ⟨before, z, after, split, fine, fails⟩
        cases before with
        | nil =>
            obtain ⟨rfl, rfl⟩ := List.cons.inj split
            exact Or.inl fails
        | cons _ before =>
            obtain ⟨rfl, rfl⟩ := List.cons.inj split
            obtain ⟨⟨y, first⟩, fine⟩ := List.forall_mem_cons.1 fine
            exact Or.inr ⟨y, first, ih.2 ⟨before, z, after, rfl, fine, fails⟩⟩

end ScenarioGraph
