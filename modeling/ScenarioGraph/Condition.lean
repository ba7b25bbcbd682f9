/-
# ScenarioGraph.Condition -- conditions over a history

A history holds the nodes visited so far, oldest first.  A `Condition` is a
boolean expression over it: a window of consecutive nodes, the more recent of two
nodes, membership of the last node in a set, and their combinations.  Windows are
looked for from the oldest node on, single nodes from the latest one back.

* `Condition.holds` evaluates a condition.
* `Condition.names` is the set of the names that a condition mentions.
* A `Guard` is either a set of nodes, one of which must come last, or a
  condition; an absent guard accepts every history (`Guard.admits`).
-/
import ScenarioGraph.Name

namespace ScenarioGraph

set_option autoImplicit false

/-- Nodes already visited, oldest first. -/
abbrev History := Array Name

inductive Condition where
  /-- Some window of consecutive nodes is exactly `names`. -/
  | sequence (names : List Name)
  /-- `newer` occurs, and `older` does not occur after its last occurrence. -/
  | moreRecent (older newer : Name)
  /-- The history ends in one of `names`. -/
  | lastIn (names : NameSet)
  | and (left right : Condition)
  | or (left right : Condition)
  | not (inner : Condition)
deriving DecidableEq

/-! ## Evaluation -/

namespace History

/-- Whether the nodes from place `k` on begin with `window`. -/
def hasAt (history : History) (k : Nat) : List Name → Bool
  | [] => true
  | name :: rest =>
      if bound : k < history.size then history[k] = name && hasAt history (k + 1) rest else false

/-- Whether `window` stands somewhere in the history, as consecutive nodes. -/
def hasWindow (window : List Name) (history : History) : Bool :=
  window.isEmpty || history.size.any fun k _ => history.hasAt k window

/-- The place of the last occurrence of `name` among the first `k` nodes, counted from
one; zero if there is none. -/
def lastPlaceIn (name : Name) (history : History) : (k : Nat) → k ≤ history.size → Nat
  | 0, _ => 0
  | k + 1, bound =>
      if history[k] = name then k + 1
      else lastPlaceIn name history k (Nat.le_of_succ_le bound)

/-- The place of the last occurrence of `name`, counted from one; zero if there is none. -/
def lastPlace (name : Name) (history : History) : Nat :=
  lastPlaceIn name history history.size (Nat.le_refl _)

/-- Whether the history ends in one of `names`; an empty one does not. -/
def endsIn (names : NameSet) (history : History) : Bool :=
  match history.back? with
  | some last => last ∈ names
  | none => false

end History

namespace Condition

def holds : Condition → History → Bool
  | sequence names, history => History.hasWindow names history
  | moreRecent older newer, history => History.lastPlace older history < History.lastPlace newer history
  | lastIn names, history => History.endsIn names history
  | and left right, history => left.holds history && right.holds history
  | or left right, history => left.holds history || right.holds history
  | not inner, history => !inner.holds history

/-- Every name that the condition mentions. -/
def names : Condition → NameSet
  | sequence names => NameSet.ofList names
  | moreRecent older newer => NameSet.ofList [older, newer]
  | lastIn names => names
  | and left right => left.names.union right.names
  | or left right => left.names.union right.names
  | not inner => inner.names

end Condition

/-! ## Guards -/

/-- What decides whether an input or a check applies at a position. -/
inductive Guard where
  /-- The history ends in one of these nodes. -/
  | after (names : NameSet)
  | when (condition : Condition)
deriving DecidableEq

namespace Guard

def accepts : Guard → History → Bool
  | after names, history => History.endsIn names history
  | when condition, history => condition.holds history

/-- An absent guard accepts every history. -/
def admits (guard : Option Guard) (history : History) : Bool :=
  match guard with
  | some guard => guard.accepts history
  | none => true

end Guard

end ScenarioGraph
