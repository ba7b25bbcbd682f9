/-
# ScenarioGraph.Walk.Loop -- repeated loops in place of nodes

A loop walked `n` times is the cycle followed by `n - 1` copies of its tail.
Expansion puts, for every node of a sequence that has loops, one of its repeated
loops in place of the node.  All choices are taken, the leftmost node varying
slowest, and of equal results only the first is kept.
-/
import Std.Data.TreeSet
import ScenarioGraph.Walk.Trail

namespace ScenarioGraph

set_option autoImplicit false

/-- The cycle walked `repetitions` times in a row, at least once.  A cycle
without tail stays as it is, however often it is walked. -/
def repeatLoop (cycle : NodeSequence) (repetitions : Nat) : NodeSequence :=
  if cycle.tail.isEmpty then cycle
  else cycle ++ (List.replicate (repetitions - 1) cycle.tail).flatten

/-- What may stand in place of `name`: its repeated loops, or itself if it has none. -/
def replacements (loops : List (Name × List NodeSequence)) (name : Name) : List NodeSequence :=
  match loops.lookup name with
  | some (first :: rest) => first :: rest
  | _ => [[name]]

/-- Every way to replace the nodes of a sequence, the leftmost varying slowest. -/
def substitutions (choices : Name → List NodeSequence) : NodeSequence → List NodeSequence
  | [] => [[]]
  | name :: rest =>
      let tails := substitutions choices rest
      (choices name).flatMap fun choice => tails.map (choice ++ ·)

/-- The sequences met for the first time; `seen` were met before, `kept` is the answer
so far, latest first. -/
def firstOccurrencesFrom (seen : Std.TreeSet NodeSequence) (kept : List NodeSequence) :
    List NodeSequence → List NodeSequence
  | [] => kept.reverse
  | nodes :: rest =>
      if nodes ∈ seen then firstOccurrencesFrom seen kept rest
      else firstOccurrencesFrom (seen.insert nodes) (nodes :: kept) rest

/-- The sequences without those that stand earlier in the list. -/
def firstOccurrences (sequences : List NodeSequence) : List NodeSequence :=
  firstOccurrencesFrom ∅ [] sequences

/-- The sequences with loops walked `repetitions` times, first occurrences only;
without repetitions they stay as they are. -/
def expandLoops (sequences : List NodeSequence) (cycles : List (Name × List NodeSequence))
    (repetitions : Nat) : List NodeSequence :=
  if repetitions = 0 then sequences
  else
    let loops := cycles.map fun (name, found) => (name, found.map (repeatLoop · repetitions))
    firstOccurrences (sequences.flatMap (substitutions (replacements loops)))

end ScenarioGraph
