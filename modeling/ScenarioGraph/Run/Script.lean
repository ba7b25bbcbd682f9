/-
# ScenarioGraph.Run.Script -- handles that are small programs

A scripted handle stands for an action, a check or a hook whose behaviour is
written down as a list of instructions over shared 64-bit variables.  Each call
is logged and counted before its instructions are carried out, in order, up to
the first that fails; what was changed before a failure stays changed.
-/
import ScenarioGraph.Run.Outcome

namespace ScenarioGraph

set_option autoImplicit false

namespace Script

inductive Instruction where
  | set (name : Name) (value : Int64)
  | add (name : Name) (amount : Int64)
  /-- Fail if the variable has another value. -/
  | expect (name : Name) (value : Int64)
  /-- Fail if the variable has this value. -/
  | failIf (name : Name) (value : Int64) (message : String)
  /-- Fail on one call of this handle, counted from one. -/
  | failOnCall (count : Nat) (message : String)
  | fail (message : String)
  | panic (message : Option String)
deriving DecidableEq

/-- A scripted handle. -/
structure Handle where
  /-- Tells the handle from all others. -/
  site : List Nat
  /-- What is logged for a call. -/
  entry : String
  program : List Instruction
deriving DecidableEq

/-- What scripted handles share. -/
structure World where
  /-- In name order; a variable without entry is zero. -/
  values : List (String × Int64)
  /-- How often each handle was called. -/
  calls : List (List Nat × Nat)
  /-- The calls logged, latest first. -/
  log : List String
deriving DecidableEq

namespace World

def empty : World := ⟨[], [], []⟩

def value (world : World) (name : Name) : Int64 :=
  (world.values.lookup name).getD 0

/-- Put a variable in its place among others in name order. -/
def assign (name : Name) (value : Int64) : List (String × Int64) → List (String × Int64)
  | [] => [(name, value)]
  | (other, old) :: rest =>
      if name < other then (name, value) :: (other, old) :: rest
      else if name = other then (name, value) :: rest
      else (other, old) :: assign name value rest

def set (world : World) (name : Name) (value : Int64) : World :=
  { world with values := assign name value world.values }

def callCount (world : World) (site : List Nat) : Nat := (world.calls.lookup site).getD 0

/-- Count a call of a handle and log it. -/
def note (world : World) (handle : Handle) : World :=
  let count := world.callCount handle.site + 1
  { world with
    calls := (handle.site, count) :: world.calls.filter (·.1 ≠ handle.site)
    log := handle.entry :: world.log }

/-- The log since it was last taken, oldest first, and the world without it. -/
def takeLog (world : World) : List String × World :=
  (world.log.reverse, { world with log := [] })

end World

/-- Carry out one instruction in a handle's call number `count`; without a
result the call goes on. -/
def Instruction.execute (count : Nat) (world : World) : Instruction → World × Option CallResult
  | set name value => (world.set name value, none)
  | add name amount => (world.set name (world.value name + amount), none)
  | expect name value =>
      let found := world.value name
      if found = value then (world, none)
      else
        (world, some (.failed
          (name ++ ": expected " ++ toString value.toInt ++ ", got " ++ toString found.toInt)))
  | failIf name value message =>
      (world, if world.value name = value then some (.failed message) else none)
  | failOnCall k message => (world, if k = count then some (.failed message) else none)
  | fail message => (world, some (.failed message))
  | panic message => (world, some (.panicked message))

/-- Carry out instructions up to the first that ends the call. -/
def execute (count : Nat) : List Instruction → World → CallResult × World
  | [], world => (.done, world)
  | instruction :: rest, world =>
      match instruction.execute count world with
      | (after, none) => execute count rest after
      | (after, some result) => (result, after)

/-- What a call to a scripted handle does. -/
def call (handle : Handle) : StateM World CallResult := fun world =>
  let noted := world.note handle
  execute (noted.callCount handle.site) handle.program noted

end Script

end ScenarioGraph
