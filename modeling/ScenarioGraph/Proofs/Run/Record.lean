/-
# ScenarioGraph.Proofs.Run.Record -- writing down the calls of a run

A run reports outcomes; it does not say which handles it called.  But it takes any
`call`, so it also takes one that keeps a log: `recording call` does what `call` does,
and writes each call down as soon as it has ended.

* `Performs`: what a program calls, returns and leaves behind, with and without a log.
  It composes along `bind`, so runs are read off one call after the other.
* `exists_performs_checks`: every check is called once, in order, and reported by the
  way its own call ended, whatever the calls before it did.
-/
import ScenarioGraph.Run.Execution

namespace ScenarioGraph

set_option autoImplicit false

variable {κ σ α β : Type}

/-! ## A log of calls -/

/-- A call that was made, and how it ended. -/
structure Call (κ : Type) where
  handle : κ
  result : CallResult

/-- `call` with a log beside the world. -/
def recording (call : κ → StateM σ CallResult) (handle : κ) :
    StateM (σ × List (Call κ)) CallResult := fun (world, log) =>
  let (result, after) := (call handle).run world
  (result, after, log ++ [⟨handle, result⟩])

/-- Started in `world`, a program makes `calls`, returns `value` and leaves `final`
behind: so does `plain`, the program itself, and `recorded`, the program with a log. -/
structure Performs (plain : StateM σ α) (recorded : StateM (σ × List (Call κ)) α) (world : σ)
    (calls : List (Call κ)) (value : α) (final : σ) : Prop where
  plain_run : plain.run world = (value, final)
  recorded_run : ∀ log, recorded.run (world, log) = (value, final, log ++ calls)

theorem performs_pure (value : α) (world : σ) :
    Performs (κ := κ) (pure value) (pure value) world [] value world := by
  constructor
  · rfl
  · intro log
    rw [List.append_nil]
    rfl

theorem Performs.bind {plain : StateM σ α} {recorded : StateM (σ × List (Call κ)) α}
    {plainNext : α → StateM σ β} {recordedNext : α → StateM (σ × List (Call κ)) β}
    {world middle final : σ} {calls later : List (Call κ)} {value : α} {result : β}
    (first : Performs plain recorded world calls value middle)
    (next : Performs (plainNext value) (recordedNext value) middle later result final) :
    Performs (plain >>= plainNext) (recorded >>= recordedNext) world (calls ++ later) result
      final := by
  constructor
  · rw [StateT.run_bind, first.plain_run]
    exact next.plain_run
  · intro log
    rw [StateT.run_bind, first.recorded_run, ← List.append_assoc]
    exact next.recorded_run (log ++ calls)

theorem Performs.returning {plain : StateM σ α} {recorded : StateM (σ × List (Call κ)) α}
    {world final : σ} {calls : List (Call κ)} {value : α}
    (performed : Performs plain recorded world calls value final) (f : α → β) :
    Performs (plain >>= fun value => pure (f value)) (recorded >>= fun value => pure (f value))
      world calls (f value) final := by
  constructor
  · rw [StateT.run_bind, performed.plain_run]
    rfl
  · intro log
    rw [StateT.run_bind, performed.recorded_run]
    rfl

variable {call : κ → StateM σ CallResult} {world after : σ} {result : CallResult}

theorem performs_recording {handle : κ} (ended : (call handle).run world = (result, after)) :
    Performs (call handle) (recording call handle) world [⟨handle, result⟩] result after := by
  refine ⟨ended, fun log => ?_⟩
  unfold recording
  simp only [StateT.run] at ended ⊢
  rw [ended]

theorem performs_invoke {handle : κ} (ended : (call handle).run world = (result, after)) :
    Performs (invoke call handle) (invoke (recording call) handle) world [⟨handle, result⟩]
      result.failure? after :=
  (performs_recording ended).returning CallResult.failure?

/-! ## Checks -/

theorem CallResult.eq_done_of_failure?_eq_none {result : CallResult}
    (succeeded : result.failure? = none) : result = .done := by
  match result with
  | .done => rfl
  | .panicked (some _) => exact absurd succeeded (Option.some_ne_none _)
  | .panicked none => exact absurd succeeded (Option.some_ne_none _)

/-- What is reported of a check whose call ended like this. -/
def CallResult.status (result : CallResult) : CheckStatus :=
  match result.failure? with
  | none => .passed
  | some detail => .failed detail

/-- Each check was called once, in order, and is reported under its name by its own call. -/
structure ReportedBy (checks : List (ChosenCheck κ)) (calls : List (Call κ))
    (outcomes : List CheckOutcome) : Prop where
  handles : calls.map Call.handle = checks.map ChosenCheck.body
  names : outcomes.map CheckOutcome.name = checks.map ChosenCheck.name
  statuses : outcomes.map CheckOutcome.status = calls.map fun made => made.result.status

theorem performs_runCheck {check : ChosenCheck κ}
    (ended : (call check.body).run world = (result, after)) :
    Performs (runCheck call check) (runCheck (recording call) check) world
      [⟨check.body, result⟩] ⟨check.name, result.status⟩ after := by
  show Performs _ _ world ([⟨check.body, result⟩] ++ []) _ after
  refine (performs_invoke ended).bind ?_
  unfold CallResult.status
  cases result.failure? with
  | none => exact performs_pure _ after
  | some detail => exact performs_pure _ after

/-- A failing check does not keep the others from being called. -/
theorem exists_performs_checks (call : κ → StateM σ CallResult) (checks : List (ChosenCheck κ))
    (world : σ) :
    ∃ calls outcomes final,
      Performs (checks.mapM (runCheck call)) (checks.mapM (runCheck (recording call))) world calls
        outcomes final ∧
      ReportedBy checks calls outcomes := by
  induction checks generalizing world with
  | nil => exact ⟨[], [], world, performs_pure [] world, rfl, rfl, rfl⟩
  | cons check rest ih =>
      rcases ended : (call check.body).run world with ⟨result, middle⟩
      obtain ⟨calls, outcomes, final, performed, reported⟩ := ih middle
      refine ⟨⟨check.body, result⟩ :: calls, ⟨check.name, result.status⟩ :: outcomes, final,
        ?_, ?_⟩
      · rw [List.mapM_cons, List.mapM_cons]
        exact (performs_runCheck ended).bind
          (performed.returning (⟨check.name, result.status⟩ :: ·))
      · constructor
        · rw [List.map_cons, List.map_cons, reported.handles]
        · rw [List.map_cons, List.map_cons, reported.names]
        · rw [List.map_cons, List.map_cons, reported.statuses]

end ScenarioGraph
