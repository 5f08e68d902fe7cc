import SqlxTurso.Connection.World

/-!
# The transaction manager

Beginning, committing and rolling back first execute the rollbacks of handles that
were dropped.  Dropping a handle itself only queues its rollback.
-/

namespace SqlxTurso

open Library Async

variable {σ : Type}

/-- The statement that rolls a level back. -/
def rollbackRequest (depth : Nat) : Request :=
  .execute (.transaction (rollbackAnsiTransactionSql depth))

/-- Is this the error of a level that the engine has already ended? -/
def isEndedLevel (depth : Nat) (error : Turso.Error) : Bool :=
  depth = 1 && rollbackErrorIsInactiveTransaction error

/-- The loop of `clear_pending_rollback`, where `queue` is what is left of the pending
depths.  Each round takes its depth from the queue before it waits for the engine. -/
def clearQueue (engine : Engine σ) : List Nat → Program σ Unit
  | [] => pure ()
  | depth :: queue => do
      changeTransaction fun state => state.popPendingRollback.2
      match ← attempt engine (rollbackRequest depth) with
      | .ok _ => clearQueue engine queue
      | .error error =>
          if isEndedLevel depth error then
            clearQueue engine queue
          else do
            changeTransaction TransactionState.markRollbackFailed
            Async.fail (mapTursoError error)

def clearPendingRollback (engine : Engine σ) : Program σ Unit := do
  let state ← Async.read World.transactionState
  if state.rollbackFailed then
    Async.fail .workerCrashed
  else
    clearQueue engine state.pendingRollbackDepths

namespace TursoTransactionManager

def begin (engine : Engine σ) (statement : Option SqlStr) : Program σ Unit := do
  clearPendingRollback engine
  let depth ← Async.read World.depth
  if statement.isSome ∧ depth > 0 then
    Async.fail .invalidSavePointStatement
  else do
    let sql := statement.getD (.transaction (beginAnsiTransactionSql depth))
    let _ ← call engine (.execute sql)
    changeTransaction TransactionState.incrementDepth

/-- End the innermost level with the statement that `sql` names for its depth. -/
def finish (engine : Engine σ) (sql : Nat → TransactionSql) : Program σ Unit := do
  clearPendingRollback engine
  let depth ← Async.read World.depth
  if depth = 0 then
    pure ()
  else do
    let _ ← call engine (.execute (.transaction (sql depth)))
    changeTransaction TransactionState.decrementDepth

def commit (engine : Engine σ) : Program σ Unit := finish engine commitAnsiTransactionSql

def rollback (engine : Engine σ) : Program σ Unit :=
  finish engine rollbackAnsiTransactionSql

/-- Called when a handle is dropped. -/
def startRollback : Program σ Unit := changeTransaction TransactionState.markRollbackNeeded

def getTransactionDepth (world : World σ) : Nat := world.depth

end TursoTransactionManager

/-! ## Rules -/

variable {engine : Engine σ}

/-- The world after a queued rollback was taken from the queue and sent. -/
def World.afterRollback (world : World σ) (depth : Nat) (status : Status) (state : σ) :
    World σ :=
  (world.onTransaction fun transaction => transaction.popPendingRollback.2).send
    (rollbackRequest depth) status state

section AfterRollback

variable (world : World σ) (depth : Nat) (status : Status) (state : σ)

@[simp] theorem World.afterRollback_pending :
    (world.afterRollback depth status state).pending = world.pending.tail := rfl

@[simp] theorem World.afterRollback_depth :
    (world.afterRollback depth status state).depth = world.depth := rfl

@[simp] theorem World.afterRollback_engine :
    (world.afterRollback depth status state).engine = state := rfl

@[simp] theorem World.afterRollback_sent :
    (world.afterRollback depth status state).sent =
      world.sent ++ [⟨rollbackRequest depth, status⟩] := rfl

end AfterRollback

/-- A loop over the queue keeps an invariant that each executed rollback keeps. -/
theorem clearQueue_meets (invariant : List Nat → World σ → Prop)
    {after : Outcome SqlxError Unit → World σ → Prop}
    (finished : ∀ world, invariant [] world → after (.returned ()) world)
    (executed : ∀ depth queue world result state, invariant (depth :: queue) world →
      engine.serve (rollbackRequest depth) world.engine = (.answered result, state) →
      (∀ error, result = .error error → isEndedLevel depth error = true) →
      invariant queue (world.afterRollback depth (Reply.answered result).status state))
    (refused : ∀ depth queue world error state, invariant (depth :: queue) world →
      engine.serve (rollbackRequest depth) world.engine =
        (.answered (.error error), state) →
      isEndedLevel depth error = false →
      after (.failed (mapTursoError error))
        ((world.afterRollback depth (.refused error) state).onTransaction
          TransactionState.markRollbackFailed))
    (dropped : ∀ depth queue world state, invariant (depth :: queue) world →
      engine.serve (rollbackRequest depth) world.engine = (.dropped, state) →
      after .dropped (world.afterRollback depth .dropped state))
    (queue : List Nat) :
    Meets (invariant queue) (clearQueue engine queue) after := by
  induction queue with
  | nil => exact Meets.pure finished
  | cons depth queue ih =>
      intro world atWorld
      simp only [clearQueue, changeTransaction, bind_apply, modify_apply, attempt,
        World.onTransaction_engine]
      cases served : engine.serve (rollbackRequest depth) world.engine with
      | mk reply state =>
          cases reply with
          | dropped => exact dropped depth queue world state atWorld served
          | answered result =>
              cases result with
              | ok answer =>
                  exact ih _ (executed depth queue world (.ok answer) state atWorld served
                    (fun error isError => by cases isError))
              | error error =>
                  by_cases ended : isEndedLevel depth error = true
                  · simp only [if_pos ended]
                    refine ih _ (executed depth queue world (.error error) state atWorld
                      served ?_)
                    intro _ isError
                    cases isError
                    exact ended
                  · simp only [if_neg ended]
                    exact refused depth queue world error state atWorld served
                      (Bool.eq_false_iff.mpr ended)

theorem clearPendingRollback_meets {before : World σ → Prop}
    {after : Outcome SqlxError Unit → World σ → Prop}
    (crashed : ∀ world, before world → world.failed = true →
      after (.failed .workerCrashed) world)
    (cleared : ∀ queue, Meets
      (fun world => before world ∧ world.failed = false ∧ world.pending = queue)
      (clearQueue engine queue) after) :
    Meets before (clearPendingRollback engine) after := by
  intro world atWorld
  simp only [clearPendingRollback, bind_apply, read_apply]
  by_cases failed : world.failed = true
  · simp only [if_pos failed]
    exact crashed world atWorld failed
  · simp only [if_neg failed]
    exact cleared _ world ⟨atWorld, Bool.eq_false_iff.mpr failed, rfl⟩

section Begin

variable {statement : Option SqlStr} {world cleared : World σ} {state : σ}

theorem begin_of_cleared (engine : Engine σ)
    (isCleared : clearPendingRollback engine world = (.returned (), cleared))
    (allowed : ¬(statement.isSome = true ∧ cleared.depth > 0)) :
    TursoTransactionManager.begin engine statement world =
      (do
        let _ ← call engine
          (.execute (statement.getD (.transaction (beginAnsiTransactionSql cleared.depth))))
        changeTransaction TransactionState.incrementDepth : Program σ Unit) cleared := by
  rw [TursoTransactionManager.begin, bind_apply, isCleared]
  dsimp only
  rw [bind_apply, read_apply]
  dsimp only
  rw [if_neg allowed]

/-- A begin whose statement the engine executes succeeds once the queue is cleared. -/
theorem begin_of_answered {changes : Nat}
    (isCleared : clearPendingRollback engine world = (.returned (), cleared))
    (allowed : ¬(statement.isSome = true ∧ cleared.depth > 0))
    (served : engine.serve
      (.execute (statement.getD (.transaction (beginAnsiTransactionSql cleared.depth))))
      cleared.engine = (.answered (.ok changes), state)) :
    TursoTransactionManager.begin engine statement world =
      (.returned (), (cleared.send
        (.execute (statement.getD (.transaction (beginAnsiTransactionSql cleared.depth))))
        .done state).onTransaction TransactionState.incrementDepth) := by
  rw [begin_of_cleared engine isCleared allowed, bind_apply, call_of_answered served]
  rfl

/-- A begin whose statement the engine refuses fails with the engine's error. -/
theorem begin_of_refused {error : Turso.Error}
    (isCleared : clearPendingRollback engine world = (.returned (), cleared))
    (allowed : ¬(statement.isSome = true ∧ cleared.depth > 0))
    (served : engine.serve
      (.execute (statement.getD (.transaction (beginAnsiTransactionSql cleared.depth))))
      cleared.engine = (.answered (.error error), state)) :
    TursoTransactionManager.begin engine statement world =
      (.failed (mapTursoError error), cleared.send
        (.execute (statement.getD (.transaction (beginAnsiTransactionSql cleared.depth))))
        (.refused error) state) := by
  rw [begin_of_cleared engine isCleared allowed, bind_apply, call_of_answered served]
  rfl

end Begin

end SqlxTurso
