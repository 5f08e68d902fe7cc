import SqlxTurso.Connection.Discipline
import SqlxTurso.Engine.Sqlite

/-!
# Dropped futures

A future may be dropped while it waits for the engine, before or after the engine
served the request.  The bookkeeping of a connection covers every open level as long
as no queued rollback and no begin is lost in this way: the queue entry is taken
before its rollback is sent, and a begun level is counted only after the answer.
-/

namespace SqlxTurso

open Library Async Sql

variable {D : Type} {meaning : Meaning D}

/-! ## The statements on the open levels -/

/-- The database after a statement ran or failed. -/
def Meaning.afterwards (meaning : Meaning D) (sql : SqlStr) (database : Database D) :
    Database D :=
  (performExecute (meaning.performSql sql) none database).2

theorem afterwards_cases (meaning : Meaning D) (sql : SqlStr) (database : Database D) :
    (∃ changes changed, meaning.performSql sql database = .ok ([], changes, changed) ∧
        meaning.afterwards sql database = changed) ∨
      meaning.afterwards sql database = database := by
  unfold Meaning.afterwards
  rcases performExecute_cases sql none database with
    ⟨changes, changed, isOk, performed⟩ | ⟨error, isError⟩
  · rw [isOk]
    exact .inl ⟨changes, changed, performed, rfl⟩
  · rw [isError]
    exact .inr rfl

theorem performSql_ok {sql : SqlStr} {database changed : Database D} {changes : Nat}
    (ran : meaning.performSql sql database = .ok ([], changes, changed)) :
    meaning.afterwards sql database = changed := by
  unfold Meaning.afterwards performExecute
  rw [withoutRows_eq_ok.mpr ran]

theorem performSql_error {sql : SqlStr} {database : Database D} {failure : Failure}
    (failed : meaning.performSql sql database = .error failure) :
    meaning.afterwards sql database = database := by
  rcases afterwards_cases meaning sql database with ⟨changes, changed, ran, _⟩ | unchanged
  · cases failed.symm.trans ran
  · exact unchanged

/-- The levels after a transaction statement, whether it runs or fails. -/
theorem afterwards_within {sql : TransactionSql} {database : Database D} {bound : Nat}
    (performed : ∀ changed, sql.perform database = .ok changed → Within changed bound)
    (failed : ∀ error, sql.perform database = .error error → Within database bound) :
    Within (meaning.afterwards (.transaction sql) database) bound := by
  cases result : sql.perform database with
  | ok changed =>
      have ran : meaning.performSql (.transaction sql) database = .ok ([], 0, changed) := by
        simp only [Meaning.performSql, TransactionSql.outcome, result]
      rw [performSql_ok ran]
      exact performed changed result
  | error error =>
      have notRan : meaning.performSql (.transaction sql) database = .error { error } := by
        simp only [Meaning.performSql, TransactionSql.outcome, result]
      rw [performSql_error notRan]
      exact failed error result

section Statements

variable {database changed : Database D} {depth : Nat}

theorem commit_within (within : Within database (depth + 1))
    (performed : (commitAnsiTransactionSql (depth + 1)).perform database = .ok changed) :
    Within changed depth := by
  cases depth with
  | zero =>
      simp only [commitAnsiTransactionSql, Nat.zero_add, if_true, TransactionSql.perform,
        orError_eq_ok] at performed
      exact .commit performed
  | succ depth =>
      simp only [commitAnsiTransactionSql, Nat.add_eq_right, Nat.succ_ne_zero, if_false,
        Nat.add_sub_cancel, TransactionSql.perform, orError_eq_ok] at performed
      exact within.release performed

theorem rollback_within (within : Within database (depth + 1))
    (performed : (rollbackAnsiTransactionSql (depth + 1)).perform database = .ok changed) :
    Within changed depth := by
  cases depth with
  | zero =>
      simp only [rollbackAnsiTransactionSql, Nat.zero_add, if_true, TransactionSql.perform,
        orError_eq_ok] at performed
      exact .rollback performed
  | succ depth =>
      simp only [rollbackAnsiTransactionSql, Nat.add_eq_right, Nat.succ_ne_zero, if_false,
        Nat.add_sub_cancel, TransactionSql.perform, orError_eq_ok] at performed
      exact within.rollbackTo performed

/-- A rollback ends its level, or the level was not open. -/
theorem afterRollback_within (meaning : Meaning D)
    (within : Within database (depth + 1)) :
    Within (meaning.afterwards (.transaction (rollbackAnsiTransactionSql (depth + 1)))
      database) depth := by
  apply afterwards_within
  · exact fun changed => rollback_within within
  · intro error failed
    cases depth with
    | zero =>
        simp only [rollbackAnsiTransactionSql, Nat.zero_add, if_true, TransactionSql.perform,
          orError_eq_error] at failed
        exact .of_none (Option.map_eq_none_iff.mp failed.1)
    | succ depth =>
        simp only [rollbackAnsiTransactionSql, Nat.add_eq_right, Nat.succ_ne_zero, if_false,
          Nat.add_sub_cancel, TransactionSql.perform, orError_eq_error] at failed
        exact within.of_rollbackTo_none failed.1

theorem begin_within (within : Within database depth) :
    Within (meaning.afterwards (.transaction (beginAnsiTransactionSql depth)) database)
      (depth + 1) := by
  apply afterwards_within
  · intro changed performed
    unfold beginAnsiTransactionSql at performed
    split at performed
    next => exact .begin (orError_eq_ok.mp performed)
    next =>
      cases performed
      exact within.savepoint
  · intro _ _
    exact within.mono (Nat.le_succ depth)

/-- A statement that sets no savepoint. -/
def SetsNoSavepoint (meaning : Meaning D) : SqlStr → Prop
  | .transaction sql => ∀ level, sql ≠ .savepoint level
  | .text sql => ∀ level, meaning.command (firstStatement sql) ≠ some (.savepoint level)

/-- Where no transaction is open, only `BEGIN` and savepoints can be performed. -/
theorem begins_of_closed {sql : TransactionSql} (closed : database.transaction = none)
    (performed : sql.perform database = .ok changed) :
    sql = .begin ∨ ∃ level, sql = .savepoint level := by
  cases sql with
  | begin => exact .inl rfl
  | savepoint level => exact .inr ⟨level, rfl⟩
  | commit =>
      have committed := orError_eq_ok.mp performed
      rw [Database.commit, closed] at committed
      cases committed
  | rollback =>
      have restored := orError_eq_ok.mp performed
      rw [Database.rollback, closed] at restored
      cases restored
  | release level =>
      have released := orError_eq_ok.mp performed
      rw [Database.release, closed] at released
      cases released
  | rollbackTo level =>
      have restored := orError_eq_ok.mp performed
      rw [Database.rollbackTo, closed] at restored
      cases restored

/-- Of these only savepoints open more than the first level. -/
theorem perform_within_one {sql : TransactionSql} (closed : database.transaction = none)
    (noSavepoint : ∀ level, sql ≠ .savepoint level)
    (performed : sql.perform database = .ok changed) : Within changed 1 := by
  rcases begins_of_closed closed performed with rfl | ⟨level, rfl⟩
  · exact .begin (orError_eq_ok.mp performed)
  · exact absurd rfl (noSavepoint level)

/-- A statement that is no transaction statement leaves the transaction as it is. -/
theorem perform_transaction {statement : String} {values : List Turso.Value}
    {rows : List Turso.Row} {changes : Nat}
    (noCommand : meaning.command statement = none)
    (ran : meaning.perform statement values database = .ok (rows, changes, changed)) :
    changed.transaction = database.transaction := by
  rw [meaning.perform_of_noCommand noCommand] at ran
  split at ran
  next => cases ran; rfl
  next => cases ran

theorem performSql_transaction {sql : SqlStr} {rows : List Turso.Row} {changes : Nat}
    (noCommand : meaning.commandOf sql = none)
    (ran : meaning.performSql sql database = .ok (rows, changes, changed)) :
    changed.transaction = database.transaction := by
  cases sql with
  | transaction sql => cases noCommand
  | text sql => exact perform_transaction noCommand ran

/-- A begin of the caller's own opens at most the first level. -/
theorem custom_within {sql : SqlStr} (within : Within database 0)
    (noSavepoint : SetsNoSavepoint meaning sql) :
    Within (meaning.afterwards sql database) 1 := by
  have closed := within.closed_of_zero
  cases command : meaning.commandOf sql with
  | some custom =>
      have samePerformed : meaning.performSql sql database =
          meaning.performSql (.transaction custom) database :=
        meaning.performSql_of_command command database
      have same : meaning.afterwards sql database =
          meaning.afterwards (.transaction custom) database := by
        unfold Meaning.afterwards performExecute
        rw [samePerformed]
      rw [same]
      refine afterwards_within (fun _ => perform_within_one closed ?_) fun _ _ => .of_none closed
      intro level isSavepoint
      subst isSavepoint
      cases sql with
      | transaction sql =>
          cases command
          exact noSavepoint level rfl
      | text sql => exact noSavepoint level command
  | none =>
      rcases afterwards_cases meaning sql database with ⟨_, changed, ran, same⟩ | same
      · rw [same]
        exact .of_none ((performSql_transaction command ran).trans closed)
      · rw [same]
        exact .of_none closed

end Statements

/-! ## Bookkeeping -/

/-- Every level that is open at the engine is counted or queued, or the connection is
marked. -/
def Covered (world : World (Sqlite D)) : Prop :=
  world.failed = true ∨ ∀ level, LevelOpen world.engine.database level →
    level ≤ world.depth ∨ level ∈ world.pending

/-- The counted and the queued levels are the first ones, and no others are open. -/
structure Tracks (world : World (Sqlite D)) : Prop where
  pending : world.pending = levelsAbove world.depth world.pending.length
  within : Within world.engine.database (world.depth + world.pending.length)

structure Guarded (world : World (Sqlite D)) : Prop where
  cache : SoundCache world.connection.statements
  tracked : world.failed = true ∨ Tracks world

theorem Guarded.covered {world : World (Sqlite D)} (guarded : Guarded world) :
    Covered world := by
  refine guarded.tracked.imp_right fun tracks level isOpen => ?_
  obtain ⟨_, atMost⟩ := tracks.within.levelOpen isOpen
  by_cases counted : level ≤ world.depth
  · exact .inl counted
  · rw [tracks.pending, mem_levelsAbove]
    exact .inr ⟨Nat.lt_of_not_le counted, atMost⟩

/-- Nothing is queued, and the counted levels are the open ones. -/
structure Settled (world : World (Sqlite D)) : Prop where
  cache : SoundCache world.connection.statements
  sound : world.failed = false
  empty : world.pending = []
  within : Within world.engine.database world.depth

theorem Settled.guarded {world : World (Sqlite D)} (settled : Settled world) :
    Guarded world := by
  refine ⟨settled.cache, .inr ⟨?_, ?_⟩⟩
  · rw [settled.empty]
    rfl
  · rw [settled.empty]
    exact settled.within

/-! ## Lost levels -/

/-- The future that waits for a request is dropped, and a level is open at the engine
then. -/
def LosesLevel (meaning : Meaning D) (request : Request) (level : Nat) (state : Sqlite D) :
    Prop :=
  ∃ state', (sqlite meaning).serve request state = (.dropped, state') ∧
    LevelOpen state'.database level

/-- While the rollbacks of a queue are served one after the other, one of them loses its
level, or `next` does after the last one. -/
def QueueLoses (meaning : Meaning D) (next : Sqlite D → Prop) :
    List Nat → Sqlite D → Prop
  | [], state => next state
  | depth :: queue, state =>
      match (sqlite meaning).serve (rollbackRequest depth) state with
      | (.dropped, state) => LevelOpen state.database depth
      | (.answered (.ok _), state) => QueueLoses meaning next queue state
      | (.answered (.error error), state) =>
          isEndedLevel depth error = true ∧ QueueLoses meaning next queue state

/-- The bookkeeping covers every level, unless one was lost. -/
structure Ends (lost : Prop) (world : World (Sqlite D)) : Prop where
  guarded : ¬lost → Guarded world
  uncovered : lost → ¬Covered world

theorem Ends.of_guarded {lost : Prop} {world : World (Sqlite D)} (notLost : ¬lost)
    (guarded : Guarded world) : Ends lost world :=
  ⟨fun _ => guarded, fun isLost => absurd isLost notLost⟩

/-! ## Clearing the queue -/

/-- What the operation that comes after the queue may lose, by its depth. -/
abbrev Losses (D : Type) : Type := Nat → Sqlite D → Prop

/-- An operation starts in a guarded world, and `lost` tells whether it loses a level. -/
structure Starts (meaning : Meaning D) (next : Losses D) (lost : Prop)
    (world : World (Sqlite D)) : Prop where
  guarded : Guarded world
  loses : (world.failed = false ∧
    QueueLoses meaning (next world.depth) world.pending world.engine) ↔ lost

structure Settling (meaning : Meaning D) (next : Losses D) (lost : Prop)
    (queue : List Nat) (world : World (Sqlite D)) : Prop where
  cache : SoundCache world.connection.statements
  sound : world.failed = false
  rest : world.pending = queue
  ordered : queue = levelsAbove world.depth queue.length
  within : Within world.engine.database (world.depth + queue.length)
  loses : QueueLoses meaning (next world.depth) queue world.engine ↔ lost

section Settling

variable {next : Losses D} {lost : Prop} {depth : Nat} {queue : List Nat}
  {world : World (Sqlite D)} {state : Sqlite D}

/-- The level of the first queued rollback is the uppermost one. -/
theorem Settling.first (settling : Settling meaning next lost (depth :: queue) world) :
    depth = world.depth + queue.length + 1 ∧
      queue = levelsAbove world.depth queue.length := by
  have ordered := settling.ordered
  rw [List.length_cons, levelsAbove, List.cons.injEq] at ordered
  exact ordered

theorem Settling.within_first
    (settling : Settling meaning next lost (depth :: queue) world) :
    Within world.engine.database (world.depth + queue.length + 1) := by
  have within := settling.within
  rw [List.length_cons, ← Nat.add_assoc] at within
  exact within

/-- A rollback that is answered ends its level. -/
theorem Settling.ended (settling : Settling meaning next lost (depth :: queue) world)
    {result : Except Turso.Error Nat}
    (served : (sqlite meaning).serve (rollbackRequest depth) world.engine =
      (.answered result, state))
    (ended : ∀ error, result = .error error → isEndedLevel depth error = true) :
    Within state.database (world.depth + queue.length) := by
  change underVerdict (performExecute (meaning.performSql
    (.transaction (rollbackAnsiTransactionSql depth)))) world.engine = _ at served
  rcases underVerdict_cases served with ⟨refusal, permitted, isReply, rfl⟩ | dropped | dropped
  · cases refusal with
    | none =>
        have isAfter := afterRollback_within meaning settling.within_first
        rw [← settling.first.1] at isAfter
        exact isAfter
    | some refusal =>
        cases isReply
        have inactive := ended _ rfl
        rw [isEndedLevel, Bool.and_eq_true] at inactive
        exact .of_none (permitted refusal rfl inactive.2)
  · cases dropped.2.1
  · cases dropped.2.1

theorem Settling.advance (settling : Settling meaning next lost (depth :: queue) world)
    {result : Except Turso.Error Nat}
    (served : (sqlite meaning).serve (rollbackRequest depth) world.engine =
      (.answered result, state))
    (ended : ∀ error, result = .error error → isEndedLevel depth error = true)
    (status : Status) :
    Settling meaning next lost queue (world.afterRollback depth status state) := by
  refine ⟨settling.cache, settling.sound, ?_, settling.first.2, settling.ended served ended, ?_⟩
  · rw [World.afterRollback_pending, settling.rest, List.tail_cons]
  · refine Iff.trans ?_ settling.loses
    rw [World.afterRollback_engine, World.afterRollback_depth, QueueLoses, served]
    cases result with
    | ok changes => exact Iff.rfl
    | error error => exact (and_iff_right (ended error rfl)).symm

/-- A rollback whose future is dropped loses its level if that is still open. -/
theorem Settling.dropped (settling : Settling meaning next lost (depth :: queue) world)
    (served : (sqlite meaning).serve (rollbackRequest depth) world.engine =
      (.dropped, state)) :
    Ends lost (world.afterRollback depth .dropped state) := by
  rcases settling.first with ⟨isDepth, ordered⟩
  have isLost : LevelOpen state.database depth ↔ lost := by
    refine Iff.trans ?_ settling.loses
    rw [QueueLoses, served]
  refine ⟨fun notLost => ⟨settling.cache, .inr ⟨?_, ?_⟩⟩, fun lost covered => ?_⟩
  · rw [World.afterRollback_pending, settling.rest, List.tail_cons]
    exact ordered
  · rw [World.afterRollback_pending, settling.rest, List.tail_cons]
    refine Within.of_not_levelOpen ?_ ?_
    · change underVerdict (performExecute (meaning.performSql
        (.transaction (rollbackAnsiTransactionSql depth)))) world.engine = _ at served
      rcases underVerdict_cases served with ⟨_, _, isReply, _⟩ | ⟨_, _, rfl⟩ | ⟨_, _, rfl⟩
      · cases isReply
      · exact settling.within_first
      · have isAfter := afterRollback_within meaning settling.within_first
        rw [← isDepth] at isAfter
        exact isAfter.mono (Nat.le_succ _)
    · rw [World.afterRollback_depth, ← isDepth]
      exact fun isOpen => notLost (isLost.mp isOpen)
  · cases covered with
    | inl failed => exact absurd (settling.sound.symm.trans failed) Bool.false_ne_true
    | inr covers =>
        cases covers depth (isLost.mpr lost) with
        | inl counted =>
            rw [World.afterRollback_depth] at counted
            omega
        | inr queued =>
            rw [World.afterRollback_pending, settling.rest, List.tail_cons, ordered,
              mem_levelsAbove] at queued
            omega

end Settling

/-- Clearing the queue keeps every level covered, unless a queued rollback loses its
level. -/
theorem clearPendingRollback_settles (next : Losses D) (lost : Prop) :
    Meets (Starts meaning next lost) (clearPendingRollback (sqlite meaning))
      fun outcome world =>
        match outcome with
        | .returned _ => Settled world ∧ (next world.depth world.engine ↔ lost)
        | _ => Ends lost world := by
  apply clearPendingRollback_meets
  · intro world starts failed
    refine .of_guarded (fun isLost => ?_) starts.guarded
    exact Bool.false_ne_true ((starts.loses.mpr isLost).1.symm.trans failed)
  · intro queue
    refine Meets.weaken (Settling meaning next lost queue) ?_
      (clearQueue_meets (Settling meaning next lost) ?_ ?_ ?_ ?_ queue)
    · rintro world ⟨starts, sound, rfl⟩
      rcases starts.guarded.tracked with failed | tracks
      · exact absurd (sound.symm.trans failed) Bool.false_ne_true
      · exact ⟨starts.guarded.cache, sound, rfl, tracks.pending, tracks.within,
          (and_iff_right sound).symm.trans starts.loses⟩
    · intro world settling
      exact ⟨⟨settling.cache, settling.sound, settling.rest, settling.within⟩,
        settling.loses⟩
    · intro depth queue world result state settling served ended
      exact settling.advance served ended _
    · intro depth queue world error state settling served notEnded
      refine .of_guarded (fun isLost => ?_) ⟨settling.cache, .inl rfl⟩
      have loses := settling.loses.mpr isLost
      rw [QueueLoses, served] at loses
      exact Bool.false_ne_true (notEnded.symm.trans loses.1)
    · intro depth queue world state settling served
      exact settling.dropped served

/-! ## The operations -/

/-- A statement that is executed: it runs, it is refused without a change, or its future
is dropped before or after it ran. -/
theorem callExecute_meets {sql : SqlStr} {before : World (Sqlite D) → Prop}
    {after : Outcome SqlxError Nat → World (Sqlite D) → Prop}
    (ran : ∀ world state changes, before world →
      (sqlite meaning).serve (.execute sql) world.engine = (.answered (.ok changes), state) →
      meaning.performSql sql world.engine.database = .ok ([], changes, state.database) →
      after (.returned changes) (world.send (.execute sql) .done state))
    (refused : ∀ world state error, before world →
      (sqlite meaning).serve (.execute sql) world.engine = (.answered (.error error), state) →
      state.database = world.engine.database →
      after (.failed (mapTursoError error)) (world.send (.execute sql) (.refused error) state))
    (dropped : ∀ world state, before world →
      (sqlite meaning).serve (.execute sql) world.engine = (.dropped, state) →
      state.database = world.engine.database ∨
        state.database = meaning.afterwards sql world.engine.database →
      after .dropped (world.send (.execute sql) .dropped state)) :
    Meets before (call (sqlite meaning) (.execute sql)) after := by
  apply call_meets
  · intro world changes state atWorld served
    exact ran world state changes atWorld served (performed_of_served served)
  · intro world error state atWorld served
    refine refused world state error atWorld served ?_
    change underVerdict (performExecute (meaning.performSql sql)) world.engine = _ at served
    rcases underVerdict_cases served with ⟨refusal, _, isReply, rfl⟩ | lost | lost
    · obtain ⟨changes, changed, isOk, _⟩ | ⟨_, isError⟩ :=
        performExecute_cases sql refusal world.engine.database
      · rw [isOk] at isReply
        cases isReply
      · rw [isError]
    · cases lost.2.1
    · cases lost.2.1
  · intro world state atWorld served
    refine dropped world state atWorld served ?_
    change underVerdict (performExecute (meaning.performSql sql)) world.engine = _ at served
    rcases underVerdict_cases served with ⟨_, _, isReply, _⟩ | ⟨_, _, rfl⟩ | ⟨_, _, rfl⟩
    · cases isReply
    · exact .inl rfl
    · exact .inr rfl

theorem Settled.send {world : World (Sqlite D)} (settled : Settled world) {state : Sqlite D}
    (within : Within state.database world.depth) (request : Request) (status : Status) :
    Settled (world.send request status state) :=
  ⟨settled.cache, settled.sound, settled.empty, within⟩

/-- A settled world with its depth changed. -/
theorem Settled.adjust {world : World (Sqlite D)}
    (adjust : TransactionState → TransactionState)
    (cache : SoundCache world.connection.statements)
    (failed : (adjust world.transactionState).rollbackFailed = false)
    (pending : (adjust world.transactionState).pendingRollbackDepths = [])
    (within : Within world.engine.database (adjust world.transactionState).depth) :
    Settled (world.onTransaction adjust) :=
  ⟨cache, failed, pending, within⟩

/-- A statement is executed and the depth is changed after it. -/
theorem executeStep_ends {sql : SqlStr} {lost : Prop} {before : World (Sqlite D) → Prop}
    {adjust : TransactionState → TransactionState}
    (settled : ∀ world, before world → Settled world)
    (notLost : ∀ world result state, before world →
      (sqlite meaning).serve (.execute sql) world.engine = (.answered result, state) → ¬lost)
    (keeps : ∀ state, (adjust state).rollbackFailed = state.rollbackFailed ∧
      (adjust state).pendingRollbackDepths = state.pendingRollbackDepths)
    (ran : ∀ world changed changes, before world →
      meaning.performSql sql world.engine.database = .ok ([], changes, changed) →
      Within changed (adjust world.transactionState).depth)
    (dropped : ∀ world state, before world →
      (sqlite meaning).serve (.execute sql) world.engine = (.dropped, state) →
      state.database = world.engine.database ∨
        state.database = meaning.afterwards sql world.engine.database →
      Ends lost (world.send (.execute sql) .dropped state)) :
    Meets before
      (do
        let _ ← call (sqlite meaning) (.execute sql)
        changeTransaction adjust)
      fun _ world => Ends lost world := by
  refine Meets.bind (fun _ world => Ends lost (world.onTransaction adjust)) ?_
    fun _ => Meets.modify fun _ holds => holds
  apply callExecute_meets
  · intro world state changes atWorld served performed
    have isSettled := settled world atWorld
    obtain ⟨failed, pending⟩ := keeps world.transactionState
    refine .of_guarded (notLost world _ state atWorld served)
      (Settled.adjust adjust ?_ ?_ ?_ ?_).guarded
    · exact isSettled.cache
    · exact failed.trans isSettled.sound
    · exact pending.trans isSettled.empty
    · exact ran world _ changes atWorld performed
  · intro world state error atWorld served same
    have isSettled := settled world atWorld
    refine .of_guarded (notLost world _ state atWorld served) (isSettled.send ?_ _ _).guarded
    rw [same]
    exact isSettled.within
  · exact dropped

/-- An operation that clears the queue first. -/
theorem clearFirst_ends {α : Type} {next : Losses D} {lost : Prop}
    {program : Unit → Program (Sqlite D) α}
    (ends : Meets (fun world => Settled world ∧ (next world.depth world.engine ↔ lost))
      (program ()) fun _ world => Ends lost world) :
    Meets (Starts meaning next lost) (clearPendingRollback (sqlite meaning) >>= program)
      fun _ world => Ends lost world := by
  refine Meets.bind (fun _ world => Settled world ∧ (next world.depth world.engine ↔ lost))
    ?_ fun _ => ends
  refine (clearPendingRollback_settles next lost).imp ?_
  intro outcome world ended
  cases outcome <;> exact ended

/-- After the queue, only a begin loses a level: the one that it begins. -/
def beginLoses (meaning : Meaning D) (statement : Option SqlStr) : Losses D :=
  fun depth state => (statement.isSome = true → depth = 0) ∧
    LosesLevel meaning
      (.execute (statement.getD (.transaction (beginAnsiTransactionSql depth)))) (depth + 1)
      state

/-- The statement that begins a transaction opens one more level at most. -/
theorem beginStatement_within {statement : Option SqlStr} {depth : Nat}
    (noSavepoint : ∀ sql, statement = some sql → SetsNoSavepoint meaning sql)
    (atZero : statement.isSome = true → depth = 0) {database : Database D}
    (within : Within database depth) :
    Within (meaning.afterwards
      (statement.getD (.transaction (beginAnsiTransactionSql depth))) database) (depth + 1) := by
  cases statement with
  | none => exact begin_within within
  | some sql =>
      have outermost : depth = 0 := atZero rfl
      subst outermost
      exact custom_within within (noSavepoint sql rfl)

theorem begin_ends {statement : Option SqlStr} {lost : Prop}
    (noSavepoint : ∀ sql, statement = some sql → SetsNoSavepoint meaning sql) :
    Meets (Starts meaning (beginLoses meaning statement) lost)
      (TursoTransactionManager.begin (sqlite meaning) statement)
      fun _ world => Ends lost world := by
  refine clearFirst_ends (Meets.read fun depth => ?_)
  split
  next refused =>
    refine Meets.fail ?_
    rintro world ⟨⟨settled, loses⟩, isDepth⟩
    refine .of_guarded (fun isLost => ?_) settled.guarded
    have outermost := (loses.mpr isLost).1 refused.1
    omega
  next allowed =>
    have atZero : statement.isSome = true → depth = 0 := fun custom => by
      by_contra nested
      exact allowed ⟨custom, Nat.pos_of_ne_zero nested⟩
    apply executeStep_ends
    · exact fun world atWorld => atWorld.1.1
    · rintro world result state ⟨⟨settled, loses⟩, isDepth⟩ served isLost
      obtain ⟨_, lostState, isDropped, _⟩ := loses.mpr isLost
      rw [isDepth, served] at isDropped
      cases isDropped
    · exact fun _ => ⟨rfl, rfl⟩
    · rintro world changed changes ⟨⟨settled, _⟩, isDepth⟩ performed
      rw [← performSql_ok performed, TransactionState.incrementDepth_depth]
      subst isDepth
      exact beginStatement_within noSavepoint atZero settled.within
    · rintro world state ⟨⟨settled, loses⟩, isDepth⟩ served database
      subst isDepth
      have within : Within state.database (world.depth + 1) := by
        cases database with
        | inl same => exact same ▸ settled.within.mono (Nat.le_succ _)
        | inr ran => exact ran ▸ beginStatement_within noSavepoint atZero settled.within
      have isLost : LevelOpen state.database (world.depth + 1) ↔ lost := by
        refine Iff.trans ?_ loses
        constructor
        · exact fun isOpen => ⟨atZero, state, served, isOpen⟩
        · rintro ⟨_, _, isServed, isOpen⟩
          rw [served] at isServed
          cases isServed
          exact isOpen
      refine ⟨fun notLost => Settled.guarded (settled.send ?_ _ _), fun lost covered => ?_⟩
      · exact within.of_not_levelOpen fun isOpen => notLost (isLost.mp isOpen)
      · cases covered with
        | inl failed => exact absurd (settled.sound.symm.trans failed) Bool.false_ne_true
        | inr covers =>
            cases covers _ (isLost.mpr lost) with
            | inl counted => exact absurd counted (Nat.not_succ_le_self _)
            | inr queued =>
                change world.depth + 1 ∈ world.pending at queued
                rw [settled.empty] at queued
                exact absurd queued List.not_mem_nil

/-- The other operations lose nothing after the queue. -/
def losesNothing : Losses D := fun _ _ => False

theorem finish_ends {sql : Nat → TransactionSql} {lost : Prop}
    (ends : ∀ (database changed : Database D) depth, Within database (depth + 1) →
      (sql (depth + 1)).perform database = .ok changed → Within changed depth) :
    Meets (Starts meaning losesNothing lost)
      (TursoTransactionManager.finish (sqlite meaning) sql) fun _ world => Ends lost world := by
  refine clearFirst_ends (Meets.read fun depth => ?_)
  cases depth with
  | zero =>
      refine Meets.pure ?_
      rintro world ⟨⟨settled, loses⟩, _⟩
      exact .of_guarded loses.mpr settled.guarded
  | succ depth =>
      rw [if_neg (Nat.succ_ne_zero depth)]
      apply executeStep_ends
      · exact fun world atWorld => atWorld.1.1
      · exact fun world result state atWorld _ => atWorld.1.2.mpr
      · exact fun state => ⟨state.decrementDepth_failed, state.decrementDepth_pending⟩
      · rintro world changed changes ⟨⟨settled, _⟩, isDepth⟩ performed
        have within := settled.within
        rw [isDepth] at within
        rw [World.depth] at isDepth
        rw [TransactionState.decrementDepth_depth, isDepth, Nat.add_sub_cancel]
        exact ends world.engine.database changed depth within
          (TransactionSql.perform_of_outcome performed)
      · rintro world state ⟨⟨settled, loses⟩, isDepth⟩ _ database
        refine .of_guarded loses.mpr (settled.send ?_ _ _).guarded
        have within := settled.within
        rw [isDepth] at within ⊢
        cases database with
        | inl same => exact same ▸ within
        | inr ran =>
            rw [ran]
            exact afterwards_within
              (fun changed performed => (ends _ changed depth within performed).mono
                (Nat.le_succ depth))
              fun _ _ => within

theorem startRollback_guarded {world : World (Sqlite D)} (guarded : Guarded world) :
    Guarded (world.onTransaction TransactionState.markRollbackNeeded) := by
  refine ⟨guarded.cache, ?_⟩
  rcases guarded.tracked with failed | tracks
  · exact .inl ((TransactionState.markRollbackNeeded_failed _).trans failed)
  · right
    obtain ⟨more, ordered, same⟩ :=
      world.transactionState.markRollbackNeeded_levels tracks.pending
    have isPending : (world.onTransaction TransactionState.markRollbackNeeded).pending =
        levelsAbove (world.onTransaction TransactionState.markRollbackNeeded).depth more :=
      ordered
    constructor
    · rw [isPending, length_levelsAbove]
    · rw [isPending, length_levelsAbove]
      have within : Within world.engine.database
          (world.transactionState.depth + world.pending.length) := tracks.within
      rw [← same] at within
      exact within

/-! ## Other statements -/

/-- A text with no transaction statement. -/
structure NoTransactionSql (meaning : Meaning D) (sql : String) : Prop where
  first : meaning.command (firstStatement sql) = none
  all : ∀ statement ∈ statementsOf sql, meaning.command statement = none

/-- The transaction is as it was, and only some of the script is used up. -/
structure Passes (state state' : Sqlite D) : Prop where
  transaction : state'.database.transaction = state.database.transaction
  script : state'.script <:+ state.script

theorem Passes.refl (state : Sqlite D) : Passes state state := ⟨rfl, List.suffix_rfl⟩

theorem Passes.trans {first second third : Sqlite D} (onward : Passes first second)
    (further : Passes second third) : Passes first third :=
  ⟨further.transaction.trans onward.transaction, further.script.trans onward.script⟩

theorem underVerdict_passes {α : Type}
    {perform : Option Refusal → Database D → Except Turso.Error α × Database D}
    (keeps : ∀ refusal database, (perform refusal database).2.transaction =
      database.transaction) {state state' : Sqlite D} {reply : Reply α}
    (served : underVerdict perform state = (reply, state')) : Passes state state' := by
  rcases underVerdict_cases served with ⟨refusal, _, _, rfl⟩ | ⟨_, _, rfl⟩ | ⟨_, _, rfl⟩
  · exact ⟨keeps refusal state.database, List.tail_suffix _⟩
  · exact ⟨rfl, List.tail_suffix _⟩
  · exact ⟨keeps none state.database, List.tail_suffix _⟩

theorem performExecute_transaction {statement : String}
    (noCommand : meaning.command statement = none) (refusal : Option Refusal)
    (database : Database D) :
    (performExecute (meaning.perform statement []) refusal database).2.transaction =
      database.transaction := by
  unfold performExecute
  split
  next => rfl
  next executed => exact perform_transaction noCommand (withoutRows_eq_ok.mp executed)
  next => rfl

theorem performPrepare_database (sql : String) (refusal : Option Refusal)
    (database : Database D) :
    (meaning.performPrepare sql refusal database).2 = database := by
  unfold Meaning.performPrepare
  split <;> rfl

theorem performQuery_transaction {statement : Turso.Statement}
    (noCommand : meaning.command (firstStatement statement.sql) = none)
    (values : List Turso.Value) (refusal : Option Refusal) (database : Database D) :
    (meaning.performQuery statement values refusal database).2.transaction =
      database.transaction := by
  unfold Meaning.performQuery
  split
  next => rfl
  next => rfl
  next => rfl
  next _ _ _ _ ran => exact perform_transaction noCommand ran
  next => rfl

theorem serveBatch_passes {statements : List String}
    (noCommand : ∀ statement ∈ statements, meaning.command statement = none)
    {state state' : Sqlite D} {reply : Reply Unit}
    (served : meaning.serveBatch statements state = (reply, state')) : Passes state state' := by
  induction statements generalizing state with
  | nil => cases served; exact .refl _
  | cons statement rest ih =>
      have first := noCommand statement List.mem_cons_self
      cases isServed :
          underVerdict (performExecute (meaning.perform statement [])) state with
      | mk firstReply middle =>
          have passes := underVerdict_passes (performExecute_transaction first) isServed
          rw [Meaning.serveBatch, isServed] at served
          cases firstReply with
          | dropped => cases served; exact passes
          | answered result =>
              cases result with
              | error error => cases served; exact passes
              | ok changes =>
                  exact passes.trans
                    (ih (fun _ inRest => noCommand _ (List.mem_cons_of_mem _ inRest)) served)

/-- An invariant that does not look at what statements do apart from transactions. -/
structure Indifferent (invariant : World (Sqlite D) → Prop) : Prop where
  cache : ∀ world, invariant world → SoundCache world.connection.statements
  send : ∀ world state request status, invariant world → Passes world.engine state →
    invariant (world.send request status state)
  onConnection : ∀ world change, invariant world →
    (change world.connection).transactionState = world.transactionState →
    SoundCache (change world.connection).statements → invariant (world.onConnection change)

namespace Indifferent

variable {invariant : World (Sqlite D) → Prop} (indifferent : Indifferent invariant)

include indifferent

/-- A call that does not touch the transaction. -/
theorem call {request : Request} {prepared : request.Answer → Prop}
    (serves : ∀ state state' reply, (sqlite meaning).serve request state = (reply, state') →
      Passes state state' ∧ ∀ answer, reply = .answered (.ok answer) → prepared answer) :
    Meets invariant (SqlxTurso.call (sqlite meaning) request) (Keeping invariant prepared) := by
  apply call_meets
  · intro world answer state holds served
    obtain ⟨passes, isPrepared⟩ := serves _ _ _ served
    refine ⟨indifferent.send world state _ _ holds passes, ?_⟩
    intro _ isAnswer
    cases isAnswer
    exact isPrepared _ rfl
  · intro world error state holds served
    exact ⟨indifferent.send world state _ _ holds (serves _ _ _ served).1, fun _ => nofun⟩
  · intro world state holds served
    exact ⟨indifferent.send world state _ _ holds (serves _ _ _ served).1, fun _ => nofun⟩

theorem callPrepare (sql : String) :
    Meets invariant (SqlxTurso.call (sqlite meaning) (.prepare sql))
      (Keeping invariant fun raw : Turso.Statement => raw.sql = sql) := by
  apply indifferent.call
  intro state state' reply served
  change underVerdict (meaning.performPrepare sql) state = (reply, state') at served
  refine ⟨underVerdict_passes (fun refusal database =>
    congrArg Database.transaction (performPrepare_database sql refusal database)) served, ?_⟩
  intro raw isReply
  subst isReply
  rcases underVerdict_cases served with ⟨refusal, _, isReply, _⟩ | ⟨_, isReply, _⟩ |
    ⟨_, isReply, _⟩
  · rw [Reply.answered.injEq] at isReply
    unfold Meaning.performPrepare at isReply
    split at isReply
    · cases isReply
    · cases isReply
      rfl
    · cases isReply
  · cases isReply
  · cases isReply

theorem prepareSql (sql : String) :
    Meets invariant (SqlxTurso.prepareSql (sqlite meaning) sql)
      (Keeping invariant (PreparedFor sql)) :=
  prepareSql_keeping indifferent.cache indifferent.onConnection (indifferent.callPrepare sql)

theorem querySql {sql : String} (noSql : NoTransactionSql meaning sql)
    (persistent : Bool) (arguments : Option TursoArguments) :
    Meets invariant (SqlxTurso.querySql (sqlite meaning) sql persistent arguments)
      (Keeping invariant fun _ => True) := by
  refine Meets.bindKeeping (prepareQueryStatement_keeping indifferent.cache
    indifferent.onConnection (indifferent.callPrepare sql) persistent) fun raw isSql => ?_
  have noCommand : meaning.command (firstStatement raw.sql) = none := isSql ▸ noSql.first
  refine Meets.read fun columns => Meets.weaken invariant (fun _ atRead => atRead.1) ?_
  refine Meets.bindKeeping (indifferent.call (fun _ _ _ served =>
    ⟨underVerdict_passes (performQuery_transaction noCommand _) served,
      fun _ _ => trivial⟩)) fun rows _ => ?_
  exact Meets.pureKeeping trivial

theorem executeBatchSql {sql : String} (noSql : NoTransactionSql meaning sql) :
    Meets invariant (SqlxTurso.executeBatchSql (sqlite meaning) sql)
      (Keeping invariant fun _ => True) :=
  Meets.bindKeeping (indifferent.call (fun _ _ _ served =>
    ⟨serveBatch_passes noSql.all served, fun _ _ => trivial⟩))
    fun _ _ => Meets.pureKeeping trivial

/-- A fetch of a text without transaction statements, once the queue is cleared. -/
theorem fetchCleared {sql : String} (noSql : NoTransactionSql meaning sql)
    (persistent : Bool) (arguments : Option TursoArguments) :
    Meets invariant (SqlxTurso.fetchCleared (sqlite meaning) sql persistent arguments)
      fun _ world => invariant world := by
  unfold SqlxTurso.fetchCleared
  dsimp only
  split
  · split
    · exact Meets.fail fun _ holds => holds
    · exact Meets.bindAlways ((indifferent.executeBatchSql noSql).imp fun _ _ kept => kept.1)
        fun _ => Meets.pure fun _ holds => holds
  · split
    · exact Meets.fail fun _ holds => holds
    · exact (indifferent.querySql noSql persistent _).imp fun _ _ kept => kept.1

end Indifferent

theorem Guarded.indifferent : Indifferent (Guarded (D := D)) where
  cache _ guarded := guarded.cache
  send _ _ _ _ guarded passes := ⟨guarded.cache, guarded.tracked.imp_right fun tracks =>
    ⟨tracks.pending, tracks.within.of_same passes.transaction⟩⟩
  onConnection world change guarded same cache := by
    have sameState : (world.onConnection change).transactionState =
      world.transactionState := same
    refine ⟨cache, guarded.tracked.imp (fun failed => ?_) fun tracks => ⟨?_, ?_⟩⟩
    · rw [World.failed, sameState]
      exact failed
    · rw [World.pending, World.depth, sameState]
      exact tracks.pending
    · rw [World.pending, World.depth, sameState]
      exact tracks.within

theorem liftExcept_ends {α : Type} {lost : Prop} (result : Except SqlxError α) :
    Meets (Ends lost) (liftExcept result : Program (Sqlite D) α) fun _ world =>
      Ends lost world := by
  cases result with
  | ok value => exact Meets.pure fun _ ends => ends
  | error error => exact Meets.fail fun _ ends => ends

theorem fetchManySql_ends {sql : String} {lost : Prop} (noSql : NoTransactionSql meaning sql)
    (persistent : Bool) (arguments : Option TursoArguments) :
    Meets (Starts meaning losesNothing lost)
      (fetchManySql (sqlite meaning) sql persistent arguments)
      fun _ world => Ends lost world := by
  refine clearFirst_ends ?_
  rintro world ⟨settled, loses⟩
  have kept := Guarded.indifferent.fetchCleared noSql persistent arguments
  exact .of_guarded loses.mpr (kept world settled.guarded)

/-! ## Runs -/

namespace Operation

/-- The operations whose own texts hold no transaction statement, a begin apart. -/
def NoControl (meaning : Meaning D) : Operation → Prop
  | begin statement => ∀ sql, statement = some sql → SetsNoSavepoint meaning sql
  | fetchMany query => NoTransactionSql meaning query.sql
  | fetchOptional query => NoTransactionSql meaning query.sql
  | _ => True

/-- The operations that clear the queue. -/
def clearsQueue : Operation → Bool
  | begin _ => true
  | commit => true
  | rollback => true
  | fetchMany query => query.arguments.isOk
  | fetchOptional query => query.arguments.isOk
  | _ => false

/-- What an operation may lose after the queue. -/
def losses (meaning : Meaning D) : Operation → Losses D
  | begin statement => beginLoses meaning statement
  | _ => losesNothing

/-- The future of the operation is dropped while it waits for a queued rollback, or for
the statement of a begin, and the level of that statement is open at the engine then. -/
def Loses (meaning : Meaning D) (operation : Operation) (world : World (Sqlite D)) : Prop :=
  operation.clearsQueue = true ∧ world.failed = false ∧
    QueueLoses meaning (operation.losses meaning world.depth) world.pending world.engine

theorem starts (meaning : Meaning D) (operation : Operation) {world : World (Sqlite D)} (guarded : Guarded world)
    (clears : operation.clearsQueue = true) :
    Starts meaning (operation.losses meaning) (operation.Loses meaning world) world :=
  ⟨guarded, (and_iff_right clears).symm⟩

theorem not_loses {operation : Operation} {world : World (Sqlite D)}
    (leaves : operation.clearsQueue = false) : ¬operation.Loses meaning world :=
  fun loses => Bool.false_ne_true (leaves.symm.trans loses.1)

theorem fetchMany_ends {query : Query} {world : World (Sqlite D)}
    (noSql : NoTransactionSql meaning query.sql) (guarded : Guarded world) :
    Ends ((fetchMany query).Loses meaning world)
      (SqlxTurso.fetchMany (sqlite meaning) query world).2 := by
  unfold SqlxTurso.fetchMany
  cases encoded : query.arguments with
  | error error =>
      have leaves : (fetchMany query).clearsQueue = false := by
        rw [clearsQueue, encoded]
        rfl
      exact .of_guarded (not_loses leaves) guarded
  | ok arguments =>
      have clears : (fetchMany query).clearsQueue = true := by
        rw [clearsQueue, encoded]
        rfl
      exact fetchManySql_ends noSql query.persistent arguments world (starts meaning (fetchMany query) guarded clears)

/-- An operation that starts in a guarded world loses a level or keeps it guarded. -/
theorem ends {operation : Operation} {world : World (Sqlite D)}
    (noControl : operation.NoControl meaning) (guarded : Guarded world) :
    Ends (operation.Loses meaning world) (operation.run (sqlite meaning) world).2 := by
  have prepared : ∀ sql : String, Meets Guarded (prepareSql (sqlite meaning) sql)
      fun _ world => Guarded world :=
    fun sql => (Guarded.indifferent.prepareSql sql).imp fun _ _ kept => kept.1
  cases operation with
  | begin statement => exact begin_ends noControl world (starts meaning (begin statement) guarded rfl)
  | commit =>
      exact finish_ends (fun _ _ _ => commit_within) world (starts meaning commit guarded rfl)
  | rollback =>
      exact finish_ends (fun _ _ _ => rollback_within) world
        (starts meaning rollback guarded rfl)
  | fetchMany query =>
      have fetched : Meets (· = world) (SqlxTurso.fetchMany (sqlite meaning) query)
          fun _ => Ends ((fetchMany query).Loses meaning world) :=
        fun _ same => by rw [same]; exact fetchMany_ends noControl guarded
      exact Meets.bindAlways fetched (fun _ => Meets.pure fun _ ends => ends) world rfl
  | fetchOptional query =>
      have fetched : Meets (· = world) (SqlxTurso.fetchMany (sqlite meaning) query)
          fun _ => Ends ((fetchOptional query).Loses meaning world) :=
        fun _ same => by rw [same]; exact fetchMany_ends noControl guarded
      exact Meets.bindAlways (Meets.bindAlways fetched fun stream => liftExcept_ends _)
        (fun _ => Meets.pure fun _ ends => ends) world rfl
  | prepareWith sql =>
      refine .of_guarded (not_loses rfl) ?_
      exact Meets.bindAlways (prepared sql) (fun _ => Meets.pure fun _ kept => kept) world
        guarded
  | describe sql =>
      refine .of_guarded (not_loses rfl) ?_
      exact Meets.bindAlways
        (Meets.bindAlways (prepared sql) fun _ => Meets.pure fun _ kept => kept)
        (fun _ => Meets.pure fun _ kept => kept) world guarded
  | ping => exact .of_guarded (not_loses rfl) guarded

end Operation

/-- The worlds that a connection reaches under any script of its engine, by operations
that meet a condition in the world before them. -/
inductive Run (meaning : Meaning D) (condition : Operation → World (Sqlite D) → Prop) :
    World (Sqlite D) → Prop where
  | fresh (caches : StatementCaches) (content : D) (capacity : Nat) (script : List Verdict) :
      Run meaning condition
        { connection := { statements := { caches, capacity } }
          engine := { database := { content }, script } }
  | step {world} (operation : Operation) :
      Run meaning condition world → operation.NoControl meaning → condition operation world →
      Run meaning condition (operation.run (sqlite meaning) world).2
  | startRollback {world} :
      Run meaning condition world →
      Run meaning condition (TursoTransactionManager.startRollback world).2

theorem Run.guarded {world : World (Sqlite D)}
    (run : Run meaning (fun operation world => ¬operation.Loses meaning world) world) :
    Guarded world := by
  induction run with
  | fresh caches content capacity script =>
      refine Settled.guarded ⟨.fresh caches capacity, rfl, rfl, .of_none rfl⟩
  | step operation _ noControl keeps ih => exact (operation.ends noControl ih).guarded keeps
  | startRollback _ ih => exact startRollback_guarded ih

/-- In a run that loses no level the bookkeeping covers every level that is open at the
engine, and the next operation keeps it so if and only if it loses none either. -/
theorem levels_stay_covered {world : World (Sqlite D)}
    (run : Run meaning (fun operation world => ¬operation.Loses meaning world) world) :
    Covered world ∧ ∀ operation : Operation, operation.NoControl meaning →
      (Covered (operation.run (sqlite meaning) world).2 ↔ ¬operation.Loses meaning world) := by
  refine ⟨run.guarded.covered, fun operation noControl => ?_⟩
  have ends := operation.ends noControl run.guarded
  exact ⟨fun covered loses => ends.uncovered loses covered,
    fun keeps => (ends.guarded keeps).covered⟩

/-- A fresh connection to a database that counts its statements. -/
def freshCounter (script : List Verdict) : World (Sqlite Nat) where
  connection := { statements := { caches := .roomy, capacity := 100 } }
  engine := { database := { content := 7 }, script }

/-- The world after the future of a begin was dropped before the engine has served it, and
another begin has run. -/
def begunAgain : World (Sqlite Nat) :=
  let cancelled := ((Operation.begin none).run (sqlite counter)
    (freshCounter [.dropBefore, .run, .dropAfter])).2
  ((Operation.begin none).run (sqlite counter) cancelled).2

/-- Its handle is dropped, and then the future of a commit, after the engine has served the
queued rollback. -/
def rolledBack : World (Sqlite Nat) :=
  (Operation.commit.run (sqlite counter) (TursoTransactionManager.startRollback begunAgain).2).2

/-- Neither the begin nor the rollback whose futures are dropped loses its level. -/
theorem cancelled_levels_stay_covered : Covered begunAgain ∧ Covered rolledBack := by
  have notBegun : ¬(Operation.begin none).Loses counter
      (freshCounter [.dropBefore, .run, .dropAfter]) := by
    rintro ⟨_, _, _, state, isDropped, _, isOpen, _⟩
    cases isDropped
    cases isOpen
  have begun : ¬(Operation.begin none).Loses counter ((Operation.begin none).run (sqlite counter)
      (freshCounter [.dropBefore, .run, .dropAfter])).2 := by
    rintro ⟨_, _, _, state, isDropped, _⟩
    cases isDropped
  have restored : ¬Operation.commit.Loses counter
      (TursoTransactionManager.startRollback begunAgain).2 := by
    rintro ⟨_, _, _, isOpen, _⟩
    cases isOpen
  have noText : (Operation.begin none).NoControl counter := by
    intro sql isText
    cases isText
  have run : Run counter (fun operation world => ¬operation.Loses counter world) begunAgain :=
    .step (.begin none) (.step (.begin none)
      (.fresh .roomy 7 100 [.dropBefore, .run, .dropAfter]) noText notBegun) noText begun
  exact ⟨(levels_stay_covered run).1,
    (levels_stay_covered (.step .commit (.startRollback run) trivial restored)).1⟩

/-- The handle of a begun transaction is dropped, and then the future of a commit, before
the engine has served the queued rollback. -/
def lostRollback : World (Sqlite Nat) :=
  let begun := ((Operation.begin none).run (sqlite counter) (freshCounter [.run, .dropBefore])).2
  (Operation.commit.run (sqlite counter) (TursoTransactionManager.startRollback begun).2).2

/-- The future of a begin is dropped after the engine has served its statement. -/
def lostBegin : World (Sqlite Nat) :=
  ((Operation.begin none).run (sqlite counter) (freshCounter [.dropAfter])).2

theorem cancellation_loses_levels :
    (Run counter (fun _ _ => True) lostRollback ∧ ¬Covered lostRollback) ∧
      Run counter (fun _ _ => True) lostBegin ∧ ¬Covered lostBegin := by
  refine ⟨⟨?_, ?_⟩, ?_, ?_⟩
  · exact .step .commit (.startRollback
      (.step (.begin none) (.fresh .roomy 7 100 _) (fun _ => nofun) trivial)) trivial trivial
  · rintro (failed | covers)
    · cases failed
    · rcases covers 1 ⟨_, rfl, .inl rfl⟩ with counted | queued
      · cases counted
      · cases queued
  · exact .step (.begin none) (.fresh .roomy 7 100 _) (fun _ => nofun) trivial
  · rintro (failed | covers)
    · cases failed
    · rcases covers 1 ⟨_, rfl, .inl rfl⟩ with counted | queued
      · cases counted
      · cases queued

end SqlxTurso
