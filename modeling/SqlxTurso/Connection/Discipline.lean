import SqlxTurso.Connection.Executor
import SqlxTurso.Sql.Statements
import Mathlib.Data.List.Forall2

/-!
# What a connection sends

A connection that is used again must first execute the rollbacks of the handles that
were dropped.  The operations that begin with `clear_pending_rollback` do, whatever
the engine answers; the others are told apart here.  The same view of the requests
shows that a text of several statements reaches the engine only as a batch.
-/

namespace SqlxTurso

open Library Async Sql

variable {σ α β : Type} {engine : Engine σ}

/-! ## Clearing the queue -/

/-- The engine executed a queued rollback, or it had ended the level before. -/
def ExecutedRollback (depth : Nat) (event : Event) : Prop :=
  event.request = rollbackRequest depth ∧
    (event.status = .done ∨
      ∃ error, event.status = .refused error ∧ isEndedLevel depth error = true)

theorem request_of_executed {levels : List Nat} {events : List Event}
    (executed : List.Forall₂ ExecutedRollback levels events) :
    ∀ event ∈ events, ∃ depth ∈ levels, event.request = rollbackRequest depth := by
  induction executed with
  | nil => exact fun _ inEmpty => absurd inEmpty List.not_mem_nil
  | cons first _ ih =>
      intro event inEvents
      cases List.mem_cons.mp inEvents with
      | inl isFirst => exact ⟨_, List.mem_cons_self, isFirst ▸ first.1⟩
      | inr inRest =>
          obtain ⟨depth, inLevels, request⟩ := ih event inRest
          exact ⟨depth, List.mem_cons_of_mem _ inLevels, request⟩

/-- The queue that `start` holds was executed in order and is empty now. -/
structure Cleared (start world : World σ) : Prop where
  startSound : start.failed = false
  sound : world.failed = false
  empty : world.pending = []
  sameDepth : world.depth = start.depth
  executed : ∃ events, List.Forall₂ ExecutedRollback start.pending events ∧
    world.sent = start.sent ++ events

/-- Clearing the queue came to an early end. -/
structure Uncleared (start world : World σ) : Prop where
  crashed : start.failed = true → world.sent = start.sent
  onlyRollbacks : ∃ events, world.sent = start.sent ++ events ∧
    ∀ event ∈ events, ∃ depth ∈ start.pending, event.request = rollbackRequest depth

/-- How far the loop over the queue has come. -/
structure Clearing (start : World σ) (queue : List Nat) (world : World σ) : Prop where
  startSound : start.failed = false
  sound : world.failed = false
  sameDepth : world.depth = start.depth
  rest : world.pending = queue
  executed : ∃ levels events, start.pending = levels ++ queue ∧
    List.Forall₂ ExecutedRollback levels events ∧ world.sent = start.sent ++ events

namespace Clearing

variable {start world : World σ} {depth : Nat} {queue : List Nat}

theorem next (clearing : Clearing start (depth :: queue) world) {status : Status} {state : σ}
    (executed : ExecutedRollback depth ⟨rollbackRequest depth, status⟩) :
    Clearing start queue (world.afterRollback depth status state) := by
  rcases clearing.executed with ⟨levels, events, split, done, sent⟩
  refine ⟨clearing.startSound, clearing.sound, clearing.sameDepth, ?_, levels ++ [depth],
    events ++ [⟨rollbackRequest depth, status⟩], ?_, ?_, ?_⟩
  · rw [World.afterRollback_pending, clearing.rest, List.tail_cons]
  · rw [split, List.append_assoc, List.singleton_append]
  · exact List.rel_append done (.cons executed .nil)
  · rw [World.afterRollback_sent, sent, List.append_assoc]

/-- A rollback that the engine does not answer, or refuses, ends the loop. -/
theorem last (clearing : Clearing start (depth :: queue) world) (status : Status) (state : σ) :
    Uncleared start (world.afterRollback depth status state) := by
  rcases clearing.executed with ⟨levels, events, split, done, sent⟩
  have sound := clearing.startSound
  refine ⟨fun failed => absurd (sound.symm.trans failed) Bool.false_ne_true,
    events ++ [⟨rollbackRequest depth, status⟩], ?_, ?_⟩
  · rw [World.afterRollback_sent, sent, List.append_assoc]
  · intro event sentEvent
    rw [List.mem_append, List.mem_singleton] at sentEvent
    rw [split]
    cases sentEvent with
    | inl before =>
        obtain ⟨level, inLevels, request⟩ := request_of_executed done event before
        exact ⟨level, List.mem_append_left _ inLevels, request⟩
    | inr now =>
        subst now
        exact ⟨depth, List.mem_append_right _ List.mem_cons_self, rfl⟩

end Clearing

/-- Clearing the queue executes its rollbacks in order until it is empty or one of them is
not answered or refused. -/
theorem clearPendingRollback_clearing (start : World σ)
    {after : Outcome SqlxError Unit → World σ → Prop}
    (crashed : start.failed = true → after (.failed .workerCrashed) start)
    (finished : ∀ world, Clearing start [] world → after (.returned ()) world)
    (refused : ∀ depth queue world error state, Clearing start (depth :: queue) world →
      isEndedLevel depth error = false →
      after (.failed (mapTursoError error))
        ((world.afterRollback depth (.refused error) state).onTransaction
          TransactionState.markRollbackFailed))
    (dropped : ∀ depth queue world state, Clearing start (depth :: queue) world →
      after .dropped (world.afterRollback depth .dropped state)) :
    Meets (· = start) (clearPendingRollback engine) after := by
  apply clearPendingRollback_meets
  · rintro world rfl failed
    exact crashed failed
  · intro queue
    refine Meets.weaken (Clearing start queue) ?_
      (clearQueue_meets (Clearing start) finished ?_ ?_ ?_ queue)
    · intro world atWorld
      rcases atWorld with ⟨rfl, sound, pending⟩
      exact ⟨sound, sound, rfl, pending, [], [], pending, .nil, (List.append_nil _).symm⟩
    · intro depth queue world result state clearing _ ended
      refine clearing.next ⟨rfl, ?_⟩
      cases result with
      | ok answer => exact .inl rfl
      | error error => exact .inr ⟨error, rfl, ended error rfl⟩
    · exact fun depth queue world error state clearing _ notEnded =>
        refused depth queue world error state clearing notEnded
    · exact fun depth queue world state clearing _ => dropped depth queue world state clearing

theorem Clearing.cleared {start world : World σ} (clearing : Clearing start [] world) :
    Cleared start world := by
  rcases clearing.executed with ⟨levels, events, split, done, sent⟩
  rw [List.append_nil] at split
  exact ⟨clearing.startSound, clearing.sound, clearing.rest, clearing.sameDepth, events,
    split ▸ done, sent⟩

/-- Whatever the engine answers, `clear_pending_rollback` either executes the whole
queue or does not return. -/
theorem clearPendingRollback_spec (start : World σ) :
    Meets (· = start) (clearPendingRollback engine) fun outcome world =>
      match outcome with
      | .returned _ => Cleared start world
      | .failed _ => Uncleared start world
      | .dropped => Uncleared start world ∧ start.failed = false := by
  apply clearPendingRollback_clearing
  · intro failed
    exact ⟨fun _ => rfl, [], (List.append_nil _).symm, fun _ inEmpty =>
      absurd inEmpty List.not_mem_nil⟩
  · exact fun world clearing => clearing.cleared
  · intro depth queue world error state clearing _
    have ended := clearing.last (.refused error) state
    exact ⟨ended.crashed, ended.onlyRollbacks⟩
  · intro depth queue world state clearing
    exact ⟨clearing.last .dropped state, clearing.startSound⟩

/-- Clearing the queue succeeds only by executing all of it. -/
theorem Cleared.of_returned {world cleared : World σ}
    (isCleared : clearPendingRollback engine world = (.returned (), cleared)) :
    Cleared world cleared := by
  have meets : Meets (· = world) (clearPendingRollback engine) _ :=
    clearPendingRollback_spec world
  have ended := meets world rfl
  rw [isCleared] at ended
  exact ended

/-! ## Use of a connection -/

/-- A connection whose clean-up failed is not used, and any other one is used only after
its queue was executed. -/
structure SafeUse (start : World σ) (outcome : Outcome SqlxError α) (world : World σ) :
    Prop where
  crashed : start.failed = true →
    (∃ error, outcome = .failed error) ∧ world.sent = start.sent
  cleared : start.failed = false → ∀ value, outcome = .returned value →
    world.pending = [] ∧ ∃ events later,
      List.Forall₂ ExecutedRollback start.pending events ∧
        world.sent = start.sent ++ events ++ later

/-- Only more is sent, and the queue stays as it is. -/
structure KeepsQueue (start world : World σ) : Prop where
  samePending : world.pending = start.pending
  sends : ∃ later, world.sent = start.sent ++ later

namespace KeepsQueue

theorem refl (world : World σ) : KeepsQueue world world :=
  ⟨rfl, [], (List.append_nil _).symm⟩

theorem trans {start middle world : World σ} (first : KeepsQueue start middle)
    (second : KeepsQueue middle world) : KeepsQueue start world := by
  rcases first.sends with ⟨sent, firstSends⟩
  rcases second.sends with ⟨later, secondSends⟩
  exact ⟨second.samePending.trans first.samePending, sent ++ later,
    by rw [secondSends, firstSends, List.append_assoc]⟩

end KeepsQueue

/-- Nothing happens to the connection but that more is sent. -/
structure OnlySends (start world : World σ) : Prop where
  sameState : world.transactionState = start.transactionState
  sends : ∃ later, world.sent = start.sent ++ later

theorem OnlySends.keepsQueue {start world : World σ} (onlySends : OnlySends start world) :
    KeepsQueue start world :=
  ⟨congrArg TransactionState.pendingRollbackDepths onlySends.sameState, onlySends.sends⟩

instance : Std.Refl (KeepsQueue (σ := σ)) := ⟨KeepsQueue.refl⟩

instance : IsTrans (World σ) KeepsQueue := ⟨fun _ _ _ first second => first.trans second⟩

instance : Std.Refl (OnlySends (σ := σ)) := ⟨fun _ => ⟨rfl, [], (List.append_nil _).symm⟩⟩

instance : IsTrans (World σ) OnlySends := by
  constructor
  intro start middle world first second
  rcases first.sends with ⟨sent, firstSends⟩
  rcases second.sends with ⟨later, secondSends⟩
  exact ⟨second.sameState.trans first.sameState, sent ++ later,
    by rw [secondSends, firstSends, List.append_assoc]⟩

/-- A program that leaves the queue alone. -/
def LeavesQueue (program : Program σ α) : Prop :=
  ∀ start, Meets (· = start) program fun _ world => KeepsQueue start world

/-- A program that only sends leaves the queue alone. -/
theorem LeavesQueue.of_onlySends {program : Program σ α}
    (preserves : Preserves OnlySends program) : LeavesQueue program :=
  preserves.mono fun _ _ => OnlySends.keepsQueue

theorem call_onlySends (request : Request) :
    Preserves OnlySends (call engine request) := by
  intro start
  apply call_meets
  · rintro _ answer state rfl _
    exact ⟨rfl, _, rfl⟩
  · rintro _ error state rfl _
    exact ⟨rfl, _, rfl⟩
  · rintro _ state rfl _
    exact ⟨rfl, _, rfl⟩

theorem onConnection_onlySends {change : TursoConnection → TursoConnection}
    (same : ∀ connection, (change connection).transactionState =
      connection.transactionState) (world : World σ) :
    OnlySends world (world.onConnection change) :=
  ⟨same world.connection, [], (List.append_nil _).symm⟩

theorem prepareSql_onlySends (sql : String) : Preserves OnlySends (prepareSql engine sql) := by
  refine .bind (.read _) fun cached => .bind (.modify ?_) fun _ => ?_
  · exact onConnection_onlySends fun connection =>
      connection.cachedStatement_transactionState sql
  · cases cached with
    | some statement => exact .pure statement
    | none =>
        refine .bind (call_onlySends _) fun raw => .bind (.read _) fun columns =>
          .bind (.modify ?_) fun _ => .pure _
        exact onConnection_onlySends fun connection =>
          connection.cacheStatement_transactionState sql _

theorem prepareQueryStatement_onlySends (sql : String) (persistent : Bool) :
    Preserves OnlySends (prepareQueryStatement engine sql persistent) := by
  cases persistent with
  | false => exact call_onlySends _
  | true =>
      refine .bind (prepareSql_onlySends sql) fun statement => ?_
      cases statement.raw with
      | some raw => exact .pure raw
      | none => exact call_onlySends _

theorem querySql_onlySends (sql : String) (persistent : Bool)
    (arguments : Option TursoArguments) :
    Preserves OnlySends (querySql engine sql persistent arguments) :=
  .bind (prepareQueryStatement_onlySends sql persistent) fun _ =>
    .bind (.read _) fun _ => .bind (call_onlySends _) fun _ => .pure _

theorem fetchCleared_onlySends (sql : String) (persistent : Bool)
    (arguments : Option TursoArguments) :
    Preserves OnlySends (fetchCleared engine sql persistent arguments) := by
  unfold fetchCleared
  dsimp only
  split
  · split
    · exact .fail _
    · exact .bind (.bind (call_onlySends _) fun _ => .pure _) fun _ => .pure _
  · split
    · exact .fail _
    · exact querySql_onlySends _ _ _

theorem changeTransaction_leavesQueue {change : TransactionState → TransactionState}
    (same : ∀ state, (change state).pendingRollbackDepths = state.pendingRollbackDepths) :
    LeavesQueue (changeTransaction change : Program σ Unit) :=
  Preserves.modify fun world => ⟨same world.transactionState, [], (List.append_nil _).symm⟩

theorem liftExcept_onlySends (result : Except SqlxError α) :
    Preserves OnlySends (liftExcept result : Program σ α) := by
  cases result with
  | ok value => exact .pure value
  | error error => exact .fail error

/-- A program whose every use of a connection is safe. -/
def UsesSafely (program : Program σ α) : Prop :=
  ∀ start, Meets (· = start) program (SafeUse start)

namespace UsesSafely

/-- It is enough to clear the queue first and to leave it alone then. -/
theorem clearFirst {next : Unit → Program σ α} (leaves : ∀ value, LeavesQueue (next value)) :
    UsesSafely (clearPendingRollback engine >>= next) := by
  intro start
  refine Meets.bind (fun _ world => Cleared start world) ?_ fun value => ?_
  · refine (clearPendingRollback_spec start).imp ?_
    intro outcome world ended
    cases outcome with
    | returned value => exact ended
    | failed error =>
        refine ⟨fun failed => ⟨⟨error, rfl⟩, ended.crashed failed⟩, ?_⟩
        intro _ value returned
        cases returned
    | dropped =>
        constructor
        · intro failed
          exact absurd (ended.2.symm.trans failed) Bool.false_ne_true
        · intro _ value returned
          cases returned
  · apply Meets.of_state
    intro middle cleared
    refine (leaves value middle).mono (fun _ atMiddle => atMiddle) ?_
    intro outcome world keeps
    rcases cleared.executed with ⟨events, executed, sent⟩
    rcases keeps.sends with ⟨later, sends⟩
    constructor
    · intro failed
      exact absurd (cleared.startSound.symm.trans failed) Bool.false_ne_true
    · intro _ _ _
      exact ⟨keeps.samePending.trans cleared.empty, events, later, executed,
        by rw [sends, sent]⟩

theorem fail (error : SqlxError) : UsesSafely (Async.fail error : Program σ α) := by
  rintro start _ rfl
  exact ⟨fun _ => ⟨⟨error, rfl⟩, rfl⟩, fun _ _ returned => by cases returned⟩

theorem bind {first : Program σ α} {next : α → Program σ β} (safe : UsesSafely first)
    (leaves : ∀ value, LeavesQueue (next value)) : UsesSafely (first >>= next) := by
  intro start
  refine Meets.bind (fun value world => SafeUse start (.returned value) world) ?_
    fun value => ?_
  · refine (safe start).imp ?_
    intro outcome world safeUse
    cases outcome with
    | returned value => exact safeUse
    | failed error => exact ⟨fun failed => ⟨⟨error, rfl⟩, (safeUse.crashed failed).2⟩,
        fun _ _ returned => by cases returned⟩
    | dropped =>
        constructor
        · intro failed
          obtain ⟨_, isFailed⟩ := (safeUse.crashed failed).1
          cases isFailed
        · intro _ _ returned
          cases returned
  · apply Meets.of_state
    intro middle safeUse
    refine (leaves value middle).mono (fun _ atMiddle => atMiddle) ?_
    intro outcome world keeps
    rcases keeps.sends with ⟨later, sends⟩
    constructor
    · intro failed
      obtain ⟨_, isFailed⟩ := (safeUse.crashed failed).1
      cases isFailed
    · intro sound _ _
      obtain ⟨empty, events, sent, executed, sentSoFar⟩ := safeUse.cleared sound value rfl
      exact ⟨keeps.samePending.trans empty, events, sent ++ later, executed,
        by rw [sends, sentSoFar, List.append_assoc]⟩

end UsesSafely

theorem begin_usesSafely (statement : Option SqlStr) :
    UsesSafely (TursoTransactionManager.begin engine statement) := by
  refine .clearFirst fun _ => Preserves.bind (.read _) fun depth => ?_
  split
  · exact .fail _
  · exact .bind (LeavesQueue.of_onlySends (call_onlySends _)) fun _ =>
      changeTransaction_leavesQueue fun _ => rfl

theorem finish_usesSafely (sql : Nat → TransactionSql) :
    UsesSafely (TursoTransactionManager.finish engine sql) := by
  refine .clearFirst fun _ => Preserves.bind (.read _) fun depth => ?_
  split
  · exact .pure _
  · exact .bind (LeavesQueue.of_onlySends (call_onlySends _)) fun _ =>
      changeTransaction_leavesQueue TransactionState.decrementDepth_pending

theorem fetchManySql_usesSafely (sql : String) (persistent : Bool)
    (arguments : Option TursoArguments) :
    UsesSafely (fetchManySql engine sql persistent arguments) :=
  .clearFirst fun _ => .of_onlySends (fetchCleared_onlySends _ _ _)

theorem fetchMany_usesSafely (query : Query) : UsesSafely (fetchMany engine query) := by
  unfold fetchMany
  split
  · exact .fail _
  · exact fetchManySql_usesSafely _ _ _

/-- The operations on a connection that is handed on. -/
inductive Operation where
  | begin (statement : Option SqlStr)
  | commit
  | rollback
  | fetchMany (query : Query)
  | fetchOptional (query : Query)
  | prepareWith (sql : String)
  | describe (sql : String)
  | ping

namespace Operation

/-- Run an operation and forget what it returns. -/
def run (engine : Engine σ) : Operation → Program σ Unit
  | begin statement => TursoTransactionManager.begin engine statement
  | commit => TursoTransactionManager.commit engine
  | rollback => TursoTransactionManager.rollback engine
  | fetchMany query => do let _ ← SqlxTurso.fetchMany engine query
  | fetchOptional query => do let _ ← SqlxTurso.fetchOptional engine query
  | prepareWith sql => do let _ ← SqlxTurso.prepareWith engine sql
  | describe sql => do let _ ← SqlxTurso.describe engine sql
  | ping => SqlxTurso.ping

/-- The operations that do not look at the queue. -/
def skipsQueue : Operation → Bool
  | prepareWith _ => true
  | describe _ => true
  | ping => true
  | _ => false

theorem usesSafely_of_not_skipsQueue (operation : Operation)
    (looks : operation.skipsQueue = false) : UsesSafely (operation.run engine) := by
  cases operation with
  | begin statement => exact begin_usesSafely statement
  | commit => exact finish_usesSafely _
  | rollback => exact finish_usesSafely _
  | fetchMany query =>
      exact .bind (fetchMany_usesSafely query) fun _ => .of_onlySends (.pure _)
  | fetchOptional query =>
      exact .bind (.bind (fetchMany_usesSafely query) fun _ =>
        .of_onlySends (liftExcept_onlySends _)) fun _ => .of_onlySends (.pure _)
  | prepareWith => cases looks
  | describe => cases looks
  | ping => cases looks

theorem onlySends_of_skipsQueue (engine : Engine σ) (operation : Operation)
    (skips : operation.skipsQueue = true) : Preserves OnlySends (operation.run engine) := by
  cases operation with
  | prepareWith sql => exact .bind (prepareSql_onlySends sql) fun _ => .pure _
  | describe sql =>
      exact .bind (.bind (prepareSql_onlySends sql) fun _ => .pure _) fun _ => .pure _
  | ping => exact .pure ()
  | _ => cases skips

end Operation

/-- An engine that accepts everything and does nothing. -/
def acceptingEngine : Engine σ where
  serve request state :=
    match request with
    | .execute _ => (.answered (.ok 0), state)
    | .executeBatch _ => (.answered (.ok ()), state)
    | .prepare sql => (.answered (.ok { sql }), state)
    | .query _ _ => (.answered (.ok { rows := [] }), state)
  columns _ _ := []

theorem prepareSql_acceptingEngine (sql : String) (world : World σ) :
    ∃ statement world',
      prepareSql acceptingEngine sql world = (.returned statement, world') := by
  unfold prepareSql
  simp only [bind_apply, read_apply, modify_apply]
  cases cached : (world.connection.cachedStatement sql).1 with
  | some statement => exact ⟨_, _, rfl⟩
  | none => exact ⟨_, _, rfl⟩

/-- An operation that does not look at the queue succeeds when the engine lets it. -/
theorem Operation.returns_of_skipsQueue (operation : Operation)
    (skips : operation.skipsQueue = true) (world : World σ) :
    ∃ world', operation.run acceptingEngine world = (.returned (), world') := by
  cases operation with
  | prepareWith sql =>
      obtain ⟨statement, world', returned⟩ := prepareSql_acceptingEngine sql world
      exact ⟨world', by simp [run, SqlxTurso.prepareWith, bind_apply, returned]⟩
  | describe sql =>
      obtain ⟨statement, world', returned⟩ := prepareSql_acceptingEngine sql world
      exact ⟨world', by simp [run, SqlxTurso.describe, bind_apply, returned]⟩
  | ping => exact ⟨world, rfl⟩
  | _ => cases skips

/-- Every use by an operation is safe, whatever the engine answers, if and only if the
operation looks at the queue or there is nothing to clean up. -/
theorem safeUse_iff (operation : Operation) (world : World σ) :
    (∀ engine : Engine σ,
        SafeUse world (operation.run engine world).1 (operation.run engine world).2) ↔
      operation.skipsQueue = false ∨ (world.failed = false ∧ world.pending = []) := by
  constructor
  · intro safe
    by_cases looks : operation.skipsQueue = false
    · exact .inl looks
    · have skips : operation.skipsQueue = true := Bool.not_eq_false _ |>.mp looks
      obtain ⟨world', returned⟩ := operation.returns_of_skipsQueue skips world
      have safeUse := safe acceptingEngine
      have keeps := (operation.onlySends_of_skipsQueue acceptingEngine skips world
        world rfl).keepsQueue
      rw [returned] at safeUse keeps
      have sound : world.failed = false := by
        by_contra failed
        obtain ⟨_, isFailed⟩ := (safeUse.crashed (Bool.not_eq_false _ |>.mp failed)).1
        cases isFailed
      exact .inr ⟨sound, keeps.samePending.symm.trans (safeUse.cleared sound () rfl).1⟩
  · intro condition engine
    by_cases looks : operation.skipsQueue = false
    · exact operation.usesSafely_of_not_skipsQueue looks world world rfl
    · have skips : operation.skipsQueue = true := Bool.not_eq_false _ |>.mp looks
      obtain ⟨sound, empty⟩ := condition.resolve_left looks
      have keeps := (operation.onlySends_of_skipsQueue engine skips world world rfl).keepsQueue
      rcases keeps.sends with ⟨later, sends⟩
      constructor
      · intro failed
        exact absurd (sound.symm.trans failed) Bool.false_ne_true
      · intro _ _ _
        refine ⟨keeps.samePending.trans empty, [], later, ?_, ?_⟩
        · rw [empty]
          exact .nil
        · rw [sends, List.append_nil]

/-- A fresh connection on which a transaction was begun and its handle dropped. -/
def withDroppedHandle : World Unit :=
  let fresh : World Unit :=
    { connection := { statements := { caches := .roomy, capacity := 100 } }, engine := () }
  let begun := (TursoTransactionManager.begin acceptingEngine none fresh).2
  (TursoTransactionManager.startRollback begun).2

/-- `ping` reports a connection as healthy whose dropped transaction is still open. -/
theorem ping_skips_a_queued_rollback :
    withDroppedHandle.pending = [1] ∧
      (Operation.ping.run acceptingEngine withDroppedHandle).1 = .returned () ∧
      (Operation.ping.run acceptingEngine withDroppedHandle).2.pending = [1] ∧
      ¬SafeUse withDroppedHandle (Operation.ping.run acceptingEngine withDroppedHandle).1
        (Operation.ping.run acceptingEngine withDroppedHandle).2 := by
  refine ⟨rfl, rfl, rfl, ?_⟩
  intro safeUse
  have empty := (safeUse.cleared rfl () rfl).1
  exact absurd empty (by decide)

/-! ## Texts of several statements -/

/-- A text was sent at most as a batch, after rollbacks from the queue; and what was
returned is the outcome of that batch. -/
structure OnlyBatched (sql : String) (arguments : Option TursoArguments) (start : World σ)
    (outcome : Outcome SqlxError FetchStream) (world : World σ) : Prop where
  requests : ∃ later, world.sent = start.sent ++ later ∧ ∀ event ∈ later,
    (∃ depth ∈ start.pending, event.request = rollbackRequest depth) ∨
      (arguments = none ∧ event.request = .executeBatch sql)
  executed : ∀ stream, outcome = .returned stream →
    arguments = none ∧ world.sent.getLast? = some ⟨.executeBatch sql, .done⟩

theorem OnlyBatched.of_uncleared {sql : String} {arguments : Option TursoArguments}
    {start world : World σ} {outcome : Outcome SqlxError FetchStream}
    (uncleared : Uncleared start world) (ended : ∀ stream, outcome ≠ .returned stream) :
    OnlyBatched sql arguments start outcome world := by
  rcases uncleared.onlyRollbacks with ⟨events, sent, rollbacks⟩
  exact ⟨⟨events, sent, fun event inEvents => .inl (rollbacks event inEvents)⟩,
    fun stream returned => absurd returned (ended stream)⟩

/-- What `fetch_many_sql` does with a text that it takes for several statements. -/
theorem fetchManySql_batches {sql : String}
    (several : (inspectSql sql).mayContainMultipleStatements = true) (persistent : Bool)
    (arguments : Option TursoArguments) (start : World σ) :
    Meets (· = start) (fetchManySql engine sql persistent arguments)
      (OnlyBatched sql arguments start) := by
  refine Meets.bind (fun _ world => Cleared start world) ?_ fun _ => ?_
  · refine (clearPendingRollback_spec start).imp ?_
    intro outcome world ended
    cases outcome with
    | returned _ => exact ended
    | failed _ => exact .of_uncleared ended fun _ => nofun
    | dropped => exact .of_uncleared ended.1 fun _ => nofun
  · dsimp only
    rw [if_pos several]
    cases arguments with
    | some arguments =>
        apply Meets.fail
        intro world cleared
        rcases cleared.executed with ⟨events, executed, sent⟩
        exact ⟨⟨events, sent, fun event inEvents =>
          .inl (request_of_executed executed event inEvents)⟩, fun _ => nofun⟩
    | none =>
        have batched : ∀ world : World σ, Cleared start world → ∀ status state outcome,
            (∀ stream, outcome = .returned stream → status = .done) →
            OnlyBatched sql none start outcome
              (world.send (.executeBatch sql) status state) := by
          intro world cleared status state outcome isDone
          rcases cleared.executed with ⟨events, executed, sent⟩
          refine ⟨⟨events ++ [⟨.executeBatch sql, status⟩], ?_, ?_⟩, ?_⟩
          · rw [World.send_sent, sent, List.append_assoc]
          · intro event inEvents
            rw [List.mem_append, List.mem_singleton] at inEvents
            cases inEvents with
            | inl inQueue => exact .inl (request_of_executed executed event inQueue)
            | inr isBatch => exact .inr ⟨rfl, isBatch ▸ rfl⟩
          · intro stream returned
            rw [World.send_sent, List.getLast?_append, isDone stream returned]
            exact ⟨rfl, rfl⟩
        refine Meets.bind (fun _ world => ∀ stream,
          OnlyBatched sql none start (.returned stream) world) ?_ fun items => ?_
        · refine Meets.bind (fun _ world => ∀ stream,
            OnlyBatched sql none start (.returned stream) world) ?_ fun _ => ?_
          · apply call_meets
            · intro world _ state cleared _ stream
              exact batched world cleared .done state _ fun _ _ => rfl
            · intro world error state cleared _
              exact batched world cleared (.refused error) state _ fun _ => nofun
            · intro world state cleared _
              exact batched world cleared .dropped state _ fun _ => nofun
          · exact Meets.pure fun _ holds => holds
        · exact Meets.pure fun _ holds => holds _

/-- A text of several statements is reported as such, and never sent as one statement. -/
theorem several_statements_are_batched (sql : String)
    (several : 2 ≤ (filledPieces sql).length) :
    (inspectSql sql).mayContainMultipleStatements = true ∧
      ∀ (σ : Type) (engine : Engine σ) (start : World σ) (persistent : Bool)
        (arguments : Option TursoArguments),
        OnlyBatched sql arguments start
          (fetchManySql engine sql persistent arguments start).1
          (fetchManySql engine sql persistent arguments start).2 := by
  have reported := multiple_of_two_filled sql several
  exact ⟨reported, fun _ _ start persistent arguments =>
    fetchManySql_batches reported persistent arguments start start rfl⟩

theorem two_statements_are_batched :
    2 ≤ (filledPieces "SELECT 1; SELECT 2").length ∧
      (inspectSql "SELECT 1; SELECT 2").mayContainMultipleStatements = true := by
  have several : 2 ≤ (filledPieces "SELECT 1; SELECT 2").length := by decide
  exact ⟨several, (several_statements_are_batched _ several).1⟩

end SqlxTurso
