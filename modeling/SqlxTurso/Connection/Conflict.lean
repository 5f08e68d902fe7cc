import SqlxTurso.Connection.Queue
import SqlxTurso.Library.Collect

/-!
# Transactions that the engine has ended

On a conflict the engine may end the outermost transaction by itself.  The adapter counts
that level until its handle is dropped, and then queues a rollback which the engine can
only refuse.  This refusal alone is forgiven: any other one, and the same one above the
first level, marks the connection.
-/

namespace SqlxTurso

open Library Async

variable {σ α : Type} {engine : Engine σ}

/-! ## Forgiven refusals -/

theorem clearPendingRollback_of_sound {world : World σ} (sound : world.failed = false) :
    clearPendingRollback engine world = clearQueue engine world.pending world := by
  simp only [clearPendingRollback, bind_apply, read_apply]
  rw [if_neg (Bool.eq_false_iff.mp sound)]

/-- Where nothing is queued and no rollback has failed, there is nothing to clear. -/
theorem clearPendingRollback_of_empty {world : World σ} (sound : world.failed = false)
    (empty : world.pending = []) :
    clearPendingRollback engine world = (.returned (), world) := by
  rw [clearPendingRollback_of_sound sound, empty]
  rfl

/-- The engine has ended the first level: it refuses `ROLLBACK` because no transaction is
active, and goes on to do so. -/
structure EndedLevel (engine : Engine σ) (ended : σ → Prop) : Prop where
  refuses : ∀ state, ended state → ∃ error after,
    engine.serve (rollbackRequest 1) state = (.answered (.error error), after) ∧
      rollbackErrorIsInactiveTransaction error = true ∧ ended after

/-- The queued rollback of an ended level is sent and forgiven. -/
theorem clearPendingRollback_of_ended {world : World σ} (sound : world.failed = false)
    (isQueue : world.pending = [1]) {error : Turso.Error} {state : σ}
    (served : engine.serve (rollbackRequest 1) world.engine = (.answered (.error error), state))
    (inactive : rollbackErrorIsInactiveTransaction error = true) :
    clearPendingRollback engine world =
      (.returned (), world.afterRollback 1 (.refused error) state) := by
  have ended : isEndedLevel 1 error = true := by
    rw [isEndedLevel, inactive]
    rfl
  rw [clearPendingRollback_of_sound sound, isQueue]
  simp only [clearQueue, changeTransaction, bind_apply, modify_apply, attempt,
    World.onTransaction_engine, served, if_pos ended]
  rfl

namespace ClearsFirst

variable {program : Program σ α} (clears : ClearsFirst engine program) {world : World σ}
  (sound : world.failed = false)

include clears sound

/-- A program that finds nothing to clear marks nothing. -/
theorem sound_of_empty (empty : world.pending = []) : (program world).2.failed = false := by
  obtain ⟨next, rfl, moves⟩ := clears
  rw [bind_apply, clearPendingRollback_of_empty sound empty]
  exact (moves () world world rfl).sameFailed.trans sound

/-- A program goes on from a forgiven rollback as if nothing had been queued. -/
theorem of_ended (isQueue : world.pending = [1]) {error : Turso.Error} {state : σ}
    (served : engine.serve (rollbackRequest 1) world.engine = (.answered (.error error), state))
    (inactive : rollbackErrorIsInactiveTransaction error = true) :
    program world = program (world.afterRollback 1 (.refused error) state) := by
  obtain ⟨next, rfl, moves⟩ := clears
  have stillSound : (world.afterRollback 1 (.refused error) state).failed = false := sound
  have empty : (world.afterRollback 1 (.refused error) state).pending = [] := by
    rw [World.afterRollback_pending, isQueue]
    rfl
  rw [bind_apply, bind_apply, clearPendingRollback_of_ended sound isQueue served inactive,
    clearPendingRollback_of_empty stillSound empty]

end ClearsFirst

/-! ## Refusals that are not forgiven -/

/-- A rollback of the queue that is refused, and not because the first level has ended,
marks the connection and empties the queue, and its error is reported. -/
def MarksRefusals (start : World σ) (outcome : Outcome SqlxError α) (world : World σ) : Prop :=
  ∀ index depth error, start.failed = false → start.pending[index]? = some depth →
    world.sent[start.sent.length + index]? = some ⟨rollbackRequest depth, .refused error⟩ →
    (depth ≠ 1 ∨ rollbackErrorIsInactiveTransaction error = false) →
    outcome = .failed (mapTursoError error) ∧ world.failed = true ∧ world.pending = []

theorem isEndedLevel_eq_false {depth : Nat} {error : Turso.Error} :
    isEndedLevel depth error = false ↔
      depth ≠ 1 ∨ rollbackErrorIsInactiveTransaction error = false := by
  rw [isEndedLevel, Bool.and_eq_false_iff, decide_eq_false_iff_not]

/-- A rollback that counts as executed is refused only for an ended level. -/
theorem ExecutedRollback.isEndedLevel {depth : Nat} {error : Turso.Error}
    (executed : ExecutedRollback depth ⟨rollbackRequest depth, .refused error⟩) :
    isEndedLevel depth error = true := by
  rcases executed.2 with isDone | ⟨_, isRefused, ended⟩
  · cases isDone
  · cases isRefused
    exact ended

/-- The event of a level that was sent for is related to it. -/
theorem related_event {relation : Nat → Event → Prop} {levels queue : List Nat}
    {events later : List Event} (related : List.Forall₂ relation levels events)
    {index depth : Nat} {event : Event} (inside : index < levels.length)
    (isLevel : (levels ++ queue)[index]? = some depth)
    (isEvent : (events ++ later)[index]? = some event) : relation depth event := by
  rw [List.getElem?_append_left inside] at isLevel
  rw [List.getElem?_append_left (related.length_eq ▸ inside)] at isEvent
  exact forall₂_getElem? related isLevel isEvent

theorem event_of_sent {start world : World σ} {events : List Event}
    (sent : world.sent = start.sent ++ events) (index : Nat) :
    world.sent[start.sent.length + index]? = events[index]? := by
  rw [sent, List.getElem?_append_right (Nat.le_add_right _ _), Nat.add_sub_cancel_left]

/-- Among the rollbacks that were sent only the last one may be refused without being
forgiven. -/
theorem refused_is_last {start world : World σ} {levels queue : List Nat} {depth : Nat}
    {events : List Event} {last : Event} (split : start.pending = levels ++ depth :: queue)
    (executed : List.Forall₂ ExecutedRollback levels events)
    (sent : world.sent = start.sent ++ (events ++ [last])) {index level : Nat}
    {error : Turso.Error} (isLevel : start.pending[index]? = some level)
    (isEvent : world.sent[start.sent.length + index]? =
      some ⟨rollbackRequest level, .refused error⟩)
    (notEnded : isEndedLevel level error = false) :
    last.status = .refused error := by
  have related : List.Forall₂ (fun depth event => ExecutedRollback depth event ∨ event = last)
      (levels ++ [depth]) (events ++ [last]) :=
    List.rel_append (executed.imp fun _ _ => .inl) (.cons (.inr rfl) .nil)
  rw [event_of_sent sent] at isEvent
  rw [split, List.append_cons] at isLevel
  have inside : index < (levels ++ [depth]).length := by
    rw [related.length_eq]
    exact (List.getElem?_eq_some_iff.mp isEvent).1
  have isEvent' : ((events ++ [last]) ++ [])[index]? = _ :=
    (congrArg (·[index]?) (List.append_nil _)).trans isEvent
  rcases related_event related inside isLevel isEvent' with isExecuted | isLast
  · exact absurd (notEnded.symm.trans isExecuted.isEndedLevel) Bool.false_ne_true
  · exact congrArg Event.status isLast.symm

theorem ClearsFirst.marksRefusals {program : Program σ α} (clears : ClearsFirst engine program)
    (start : World σ) : Meets (· = start) program (MarksRefusals start) := by
  obtain ⟨next, rfl, moves⟩ := clears
  refine Meets.bind (fun _ world => Cleared start world) ?_ fun value => ?_
  · refine (clearPendingRollback_drains start).imp ?_
    intro outcome world ended
    cases outcome with
    | returned value => exact ended
    | failed error =>
        intro index depth refusal sound isLevel isEvent notForgiven
        have notEnded := isEndedLevel_eq_false.mpr notForgiven
        cases ended with
        | crashed failed => exact absurd (sound.symm.trans failed) Bool.false_ne_true
        | refused split executed _ sent failed empty =>
            cases refused_is_last split executed sent isLevel isEvent notEnded
            exact ⟨rfl, failed, empty⟩
    | dropped =>
        intro index depth refusal sound isLevel isEvent notForgiven
        have notEnded := isEndedLevel_eq_false.mpr notForgiven
        cases ended with
        | dropped split executed sent =>
            cases refused_is_last split executed sent isLevel isEvent notEnded
  · apply Meets.of_state
    intro middle cleared
    refine (moves value middle).mono (fun _ atMiddle => atMiddle) ?_
    intro outcome world onward index depth refusal sound isLevel isEvent notForgiven
    obtain ⟨events, executed, sent⟩ := cleared.executed
    obtain ⟨later, sends⟩ := onward.keeps.sends
    rw [sent, List.append_assoc] at sends
    rw [event_of_sent sends] at isEvent
    have inside := (List.getElem?_eq_some_iff.mp isLevel).1
    have isLevel' : (start.pending ++ [])[index]? = _ :=
      (congrArg (·[index]?) (List.append_nil _)).trans isLevel
    have isExecuted := related_event executed inside isLevel' isEvent
    have notEnded := isEndedLevel_eq_false.mpr notForgiven
    exact absurd (notEnded.symm.trans isExecuted.isEndedLevel) Bool.false_ne_true

/-- A program that sends nothing has nothing to mark. -/
theorem marksRefusals_fail (error : SqlxError) (start : World σ) :
    Meets (· = start) (Async.fail error : Program σ α) (MarksRefusals start) := by
  apply Meets.fail
  rintro _ rfl index depth refusal _ _ isEvent
  rw [List.getElem?_eq_none (Nat.le_add_right _ _)] at isEvent
  cases isEvent

/-! ## Finishing the handle of an ended transaction -/

/-- A commit or a rollback that fails with nothing queued changes no counter. -/
theorem finish_failed {sql : Nat → TransactionSql} {world after : World σ} {error : SqlxError}
    (sound : world.failed = false) (empty : world.pending = [])
    (failed : TursoTransactionManager.finish engine sql world = (.failed error, after)) :
    after.transactionState = world.transactionState := by
  have meets : Meets (· = world) (TursoTransactionManager.finish engine sql)
      fun outcome after => ∀ error, outcome = .failed error →
        after.transactionState = world.transactionState := by
    refine Meets.bind (fun _ middle => middle = world) ?_ fun _ => Meets.read fun depth => ?_
    · rintro _ rfl
      rw [clearPendingRollback_of_empty sound empty]
      exact rfl
    · split
      · exact Meets.pure fun _ _ _ => nofun
      · refine Meets.bind (fun _ _ => True) ?_ fun _ => Meets.modify fun _ _ _ => nofun
        refine (call_onlySends _ world).mono (fun _ atMiddle => atMiddle.1) ?_
        intro outcome after onlySends
        cases outcome with
        | returned value => trivial
        | failed error => exact fun _ _ => onlySends.sameState
        | dropped => exact fun _ => nofun
  have kept := meets world rfl error
  rw [failed] at kept
  exact kept rfl

/-- The ways to finish the handle of a transaction that the engine has ended: a commit or a
rollback that fails and the drop after it, or the drop alone. -/
inductive Finishes (engine : Engine σ) (ended : σ → Prop) (world : World σ) :
    World σ → Prop where
  | dropped : ended world.engine →
      Finishes engine ended world (TursoTransactionManager.startRollback world).2
  | commit {error : SqlxError} {after : World σ} :
      TursoTransactionManager.commit engine world = (.failed error, after) →
      ended after.engine →
      Finishes engine ended world (TursoTransactionManager.startRollback after).2
  | rollback {error : SqlxError} {after : World σ} :
      TursoTransactionManager.rollback engine world = (.failed error, after) →
      ended after.engine →
      Finishes engine ended world (TursoTransactionManager.startRollback after).2

/-- However the handle is finished, the rollback of the first level alone is queued. -/
theorem Finishes.queued {ended : σ → Prop} {world finished : World σ}
    (finishes : Finishes engine ended world finished) (isDepth : world.depth = 1)
    (empty : world.pending = []) (sound : world.failed = false) :
    finished.transactionState = { depth := 0, pendingRollbackDepths := [1] } ∧
      ended finished.engine := by
  have isOpen : world.transactionState = { depth := 1 } := by
    cases isState : world.transactionState with
    | mk depth pending failed =>
        rw [World.depth, isState] at isDepth
        rw [World.pending, isState] at empty
        rw [World.failed, isState] at sound
        cases isDepth
        cases empty
        cases sound
        rfl
  have marked : ∀ after : World σ, after.transactionState = world.transactionState →
      ended after.engine →
      (TursoTransactionManager.startRollback after).2.transactionState =
          { depth := 0, pendingRollbackDepths := [1] } ∧
        ended (TursoTransactionManager.startRollback after).2.engine := by
    intro after same hasEnded
    refine ⟨?_, hasEnded⟩
    change after.transactionState.markRollbackNeeded = _
    rw [same, isOpen]
    rfl
  cases finishes with
  | dropped hasEnded => exact marked world rfl hasEnded
  | commit failed hasEnded => exact marked _ (finish_failed sound empty failed) hasEnded
  | rollback failed hasEnded => exact marked _ (finish_failed sound empty failed) hasEnded

/-- A begin that the engine accepts succeeds where there is nothing to clean up. -/
theorem begin_of_clean {world : World σ} (clean : world.transactionState = {})
    {statement : Option SqlStr} {changes : Nat} {state : σ}
    (accepted : engine.serve (.execute (statement.getD (.transaction .begin))) world.engine =
      (.answered (.ok changes), state)) :
    (TursoTransactionManager.begin engine statement world).1 = .returned () := by
  have closed : world.depth = 0 := congrArg TransactionState.depth clean
  have isCleared : clearPendingRollback engine world = (.returned (), world) :=
    clearPendingRollback_of_empty (congrArg TransactionState.rollbackFailed clean)
      (congrArg TransactionState.pendingRollbackDepths clean)
  have isBegin : beginAnsiTransactionSql world.depth = .begin := by
    rw [closed]
    rfl
  rw [begin_of_answered isCleared (fun nested => ?_) (by rw [isBegin]; exact accepted)]
  exact Nat.lt_irrefl 0 (closed ▸ nested.2)

/-- A connection goes on from the forgiven rollback of its first level as one with nothing
to clean up, and a begin that the engine accepts succeeds. -/
structure GoesOn (engine : Engine σ) (finished cleaned : World σ) : Prop where
  clean : cleaned.transactionState = {}
  begins : ∀ statement, TursoTransactionManager.begin engine statement finished =
    TursoTransactionManager.begin engine statement cleaned
  fetches : ∀ query, (fetchMany engine query finished).1 = (fetchMany engine query cleaned).1
  beginSound : ∀ statement,
    (TursoTransactionManager.begin engine statement finished).2.failed = false
  fetchSound : ∀ query, (fetchMany engine query finished).2.failed = false
  accepted : ∀ statement changes state,
    engine.serve (.execute (statement.getD (.transaction .begin))) cleaned.engine =
      (.answered (.ok changes), state) →
    (TursoTransactionManager.begin engine statement finished).1 = .returned ()

theorem goesOn_of_queued {finished : World σ}
    (queued : finished.transactionState = { depth := 0, pendingRollbackDepths := [1] })
    {error : Turso.Error} {state : σ}
    (served : engine.serve (rollbackRequest 1) finished.engine =
      (.answered (.error error), state))
    (inactive : rollbackErrorIsInactiveTransaction error = true) :
    GoesOn engine finished (finished.afterRollback 1 (.refused error) state) := by
  have sound : finished.failed = false := congrArg TransactionState.rollbackFailed queued
  have isQueue : finished.pending = [1] :=
    congrArg TransactionState.pendingRollbackDepths queued
  have clean : (finished.afterRollback 1 (.refused error) state).transactionState = {} := by
    change finished.transactionState.popPendingRollback.2 = _
    rw [queued]
    rfl
  have cleanSound : (finished.afterRollback 1 (.refused error) state).failed = false := sound
  have empty := congrArg TransactionState.pendingRollbackDepths clean
  have begins := fun statement =>
    (begin_clearsFirst statement).of_ended sound isQueue served inactive
  refine ⟨clean, begins, ?_, ?_, ?_, ?_⟩
  · intro query
    rcases fetchMany_cases engine query with ⟨error, fails⟩ | clears
    · rw [fails]
      rfl
    · rw [clears.of_ended sound isQueue served inactive]
  · intro statement
    rw [begins statement]
    exact (begin_clearsFirst statement).sound_of_empty cleanSound empty
  · intro query
    rcases fetchMany_cases engine query with ⟨error, fails⟩ | clears
    · rw [fails]
      exact sound
    · rw [clears.of_ended sound isQueue served inactive]
      exact clears.sound_of_empty cleanSound empty
  · intro statement changes after accepted
    rw [begins statement]
    exact begin_of_clean clean accepted

/-- A top-level transaction that the engine has ended does not cost the connection: however
its handle is finished, the next begin and the next fetch go on as if nothing had been
queued.  Every other refusal of a queued rollback marks the connection. -/
theorem ended_transaction_is_forgiven {ended : σ → Prop} (endedLevel : EndedLevel engine ended)
    {world finished : World σ} (isDepth : world.depth = 1) (empty : world.pending = [])
    (sound : world.failed = false) (finishes : Finishes engine ended world finished) :
    (finished.depth = 0 ∧ finished.failed = false ∧
        ∃ error state, engine.serve (rollbackRequest 1) finished.engine =
            (.answered (.error error), state) ∧
          GoesOn engine finished (finished.afterRollback 1 (.refused error) state)) ∧
      ∀ start : World σ,
        (∀ statement, Meets (· = start) (TursoTransactionManager.begin engine statement)
          (MarksRefusals start)) ∧
        Meets (· = start) (TursoTransactionManager.commit engine) (MarksRefusals start) ∧
        Meets (· = start) (TursoTransactionManager.rollback engine) (MarksRefusals start) ∧
        ∀ query, Meets (· = start) (fetchMany engine query) (MarksRefusals start) := by
  constructor
  · obtain ⟨queued, hasEnded⟩ := finishes.queued isDepth empty sound
    obtain ⟨error, state, served, inactive, -⟩ := endedLevel.refuses _ hasEnded
    refine ⟨congrArg TransactionState.depth queued,
      congrArg TransactionState.rollbackFailed queued, error, state, served, ?_⟩
    exact goesOn_of_queued queued served inactive
  · intro start
    refine ⟨fun statement => (begin_clearsFirst statement).marksRefusals start,
      (finish_clearsFirst _).marksRefusals start, (finish_clearsFirst _).marksRefusals start, ?_⟩
    intro query
    rcases fetchMany_cases engine query with ⟨error, fails⟩ | clears
    · rw [fails]
      exact marksRefusals_fail error start
    · exact clears.marksRefusals start

/-- The error of `ROLLBACK` where no transaction is open. -/
def inactiveTransaction : Turso.Error where
  variant := .error
  text := "cannot rollback - no transaction is active"

/-- An engine that refuses every commit and ends the transaction then.  Its state tells
whether a transaction is open. -/
def conflictEngine : Engine Bool where
  serve request state :=
    match request with
    | .execute (.transaction .begin) => (.answered (.ok 0), true)
    | .execute (.transaction .commit) =>
        (.answered (.error { variant := .error, text := "write-write conflict" }), false)
    | .execute (.transaction .rollback) =>
        if state then (.answered (.ok 0), false)
        else (.answered (.error inactiveTransaction), false)
    | .execute _ => (.answered (.ok 0), state)
    | .executeBatch _ => (.answered (.ok ()), state)
    | .prepare sql => (.answered (.ok { sql }), state)
    | .query _ _ => (.answered (.ok { rows := [] }), state)
  columns _ _ := []

/-- A connection on which a transaction was begun. -/
def begunOnConflict : World Bool :=
  (TursoTransactionManager.begin conflictEngine none
    { connection := { statements := { caches := .roomy, capacity := 1 } }, engine := false }).2

/-- A commit that meets a conflict leaves a connection on which the next begin succeeds. -/
theorem refused_commit_is_forgiven :
    ∃ error after, TursoTransactionManager.commit conflictEngine begunOnConflict =
        (.failed error, after) ∧
      (TursoTransactionManager.startRollback after).2.depth = 0 ∧
      (TursoTransactionManager.begin conflictEngine none
        (TursoTransactionManager.startRollback after).2).1 = .returned () := by
  have endedLevel : EndedLevel conflictEngine (· = false) := by
    constructor
    rintro _ rfl
    exact ⟨inactiveTransaction, false, rfl, by decide, rfl⟩
  have finishes : Finishes conflictEngine (· = false) begunOnConflict _ := .commit rfl rfl
  obtain ⟨⟨isClosed, -, error, state, served, goesOn⟩, -⟩ :=
    ended_transaction_is_forgiven endedLevel rfl rfl rfl finishes
  refine ⟨_, _, rfl, isClosed, goesOn.accepted none 0 true rfl⟩

end SqlxTurso
