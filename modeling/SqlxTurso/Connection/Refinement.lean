import SqlxTurso.Connection.Executor
import SqlxTurso.Engine.Sqlite
import SqlxTurso.Sql.Statements

/-!
# Nested transactions are snapshots

On an engine that follows SQLite's rules, and whatever statements it refuses, the
transactions of a connection behave as a stack of snapshots.  Dropping a handle only
queues its rollback, so between two operations the engine may hold levels that the
client has left already; they are the ones above the saved snapshots.
-/

namespace SqlxTurso

open Library Async Sql

variable {D : Type} {meaning : Meaning D}

/-! ## Transaction statements on levels -/

section Levels

variable {allowed : Bool → List (Frame D) → Prop} {database : Database D} {levels : List D}
  {snapshot : D}

theorem begin_on (plain : allowed true []) (has : LevelsOn allowed database levels) :
    ∃ begun, (beginAnsiTransactionSql levels.length).perform database = .ok begun ∧
      begun.content = database.content ∧
      LevelsOn allowed begun (database.content :: levels) := by
  cases levels with
  | nil =>
      rcases has.begin plain with ⟨begun, performed, facts⟩
      refine ⟨begun, ?_, facts⟩
      simp [beginAnsiTransactionSql, TransactionSql.perform, performed]
  | cons snapshot levels =>
      exact ⟨_, rfl, has.savepoint⟩

theorem commit_on (grounded : ∀ explicit bottom, allowed explicit bottom →
    Grounded explicit bottom) (has : LevelsOn allowed database (snapshot :: levels)) :
    ∃ committed,
      (commitAnsiTransactionSql (levels.length + 1)).perform database = .ok committed ∧
      committed.content = database.content ∧ LevelsOn allowed committed levels := by
  cases levels with
  | nil =>
      rcases has.commit with ⟨committed, performed, facts⟩
      refine ⟨committed, ?_, facts⟩
      simp [commitAnsiTransactionSql, TransactionSql.perform, performed]
  | cons next levels =>
      rcases has.release grounded with ⟨released, performed, facts⟩
      refine ⟨released, ?_, facts⟩
      simp [commitAnsiTransactionSql, TransactionSql.perform, performed]

theorem rollback_on (has : LevelsOn allowed database (snapshot :: levels)) :
    ∃ restored,
      (rollbackAnsiTransactionSql (levels.length + 1)).perform database = .ok restored ∧
      restored.content = snapshot ∧ LevelsOn allowed restored levels := by
  cases levels with
  | nil =>
      rcases has.rollback with ⟨restored, performed, facts⟩
      refine ⟨restored, ?_, facts⟩
      simp [rollbackAnsiTransactionSql, TransactionSql.perform, performed]
  | cons next levels =>
      rcases has.rollbackTo with ⟨restored, performed, facts⟩
      refine ⟨restored, ?_, facts⟩
      simp [rollbackAnsiTransactionSql, TransactionSql.perform, performed]

theorem begin_level (has : HasLevels database levels) :
    ∃ begun, (beginAnsiTransactionSql levels.length).perform database = .ok begun ∧
      begun.content = database.content ∧ HasLevels begun (database.content :: levels) := by
  simp only [hasLevels_iff] at has ⊢
  exact begin_on ⟨rfl, rfl⟩ has

theorem commit_level (has : HasLevels database (snapshot :: levels)) :
    ∃ committed,
      (commitAnsiTransactionSql (levels.length + 1)).perform database = .ok committed ∧
      committed.content = database.content ∧ HasLevels committed levels := by
  simp only [hasLevels_iff] at has ⊢
  exact commit_on (fun _ _ => Plain.grounded) has

theorem rollback_level (has : HasLevels database (snapshot :: levels)) :
    ∃ restored,
      (rollbackAnsiTransactionSql (levels.length + 1)).perform database = .ok restored ∧
      restored.content = snapshot ∧ HasLevels restored levels := by
  simp only [hasLevels_iff] at has ⊢
  exact rollback_on has

end Levels

/-- The answer to a transaction statement that the database can perform: it is
performed, or refused without a change. -/
theorem serve_transaction {sql : TransactionSql} {state state' : Sqlite D}
    {reply : Reply Nat} {database : Database D} (never : NeverDrops state)
    (performed : sql.perform state.database = .ok database)
    (served : (sqlite meaning).serve (.execute (.transaction sql)) state = (reply, state')) :
    NeverDrops state' ∧
      ((reply = .answered (.ok 0) ∧ state'.database = database) ∨
        ∃ error, reply = .answered (.error error) ∧ state'.database = state.database ∧
          (rollbackErrorIsInactiveTransaction error = true →
            state.database.transaction = none)) := by
  change underVerdict (performExecute (meaning.performSql (.transaction sql))) state =
    (reply, state') at served
  obtain ⟨never', refusal, permitted, isReply, changed⟩ := underVerdict_answers never served
  refine ⟨never', ?_⟩
  cases refusal with
  | none =>
      simp only [performExecute, Meaning.performSql, TransactionSql.outcome, performed]
        at isReply changed
      exact .inl ⟨isReply, changed⟩
  | some refusal =>
      exact .inr ⟨refusal.error, isReply, changed, permitted refusal rfl⟩

/-! ## Queued rollbacks -/

/-- What is told of a queue and a world is so that the first queued rollback can be
performed, and then it is told of the rest of the queue. -/
structure Performs (invariant : List Nat → World (Sqlite D) → Prop) : Prop where
  never : ∀ {queue world}, invariant queue world → NeverDrops world.engine
  first : ∀ {depth queue world}, invariant (depth :: queue) world →
    world.engine.database.transaction ≠ none ∧
      ∃ restored,
        (rollbackAnsiTransactionSql depth).perform world.engine.database = .ok restored ∧
        ∀ status state, NeverDrops state → state.database = restored →
          invariant queue (world.afterRollback depth status state)

namespace Performs

variable {invariant : List Nat → World (Sqlite D) → Prop} (performs : Performs invariant)
  {depth : Nat} {queue : List Nat} {world : World (Sqlite D)} {reply : Reply Nat}
  {state : Sqlite D}

include performs

/-- A queued rollback is performed, or refused with an error that is no reason to go
on. -/
theorem serve (holds : invariant (depth :: queue) world)
    (served : (sqlite meaning).serve (rollbackRequest depth) world.engine =
      (reply, state)) :
    (∀ status, invariant queue (world.afterRollback depth status state)) ∧
        reply = .answered (.ok 0) ∨
      NeverDrops state ∧ state.database = world.engine.database ∧
        ∃ error, reply = .answered (.error error) ∧ isEndedLevel depth error = false := by
  rcases performs.first holds with ⟨isOpen, restored, performed, next⟩
  rcases serve_transaction (performs.never holds) performed served with
    ⟨never, executed | refused⟩
  · rcases executed with ⟨isReply, isRestored⟩
    exact .inl ⟨fun status => next status state never isRestored, isReply⟩
  · rcases refused with ⟨error, isReply, unchanged, inactive⟩
    refine .inr ⟨never, unchanged, error, isReply, ?_⟩
    rw [isEndedLevel, Bool.and_eq_false_imp]
    intro _
    by_contra isInactive
    exact isOpen (inactive (Bool.not_eq_false _ ▸ isInactive))

/-- The loop over the queue performs all of it, or ends with a refused rollback. -/
theorem clears {after : Outcome SqlxError Unit → World (Sqlite D) → Prop}
    (finished : ∀ world, invariant [] world → after (.returned ()) world)
    (refused : ∀ depth queue world error state, invariant (depth :: queue) world →
      NeverDrops state → state.database = world.engine.database →
      after (.failed (mapTursoError error))
        ((world.afterRollback depth (.refused error) state).onTransaction
          TransactionState.markRollbackFailed))
    (queue : List Nat) :
    Meets (invariant queue) (clearQueue (sqlite meaning) queue) after := by
  apply clearQueue_meets invariant finished
  · intro depth queue world result state holds served ended
    rcases performs.serve holds served with ⟨executed, _⟩ | ⟨_, _, error, isReply, notEnded⟩
    · exact executed _
    · cases isReply
      exact absurd ((ended error rfl).symm.trans notEnded) (by decide)
  · intro depth queue world error state holds served _
    rcases performs.serve holds served with ⟨_, isReply⟩ | ⟨never, unchanged, _⟩
    · cases isReply
    · exact refused depth queue world error state holds never unchanged
  · intro depth queue world state holds served
    rcases performs.serve holds served with ⟨_, isReply⟩ | ⟨_, _, _, isReply, _⟩
    · cases isReply
    · cases isReply

/-- An engine that refuses nothing performs a queued rollback. -/
theorem accepts (holds : invariant (depth :: queue) world) (ended : world.engine.script = [])
    (served : (sqlite meaning).serve (rollbackRequest depth) world.engine =
      (reply, state)) :
    reply = .answered (.ok 0) ∧ state.script = [] := by
  rcases performs.first holds with ⟨_, restored, performed, _⟩
  change underVerdict (performExecute (meaning.performSql
    (.transaction (rollbackAnsiTransactionSql depth)))) world.engine = _ at served
  rw [underVerdict_nil ended] at served
  simp only [performExecute, Meaning.performSql, TransactionSql.outcome, performed] at served
  cases served
  exact ⟨rfl, rfl⟩

theorem returns (queue : List Nat) :
    Meets (fun world => invariant queue world ∧ world.engine.script = [])
      (clearQueue (sqlite meaning) queue) fun outcome world =>
        outcome = .returned () ∧ world.engine.script = [] := by
  refine clearQueue_meets
    (fun queue world => invariant queue world ∧ world.engine.script = []) ?_ ?_ ?_ ?_ queue
  · exact fun world ⟨_, ended⟩ => ⟨rfl, ended⟩
  · rintro depth queue world result state ⟨holds, ended⟩ served _
    obtain ⟨isReply, ended'⟩ := performs.accepts holds ended served
    rcases performs.serve holds served with ⟨executed, _⟩ | ⟨_, _, error, notReply, _⟩
    · exact ⟨executed _, ended'⟩
    · rw [isReply] at notReply
      cases notReply
  · rintro depth queue world error state ⟨holds, ended⟩ served _
    cases (performs.accepts holds ended served).1
  · rintro depth queue world state ⟨holds, ended⟩ served
    cases (performs.accepts holds ended served).1

/-- An engine that refuses nothing clears the queue of a connection that is sound. -/
theorem clearPendingRollback :
    Meets (fun world => world.failed = false ∧ invariant world.pending world ∧
        world.engine.script = [])
      (SqlxTurso.clearPendingRollback (sqlite meaning)) fun outcome world =>
        outcome = .returned () ∧ world.engine.script = [] := by
  apply clearPendingRollback_meets
  · rintro world ⟨sound, _⟩ failed
    exact absurd (sound.symm.trans failed) Bool.false_ne_true
  · intro queue
    refine Meets.weaken _ ?_ (performs.returns queue)
    rintro world ⟨⟨_, holds, ended⟩, _, rfl⟩
    exact ⟨holds, ended⟩

end Performs

/-! ## The relation to the snapshots -/

/-- The engine holds the levels that the snapshots tell, below the `dropped` ones whose
rollbacks are queued. -/
structure Linked (world : World (Sqlite D)) (model : Snapshots D) (dropped : List D) :
    Prop where
  sound : world.failed = false
  levels : HasLevels world.engine.database (dropped ++ model.saved)
  depth : world.depth = model.saved.length
  pending : world.pending = levelsAbove model.saved.length dropped.length
  current : model.current = dropped.getLast?.getD world.engine.database.content

/-- The world agrees with the snapshots, unless a rollback has failed; and what a
closed database would hold agrees in any case. -/
structure Refines (world : World (Sqlite D)) (model : Snapshots D) : Prop where
  cache : SoundCache world.connection.statements
  never : NeverDrops world.engine
  linked : world.failed = false → ∃ dropped, Linked world model dropped
  closes : world.engine.database.closed = model.bottom

theorem Linked.closes {world : World (Sqlite D)} {model : Snapshots D} {dropped : List D}
    (linked : Linked world model dropped) :
    world.engine.database.closed = model.bottom := by
  rw [linked.levels.closed, Snapshots.bottom, linked.current, List.getLast?_append]
  cases model.saved.getLast? with
  | none => rfl
  | some snapshot => rfl

/-- The world agrees with the snapshots, and nothing is left to clean up. -/
structure Agrees (world : World (Sqlite D)) (model : Snapshots D) : Prop where
  cache : SoundCache world.connection.statements
  never : NeverDrops world.engine
  linked : Linked world model []

theorem Agrees.refines {world : World (Sqlite D)} {model : Snapshots D}
    (agrees : Agrees world model) : Refines world model :=
  ⟨agrees.cache, agrees.never, fun _ => ⟨[], agrees.linked⟩, agrees.linked.closes⟩

theorem Agrees.current {world : World (Sqlite D)} {model : Snapshots D}
    (agrees : Agrees world model) : world.engine.database.content = model.current :=
  agrees.linked.current.symm

/-! ## Clearing the queue -/

/-- The loop over the queue of a world that refines the snapshots. -/
structure Clears (model : Snapshots D) (queue : List Nat) (world : World (Sqlite D)) :
    Prop where
  cache : SoundCache world.connection.statements
  never : NeverDrops world.engine
  linked : ∃ dropped, Linked world model dropped
  rest : world.pending = queue

/-- The first queued rollback can be performed, and what is left is cleared then. -/
theorem Clears.first {model : Snapshots D} {depth : Nat} {queue : List Nat}
    {world : World (Sqlite D)} (clears : Clears model (depth :: queue) world) :
    world.engine.database.transaction ≠ none ∧
      ∃ restored,
        (rollbackAnsiTransactionSql depth).perform world.engine.database = .ok restored ∧
        ∀ status state, NeverDrops state → state.database = restored →
          Clears model queue (world.afterRollback depth status state) := by
  rcases clears.linked with ⟨dropped, linked⟩
  have queued := linked.pending.symm.trans clears.rest
  cases dropped with
  | nil => cases queued
  | cons snapshot dropped =>
      simp only [List.length_cons, levelsAbove, List.cons.injEq] at queued
      rcases queued with ⟨isDepth, isQueue⟩
      have has : HasLevels world.engine.database
          (snapshot :: (dropped ++ model.saved)) := linked.levels
      rcases (hasLevels_iff.mp has).cons with ⟨transaction, _, _, isOpen, _⟩
      obtain ⟨restored, performed, content, levels⟩ := rollback_level has
      rw [List.length_append, Nat.add_comm dropped.length, isDepth] at performed
      refine ⟨by simp [isOpen], restored, performed, ?_⟩
      intro status state never isRestored
      refine ⟨clears.cache, never, ⟨dropped, linked.sound, ?_, linked.depth, ?_, ?_⟩, ?_⟩
      · rw [World.afterRollback_engine, isRestored]
        exact levels
      · rw [World.afterRollback_pending, clears.rest, List.tail_cons, isQueue]
      · rw [World.afterRollback_engine, isRestored, content, linked.current]
        cases dropped with
        | nil => rfl
        | cons next dropped =>
            rw [List.getLast?_cons_cons, List.getLast?_cons]
            rfl
      · rw [World.afterRollback_pending, clears.rest, List.tail_cons]

theorem Clears.performs (model : Snapshots D) : Performs (Clears model) where
  never clears := clears.never
  first := Clears.first

/-- Clearing the queue leaves a world that agrees with the snapshots; a refused rollback
marks the connection, and changes nothing else. -/
theorem clearPendingRollback_refines (meaning : Meaning D) (model : Snapshots D) :
    Meets (Refines · model) (clearPendingRollback (sqlite meaning)) fun outcome world =>
      match outcome with
      | .returned _ => Agrees world model
      | _ => Refines world model ∧ world.failed = true := by
  apply clearPendingRollback_meets
  · intro world refines failed
    exact ⟨refines, failed⟩
  · intro queue
    refine Meets.weaken (Clears model queue) ?_ ((Clears.performs model).clears ?_ ?_ queue)
    · intro world atWorld
      rcases atWorld with ⟨refines, sound, pending⟩
      exact ⟨refines.cache, refines.never, refines.linked sound, pending⟩
    · intro world clears
      rcases clears.linked with ⟨dropped, linked⟩
      have empty := linked.pending.symm.trans clears.rest
      cases dropped with
      | nil => exact ⟨clears.cache, clears.never, linked⟩
      | cons snapshot dropped => cases empty
    · intro depth queue world error state clears never unchanged
      rcases clears.linked with ⟨dropped, linked⟩
      refine ⟨⟨clears.cache, never, fun sound => ?_, ?_⟩, rfl⟩
      · cases sound
      · exact (congrArg Database.closed unchanged).trans linked.closes

/-- An engine that refuses nothing clears the queue. -/
theorem clearPendingRollback_returns (model : Snapshots D) :
    Meets (fun world : World (Sqlite D) =>
        Refines world model ∧ world.failed = false ∧ world.engine.script = [])
      (clearPendingRollback (sqlite meaning)) fun outcome world =>
        outcome = .returned () ∧ world.engine.script = [] := by
  refine Meets.weaken _ ?_ (Clears.performs model).clearPendingRollback
  rintro world ⟨refines, sound, ended⟩
  exact ⟨sound, ⟨refines.cache, refines.never, refines.linked sound, rfl⟩, ended⟩

/-! ## The transaction manager -/

/-- The snapshots after an operation that changes them only if it returned. -/
def followed {α : Type} (model : Snapshots D) (change : Snapshots D → Snapshots D) :
    Outcome SqlxError α → Snapshots D
  | .returned _ => change model
  | _ => model

theorem Agrees.send {world : World (Sqlite D)} {model : Snapshots D}
    (agrees : Agrees world model) {state : Sqlite D} (never : NeverDrops state)
    (unchanged : state.database = world.engine.database) (request : Request)
    (status : Status) : Agrees (world.send request status state) model := by
  refine ⟨agrees.cache, never, agrees.linked.sound, ?_, agrees.linked.depth,
    agrees.linked.pending, ?_⟩
  · rw [World.send_engine, unchanged]
    exact agrees.linked.levels
  · rw [World.send_engine, unchanged]
    exact agrees.linked.current

/-- A transaction statement that the database of every agreeing world can perform,
followed by the change of the transaction state that goes with it. -/
theorem transactionStep_agrees {model : Snapshots D} {sql : TransactionSql}
    {change : Snapshots D → Snapshots D} {adjust : TransactionState → TransactionState}
    (performs : ∀ world : World (Sqlite D), Agrees world model →
      ∃ database, sql.perform world.engine.database = .ok database ∧
        database.content = (change model).current ∧
        HasLevels database (change model).saved)
    (adjusts : ∀ state : TransactionState, state.depth = model.saved.length →
      (adjust state).depth = (change model).saved.length ∧
        (adjust state).pendingRollbackDepths = state.pendingRollbackDepths ∧
        (adjust state).rollbackFailed = state.rollbackFailed) :
    Meets (Agrees · model)
      (do
        let _ ← call (sqlite meaning) (.execute (.transaction sql))
        changeTransaction adjust)
      fun outcome world => Agrees world (followed model change outcome) := by
  refine Meets.bind (fun _ world => Agrees (world.onTransaction adjust) (change model))
    ?_ fun _ => Meets.modify fun _ holds => holds
  refine callExecute_answers (fun world agrees => agrees.never) ?_ ?_
  · intro world state changes agrees never performed
    obtain ⟨database, isOk, content, levels⟩ := performs world agrees
    have changed : database = state.database :=
      Except.ok.inj (isOk.symm.trans (TransactionSql.perform_of_outcome performed))
    obtain ⟨depth, pending, failed⟩ := adjusts _ agrees.linked.depth
    rw [changed] at content levels
    exact ⟨agrees.cache, never, failed.trans agrees.linked.sound, levels, depth,
      pending.trans agrees.linked.pending, content.symm⟩
  · intro world state error agrees never unchanged
    exact agrees.send never unchanged _ _

/-- Clearing the queue, as the first part of a program. -/
theorem clearPendingRollback_ending (model : Snapshots D) :
    Meets (Refines · model) (clearPendingRollback (sqlite meaning))
      (Ending (Agrees · model) (Refines · model)) := by
  refine (clearPendingRollback_refines meaning model).imp ?_
  intro outcome world ended
  cases outcome with
  | returned _ => exact ended
  | failed _ => exact ended.1
  | dropped => exact ended.1

/-- An operation that clears the queue first. -/
theorem clearFirst_refines {α : Type} {model : Snapshots D}
    {change : Snapshots D → Snapshots D} {next : Unit → Program (Sqlite D) α}
    (refines : ∀ value, Meets (Agrees · model) (next value) fun outcome world =>
      Agrees world (followed model change outcome)) :
    Meets (Refines · model) (clearPendingRollback (sqlite meaning) >>= next)
      fun outcome world => Refines world (followed model change outcome) := by
  refine Meets.bind (fun _ world => Agrees world model) ?_ fun value =>
    (refines value).imp fun _ _ agrees => agrees.refines
  refine (clearPendingRollback_ending model).imp ?_
  intro outcome world ended
  cases outcome <;> exact ended

/-- In a world that agrees with the snapshots the depth is known. -/
theorem readDepth_agrees {α : Type} {model : Snapshots D}
    {next : Nat → Program (Sqlite D) α} {after : Outcome SqlxError α → World (Sqlite D) → Prop}
    (meets : Meets (Agrees · model) (next model.saved.length) after) :
    Meets (Agrees · model) (Async.read World.depth >>= next) after := by
  intro world agrees
  rw [bind_apply, read_apply, agrees.linked.depth]
  exact meets world agrees

theorem begin_refines (model : Snapshots D) :
    Meets (Refines · model) (TursoTransactionManager.begin (sqlite meaning) none)
      fun outcome world => Refines world (followed model Snapshots.begin outcome) := by
  refine clearFirst_refines fun _ => readDepth_agrees ?_
  rw [if_neg (by simp)]
  refine transactionStep_agrees ?_ fun state depth => ⟨?_, rfl, rfl⟩
  · intro world agrees
    obtain ⟨begun, performed, content, levels⟩ := begin_level agrees.linked.levels
    rw [agrees.current] at content levels
    exact ⟨begun, performed, content, levels⟩
  · exact congrArg (· + 1) depth

theorem finish_refines {model : Snapshots D} {sql : Nat → TransactionSql}
    {change : Snapshots D → Snapshots D}
    (unchanged : model.saved = [] → change model = model)
    (saved : (change model).saved = model.saved.tail)
    (performs : ∀ world : World (Sqlite D), Agrees world model → ∀ snapshot rest,
      model.saved = snapshot :: rest →
      ∃ database, (sql (rest.length + 1)).perform world.engine.database = .ok database ∧
        database.content = (change model).current ∧ HasLevels database rest) :
    Meets (Refines · model) (TursoTransactionManager.finish (sqlite meaning) sql)
      fun outcome world => Refines world (followed model change outcome) := by
  refine clearFirst_refines fun _ => readDepth_agrees ?_
  cases levels : model.saved with
  | nil =>
      rw [List.length_nil, if_pos rfl]
      apply Meets.pure
      intro world agrees
      change Agrees world (change model)
      rw [unchanged levels]
      exact agrees
  | cons snapshot rest =>
      rw [List.length_cons, if_neg (Nat.succ_ne_zero _)]
      rw [levels, List.tail_cons] at saved
      refine transactionStep_agrees ?_ fun state depth => ⟨?_, ?_, ?_⟩
      · intro world agrees
        rw [saved]
        exact performs world agrees snapshot rest levels
      · rw [TransactionState.decrementDepth_depth, depth, saved, levels]
        rfl
      · exact state.decrementDepth_pending
      · exact state.decrementDepth_failed

theorem commit_refines (model : Snapshots D) :
    Meets (Refines · model) (TursoTransactionManager.commit (sqlite meaning))
      fun outcome world => Refines world (followed model Snapshots.commit outcome) := by
  refine finish_refines ?_ rfl ?_
  · intro none
    cases model
    cases none
    rfl
  · intro world agrees snapshot rest isSaved
    have levels := agrees.linked.levels
    rw [List.nil_append, isSaved] at levels
    obtain ⟨committed, performed, content, rest⟩ := commit_level levels
    exact ⟨committed, performed, content.trans agrees.current, rest⟩

theorem rollback_refines (model : Snapshots D) :
    Meets (Refines · model) (TursoTransactionManager.rollback (sqlite meaning))
      fun outcome world => Refines world (followed model Snapshots.rollback outcome) := by
  refine finish_refines ?_ rfl ?_
  · intro none
    cases model
    cases none
    rfl
  · intro world agrees snapshot rest isSaved
    have levels := agrees.linked.levels
    rw [List.nil_append, isSaved] at levels
    obtain ⟨restored, performed, content, below⟩ := rollback_level levels
    refine ⟨restored, performed, ?_, below⟩
    rw [content, Snapshots.rollback, isSaved]
    rfl

/-- Dropping a handle makes one more of the saved levels wait for its rollback. -/
theorem startRollback_refines {world : World (Sqlite D)} {model : Snapshots D}
    (refines : Refines world model) :
    Refines (world.onTransaction TransactionState.markRollbackNeeded) model.rollback := by
  refine ⟨refines.cache, refines.never, fun sound => ?_,
    refines.closes.trans model.rollback_bottom.symm⟩
  rw [World.failed, World.onTransaction_transactionState,
    TransactionState.markRollbackNeeded_failed] at sound
  obtain ⟨dropped, linked⟩ := refines.linked sound
  have depth : world.transactionState.depth = model.saved.length := linked.depth
  cases isSaved : model.saved with
  | nil =>
      rw [isSaved, List.length_nil] at depth
      have sameModel : model.rollback = model := by
        cases model
        cases isSaved
        rfl
      have sameWorld : world.onTransaction TransactionState.markRollbackNeeded = world := by
        rw [World.onTransaction, TransactionState.markRollbackNeeded_of_depth_zero _ depth]
      rw [sameModel, sameWorld]
      exact ⟨dropped, linked⟩
  | cons snapshot rest =>
      rw [isSaved, List.length_cons] at depth
      have isOpen : 0 < world.transactionState.depth := by
        rw [depth]
        exact Nat.succ_pos _
      have restored : model.rollback = { current := snapshot, saved := rest } := by
        rw [Snapshots.rollback, isSaved]
        rfl
      rw [restored]
      refine ⟨dropped ++ [snapshot], ?_, ?_, ?_, ?_, ?_⟩
      · exact (TransactionState.markRollbackNeeded_failed _).trans sound
      · have levels := linked.levels
        rw [isSaved] at levels
        simpa only [World.onTransaction_engine, List.append_assoc,
          List.singleton_append] using levels
      · rw [World.depth, World.onTransaction_transactionState,
          TransactionState.markRollbackNeeded_depth, depth, Nat.add_sub_cancel]
      · have pending : world.transactionState.pendingRollbackDepths =
            levelsAbove model.saved.length dropped.length := linked.pending
        rw [isSaved, List.length_cons] at pending
        rw [World.pending, World.onTransaction_transactionState,
          TransactionState.markRollbackNeeded_pending _ isOpen, pending, depth,
          List.length_append, List.length_singleton, levelsAbove_succ]
      · rw [List.getLast?_concat]
        rfl

theorem Agrees.onConnection {world : World (Sqlite D)} {model : Snapshots D}
    (agrees : Agrees world model) {change : TursoConnection → TursoConnection}
    (same : (change world.connection).transactionState = world.transactionState)
    (cache : SoundCache (change world.connection).statements) :
    Agrees (world.onConnection change) model := by
  refine ⟨cache, agrees.never, ?_, agrees.linked.levels, ?_, ?_, agrees.linked.current⟩
  · exact (congrArg TransactionState.rollbackFailed same).trans agrees.linked.sound
  · exact (congrArg TransactionState.depth same).trans agrees.linked.depth
  · exact (congrArg TransactionState.pendingRollbackDepths same).trans agrees.linked.pending

/-! ## Statements -/

/-- A call that leaves the database as it is. -/
theorem call_agrees {model : Snapshots D} {request : Request}
    {prepared : request.Answer → Prop}
    (serves : ∀ state state' reply, NeverDrops state →
      (sqlite meaning).serve request state = (reply, state') →
      NeverDrops state' ∧ state'.database = state.database ∧
        ∃ result, reply = .answered result ∧ ∀ answer, result = .ok answer → prepared answer) :
    Meets (Agrees · model) (call (sqlite meaning) request)
      (Keeping (Agrees · model) prepared) := by
  apply call_meets
  · intro world answer state agrees served
    obtain ⟨never, unchanged, result, isReply, isPrepared⟩ :=
      serves _ _ _ agrees.never served
    cases isReply
    refine ⟨agrees.send never unchanged _ _, ?_⟩
    intro _ isAnswer
    cases isAnswer
    exact isPrepared _ rfl
  · intro world error state agrees served
    obtain ⟨never, unchanged, _⟩ := serves _ _ _ agrees.never served
    exact ⟨agrees.send never unchanged _ _, fun _ => nofun⟩
  · intro world state agrees served
    obtain ⟨never, unchanged, _⟩ := serves _ _ _ agrees.never served
    exact ⟨agrees.send never unchanged _ _, fun _ => nofun⟩

theorem callPrepare_agrees (model : Snapshots D) (sql : String) :
    Meets (Agrees · model) (call (sqlite meaning) (.prepare sql))
      (Keeping (Agrees · model) fun raw : Turso.Statement => raw.sql = sql) := by
  apply call_agrees
  intro state state' reply never served
  change underVerdict (meaning.performPrepare sql) state = (reply, state') at served
  obtain ⟨never', refusal, _, isReply, changed⟩ := underVerdict_answers never served
  refine ⟨never', ?_, _, isReply, ?_⟩
  · rw [changed]
    unfold Meaning.performPrepare
    split <;> rfl
  · intro raw isOk
    unfold Meaning.performPrepare at isOk
    split at isOk
    · cases isOk
    · cases isOk
      rfl
    · cases isOk

theorem prepareQueryStatement_agrees (model : Snapshots D) (sql : String)
    (persistent : Bool) :
    Meets (Agrees · model) (prepareQueryStatement (sqlite meaning) sql persistent)
      (Keeping (Agrees · model) fun raw : Turso.Statement => raw.sql = sql) :=
  prepareQueryStatement_keeping (fun _ agrees => agrees.cache)
    (fun _ _ agrees => agrees.onConnection) (callPrepare_agrees model sql) persistent

/-- The rows of a statement on the current content, and the snapshots after it. -/
inductive Ran (meaning : Meaning D) (sql : String) (values : List Turso.Value)
    (model : Snapshots D) (rows : Turso.Rows) : Snapshots D → Prop where
  | executed {effect : Effect D} :
      meaning.run (firstStatement sql) values model.current = .ok effect →
      rows = { rows := effect.rows, changes := effect.changes } →
      Ran meaning sql values model rows (model.write effect.content)
  | refused : rows.failure.isSome = true → Ran meaning sql values model rows model

/-- What becomes of a query: its rows with the snapshots after it, or an error with the
snapshots as they were. -/
def Queried (meaning : Meaning D) (sql : String) (values : List Turso.Value)
    (model : Snapshots D) (state : Snapshots D → Prop) : Outcome SqlxError FetchStream → Prop
  | .returned stream => ∃ rows columns after,
      stream = .unfolded (.rows rows columns none) ∧
        Ran meaning sql values model rows after ∧ state after
  | _ => state model

theorem performQuery_cases {sql : String}
    (noCommand : meaning.command (firstStatement sql) = none)
    {statement : Turso.Statement} (isSql : statement.sql = sql)
    (values : List Turso.Value) (refusal : Option Refusal) (database : Database D) :
    (∃ effect, meaning.run (firstStatement sql) values database.content = .ok effect ∧
      meaning.performQuery statement values refusal database =
        (.ok { rows := effect.rows, changes := effect.changes },
          { database with content := effect.content })) ∨
    (∃ result, meaning.performQuery statement values refusal database =
        (result, database) ∧
      ∀ rows, result = .ok rows → rows.failure.isSome = true) := by
  subst isSql
  unfold Meaning.performQuery
  rw [meaning.perform_of_noCommand noCommand]
  cases refusal with
  | some refusal =>
      right
      rcases refusal with ⟨error, _ | count⟩
      · exact ⟨_, rfl, fun _ => nofun⟩
      · cases meaning.run (firstStatement statement.sql) values database.content with
        | ok effect =>
            refine ⟨_, rfl, ?_⟩
            intro rows isOk
            cases isOk
            rfl
        | error failure =>
            refine ⟨_, rfl, ?_⟩
            intro rows isOk
            cases isOk
            rfl
  | none =>
      cases meaning.run (firstStatement statement.sql) values database.content with
      | ok effect => exact .inl ⟨effect, rfl, rfl⟩
      | error failure =>
          refine .inr ⟨_, rfl, ?_⟩
          intro rows isOk
          cases isOk
          rfl

theorem Agrees.write {world : World (Sqlite D)} {model : Snapshots D}
    (agrees : Agrees world model) {state : Sqlite D} (never : NeverDrops state) {content : D}
    (written : state.database = { world.engine.database with content })
    (request : Request) (status : Status) :
    Agrees (world.send request status state) (model.write content) := by
  refine ⟨agrees.cache, never, agrees.linked.sound, ?_, agrees.linked.depth,
    agrees.linked.pending, ?_⟩
  · rw [World.send_engine, written]
    exact agrees.linked.levels
  · rw [World.send_engine, written]
    rfl

theorem callQuery_agrees (model : Snapshots D) {sql : String}
    (noCommand : meaning.command (firstStatement sql) = none) (statement : Turso.Statement)
    (isSql : statement.sql = sql) (arguments : Option (List Turso.Value)) :
    Meets (Agrees · model) (call (sqlite meaning) (.query statement arguments))
      fun outcome world =>
        match outcome with
        | .returned rows => ∃ after,
            Ran meaning sql (arguments.getD []) model rows after ∧ Agrees world after
        | _ => Agrees world model := by
  have serves : ∀ (world : World (Sqlite D)) state' (reply : Reply Turso.Rows),
      Agrees world model →
      (sqlite meaning).serve (.query statement arguments) world.engine = (reply, state') →
      NeverDrops state' ∧
        ((∃ effect, meaning.run (firstStatement sql) (arguments.getD [])
            world.engine.database.content = .ok effect ∧
          reply = .answered (.ok { rows := effect.rows, changes := effect.changes }) ∧
          state'.database = { world.engine.database with content := effect.content }) ∨
        (∃ result, reply = .answered result ∧ state'.database = world.engine.database ∧
          ∀ rows, result = .ok rows → rows.failure.isSome = true)) := by
    intro world state' reply agrees served
    change underVerdict (meaning.performQuery statement (arguments.getD [])) world.engine =
      (reply, state') at served
    obtain ⟨never, refusal, _, isReply, changed⟩ :=
      underVerdict_answers agrees.never served
    refine ⟨never, ?_⟩
    rcases performQuery_cases noCommand isSql (arguments.getD []) refusal
      world.engine.database with ⟨effect, ran, performed⟩ | ⟨result, performed, refused⟩
    · rw [performed] at isReply changed
      exact .inl ⟨effect, ran, isReply, changed⟩
    · rw [performed] at isReply changed
      exact .inr ⟨result, isReply, changed, refused⟩
  apply call_meets
  · intro world answer state agrees served
    obtain ⟨never, ⟨effect, ran, isReply, written⟩ | ⟨_, isReply, unchanged, refused⟩⟩ :=
      serves world state _ agrees served
    · cases isReply
      rw [agrees.current] at ran
      exact ⟨_, .executed ran rfl, agrees.write never written _ _⟩
    · cases isReply
      exact ⟨model, .refused (refused _ rfl), agrees.send never unchanged _ _⟩
  · intro world error state agrees served
    obtain ⟨never, ⟨_, _, isReply, _⟩ | ⟨_, _, unchanged, _⟩⟩ := serves world state _ agrees served
    · cases isReply
    · exact agrees.send never unchanged _ _
  · intro world state agrees served
    rcases serves world state _ agrees served with ⟨_, ⟨_, _, isReply, _⟩ | ⟨_, isReply, _⟩⟩
    · cases isReply
    · cases isReply

theorem querySql_agrees (model : Snapshots D) {sql : String}
    (noCommand : meaning.command (firstStatement sql) = none) (persistent : Bool)
    (arguments : Option TursoArguments) :
    Meets (Agrees · model) (querySql (sqlite meaning) sql persistent arguments)
      fun outcome world => Queried meaning sql
        ((arguments.map TursoArguments.intoTursoValues).getD []) model
        (Agrees world) outcome := by
  refine Meets.bind (fun (raw : Turso.Statement) world => Agrees world model ∧ raw.sql = sql)
    ?_ fun raw => ?_
  · refine (prepareQueryStatement_agrees model sql persistent).imp ?_
    intro outcome world ended
    cases outcome with
    | returned raw => exact ⟨ended.1, ended.2 raw rfl⟩
    | failed _ => exact ended.1
    | dropped => exact ended.1
  · apply Meets.of_state
    intro world ⟨agrees, isSql⟩
    refine Meets.read fun columns => ?_
    refine Meets.bind (fun rows world => ∃ after,
      Ran meaning sql ((arguments.map TursoArguments.intoTursoValues).getD []) model rows
        after ∧ Agrees world after) ?_ fun rows => ?_
    · refine (callQuery_agrees model noCommand raw isSql _).mono
        (fun _ atWorld => atWorld.1 ▸ agrees) ?_
      intro outcome world ended
      cases outcome <;> exact ended
    · apply Meets.pure
      rintro world ⟨after, ran, agrees⟩
      exact ⟨rows, _, after, rfl, ran, agrees⟩

/-- A text that is executed as one statement, and no transaction statement. -/
structure SingleStatement (meaning : Meaning D) (sql : String) : Prop where
  single : (inspectSql sql).mayContainMultipleStatements = false
  noCommand : meaning.command (firstStatement sql) = none

theorem fetchManySql_refines (model : Snapshots D) {sql : String}
    (single : SingleStatement meaning sql) (persistent : Bool)
    (arguments : Option TursoArguments) :
    Meets (Refines · model) (fetchManySql (sqlite meaning) sql persistent arguments)
      fun outcome world => Queried meaning sql
        ((arguments.map TursoArguments.intoTursoValues).getD []) model
        (Refines world) outcome := by
  rw [fetchManySql_eq]
  refine Meets.bind (fun _ world => Agrees world model) ?_ fun _ => ?_
  · refine (clearPendingRollback_ending model).imp ?_
    intro outcome world ended
    cases outcome <;> exact ended
  · rcases fetchCleared_cases (sqlite meaning) single.single persistent arguments with
      ⟨error, fails⟩ | queries
    · rw [fails]
      exact Meets.fail fun _ agrees => agrees.refines
    · rw [queries]
      refine (querySql_agrees model single.noCommand persistent _).imp ?_
      intro outcome world ended
      cases outcome with
      | returned stream =>
          rcases ended with ⟨rows, columns, after, isStream, ran, agrees⟩
          exact ⟨rows, columns, after, isStream, ran, agrees.refines⟩
      | failed _ => exact Agrees.refines ended
      | dropped => exact Agrees.refines ended

/-! ## Runs -/

namespace Query

/-- The values that the engine gets. -/
def values (query : Query) : List Turso.Value :=
  match query.arguments with
  | .ok (some arguments) => arguments.intoTursoValues
  | _ => []

end Query

theorem fetchMany_refines (model : Snapshots D) {query : Query}
    (single : SingleStatement meaning query.sql) :
    Meets (Refines · model) (fetchMany (sqlite meaning) query)
      fun outcome world =>
        Queried meaning query.sql query.values model (Refines world) outcome := by
  unfold fetchMany Query.values
  cases query.arguments with
  | error error => exact Meets.fail fun _ refines => refines
  | ok arguments =>
      refine (fetchManySql_refines model single query.persistent arguments).imp ?_
      intro outcome world ended
      cases arguments <;> exact ended

/-- The actions of a client and of the handles that it drops. -/
inductive Action where
  | begin
  | commit
  | rollback
  | startRollback
  | fetch (query : Query)

namespace Action

/-- The actions of the runs: every fetch is of a single statement. -/
def Allowed (meaning : Meaning D) : Action → Prop
  | fetch query => SingleStatement meaning query.sql
  | _ => True

/-- The world after an action. -/
def perform (meaning : Meaning D) : Action → World (Sqlite D) → World (Sqlite D)
  | begin, world => (TursoTransactionManager.begin (sqlite meaning) none world).2
  | commit, world => (TursoTransactionManager.commit (sqlite meaning) world).2
  | rollback, world => (TursoTransactionManager.rollback (sqlite meaning) world).2
  | startRollback, world => (TursoTransactionManager.startRollback world).2
  | fetch query, world => (fetchMany (sqlite meaning) query world).2

/-- What a fetch writes to the snapshots, unless the statement was refused. -/
def written (meaning : Meaning D) (query : Query) (model : Snapshots D) :
    Outcome SqlxError FetchStream → Snapshots D
  | .returned (.unfolded (.rows rows _ _)) =>
      match rows.failure, meaning.run (firstStatement query.sql) query.values model.current with
      | none, .ok effect => model.write effect.content
      | _, _ => model
  | _ => model

/-- The snapshots after an action.  What is refused changes nothing. -/
def follow (meaning : Meaning D) (model : Snapshots D) (world : World (Sqlite D)) :
    Action → Snapshots D
  | begin =>
      followed model Snapshots.begin
        (TursoTransactionManager.begin (sqlite meaning) none world).1
  | commit =>
      followed model Snapshots.commit (TursoTransactionManager.commit (sqlite meaning) world).1
  | rollback =>
      followed model Snapshots.rollback
        (TursoTransactionManager.rollback (sqlite meaning) world).1
  | startRollback => model.rollback
  | fetch query => written meaning query model (fetchMany (sqlite meaning) query world).1

end Action

theorem written_of_ran {query : Query} {model after : Snapshots D} {rows : Turso.Rows}
    {columns : List TursoColumn} {pendingRow : Option Turso.Row}
    (ran : Ran meaning query.sql query.values model rows after) :
    Action.written meaning query model
      (.returned (.unfolded (.rows rows columns pendingRow))) = after := by
  unfold Action.written
  cases ran with
  | executed isEffect isRows =>
      subst isRows
      simp only [isEffect]
  | refused failed =>
      cases failure : rows.failure with
      | none => simp [failure] at failed
      | some error => simp only [failure]

theorem Action.refines {world : World (Sqlite D)} {model : Snapshots D} (action : Action)
    (allowed : action.Allowed meaning) (refines : Refines world model) :
    Refines (action.perform meaning world) (action.follow meaning model world) := by
  cases action with
  | begin => exact begin_refines model world refines
  | commit => exact commit_refines model world refines
  | rollback => exact rollback_refines model world refines
  | startRollback => exact startRollback_refines refines
  | fetch query =>
      have queried := fetchMany_refines model allowed world refines
      simp only [perform, follow]
      cases outcome : (fetchMany (sqlite meaning) query world).1 with
      | returned stream =>
          rw [outcome] at queried
          rcases queried with ⟨rows, columns, after, rfl, ran, refinesAfter⟩
          rw [written_of_ran ran]
          exact refinesAfter
      | failed error =>
          rw [outcome] at queried
          exact queried
      | dropped =>
          rw [outcome] at queried
          exact queried

/-- The worlds that a connection reaches, with the snapshots that follow it.  It starts
fresh on a database, under any script that drops no future. -/
inductive Reaches (meaning : Meaning D) : World (Sqlite D) → Snapshots D → Prop where
  | fresh (caches : StatementCaches) (content : D) (capacity : Nat) (script : List Verdict) :
      (∀ verdict ∈ script, verdict.drops = false) →
      Reaches meaning
        { connection := { statements := { caches, capacity } }
          engine := { database := { content }, script } }
        { current := content }
  | step {world model} (action : Action) :
      Reaches meaning world model → action.Allowed meaning →
      Reaches meaning (action.perform meaning world) (action.follow meaning model world)

theorem Reaches.refines {world : World (Sqlite D)} {model : Snapshots D}
    (reached : Reaches meaning world model) : Refines world model := by
  induction reached with
  | fresh caches content capacity script never =>
      refine ⟨.fresh caches capacity, never, fun _ => ⟨[], rfl, rfl, rfl, rfl, rfl⟩, rfl⟩
  | step action _ allowed ih => exact action.refines allowed ih

/-- The world with an engine that refuses nothing from now on. -/
def World.accepting (world : World (Sqlite D)) : World (Sqlite D) :=
  { world with engine := { database := world.engine.database } }

theorem Refines.accepting {world : World (Sqlite D)} {model : Snapshots D}
    (refines : Refines world model) : Refines world.accepting model := by
  refine ⟨refines.cache, fun _ inEmpty => absurd inEmpty List.not_mem_nil, ?_, refines.closes⟩
  intro sound
  obtain ⟨dropped, linked⟩ := refines.linked sound
  exact ⟨dropped, linked.sound, linked.levels, linked.depth, linked.pending, linked.current⟩

/-- Nested transactions refine the snapshots.  In every run a closed database holds the
outermost snapshot.  As long as no rollback has failed, the depth is the number of
saved snapshots, the content once the queue is cleared is the current one, and an
engine that refuses nothing clears it.  And a statement that is not refused gives the
rows that it has on the current content. -/
theorem nested_transactions_refine_snapshots {world : World (Sqlite D)}
    {model : Snapshots D} (reached : Reaches meaning world model) :
    world.engine.database.closed = model.bottom ∧
      (world.failed = false →
        world.depth = model.saved.length ∧
        (∀ world', clearPendingRollback (sqlite meaning) world = (.returned (), world') →
          world'.engine.database.content = model.current) ∧
        (clearPendingRollback (sqlite meaning) world.accepting).1 = .returned ()) ∧
      ∀ query stream, SingleStatement meaning query.sql →
        (fetchMany (sqlite meaning) query world).1 = .returned stream →
        ∃ rows columns, stream = .unfolded (.rows rows columns none) ∧
          (rows.failure = none → ∃ effect,
            meaning.run (firstStatement query.sql) query.values model.current = .ok effect ∧
            rows = { rows := effect.rows, changes := effect.changes }) := by
  have refines := reached.refines
  refine ⟨refines.closes, fun sound => ⟨?_, ?_, ?_⟩, ?_⟩
  · obtain ⟨dropped, linked⟩ := refines.linked sound
    exact linked.depth
  · intro world' cleared
    have agrees := clearPendingRollback_refines meaning model world refines
    rw [cleared] at agrees
    exact agrees.current
  · exact (clearPendingRollback_returns model _ ⟨refines.accepting, sound, rfl⟩).1
  · intro query stream single returned
    have queried := fetchMany_refines model single world refines
    rw [returned] at queried
    rcases queried with ⟨rows, columns, after, isStream, ran, _⟩
    refine ⟨rows, columns, isStream, ?_⟩
    intro noFailure
    cases ran with
    | executed isEffect isRows => exact ⟨_, isEffect, isRows⟩
    | refused failed =>
        rw [noFailure] at failed
        cases failed

/-- A statement in a transaction whose handle is dropped, on a fresh connection. -/
def droppedInsert : World (Sqlite Nat) :=
  let fresh : World (Sqlite Nat) :=
    { connection := { statements := { caches := .roomy, capacity := 100 } }
      engine := { database := { content := 7 } } }
  Action.startRollback.perform counter
    ((Action.fetch { sql := "INSERT INTO test VALUES (1)" }).perform counter
      (Action.begin.perform counter fresh))

theorem dropped_insert_refines_snapshots :
    droppedInsert.engine.database.content = 8 ∧ droppedInsert.pending = [1] ∧
      ∀ world', clearPendingRollback (sqlite counter) droppedInsert = (.returned (), world') →
        world'.engine.database.content = 7 := by
  have reached := Reaches.step .startRollback
    (.step (.fetch { sql := "INSERT INTO test VALUES (1)" })
      (.step .begin (.fresh .roomy 7 100 [] (fun _ inEmpty => absurd inEmpty List.not_mem_nil))
        trivial)
      (⟨by decide, rfl⟩ : SingleStatement counter "INSERT INTO test VALUES (1)")) trivial
  exact ⟨by decide, by decide, ((nested_transactions_refine_snapshots reached).2.1 (by decide)).2.1⟩

end SqlxTurso
