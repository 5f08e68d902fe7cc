import SqlxTurso.Connection.Cancellation
import SqlxTurso.Connection.Queue
import SqlxTurso.Connection.Refinement

/-!
# Begins with a text of the caller's own

At depth zero a begin takes any text, and counts a level as soon as the engine has executed
it.  After a text that starts a transaction the counted levels are open ones over the whole
run that follows, and what is written through the handle is undone when it is dropped.  A
text that hands out a row is refused.  After any other text the handle has no transaction.
-/

namespace SqlxTurso

open Library Async Sql

variable {D : Type} {meaning : Meaning D}

/-! ## Texts that start a transaction -/

/-- The transaction statements after which a transaction is open, whatever was before. -/
def TransactionSql.opens : TransactionSql → Bool
  | begin => true
  | savepoint _ => true
  | _ => false

theorem TransactionSql.opens_cases {sql : TransactionSql} (opens : sql.opens = true) :
    sql = .begin ∨ ∃ level, sql = .savepoint level := by
  cases sql with
  | begin => exact .inl rfl
  | savepoint level => exact .inr ⟨level, rfl⟩
  | commit => cases opens
  | rollback => cases opens
  | release level => cases opens
  | rollbackTo level => cases opens

/-- A text that starts a transaction. -/
def StartsTransaction (meaning : Meaning D) (sql : SqlStr) : Prop :=
  ∃ command, meaning.commandOf sql = some command ∧ command.opens = true

section Texts

variable {database changed : Database D} {sql : SqlStr} {rows : List Turso.Row} {changes : Nat}

theorem StartsTransaction.isOpen (starts : StartsTransaction meaning sql)
    (ran : meaning.performSql sql database = .ok (rows, changes, changed)) :
    changed.transaction.isSome = true := by
  rcases starts with ⟨command, isCommand, opens⟩
  rw [meaning.performSql_of_command isCommand] at ran
  have performed := TransactionSql.perform_of_outcome ran
  rcases command.opens_cases opens with rfl | ⟨level, rfl⟩
  · obtain ⟨_, rfl⟩ := Database.begin_eq_some (orError_eq_ok.mp performed)
    rfl
  · cases performed
    unfold Database.savepoint
    split <;> rfl

/-- Where no transaction is open, a text that starts one begins the first level. -/
theorem StartsTransaction.firstLevel (starts : StartsTransaction meaning sql)
    (none : LevelsOn Grounded database [])
    (ran : meaning.performSql sql database = .ok (rows, changes, changed)) :
    changed.content = database.content ∧ LevelsOn Grounded changed [database.content] := by
  rcases starts with ⟨command, isCommand, opens⟩
  rw [meaning.performSql_of_command isCommand] at ran
  have performed := TransactionSql.perform_of_outcome ran
  rcases command.opens_cases opens with rfl | ⟨level, rfl⟩
  · rcases none.begin (.inl rfl) with ⟨begun, isBegun, content, levels⟩
    have same : begun = changed :=
      Option.some.inj (isBegun.symm.trans (orError_eq_ok.mp performed))
    rw [← same]
    exact ⟨content, levels⟩
  · cases performed
    have levels := none.savepointFirst level (.inr (List.cons_ne_nil _ _))
    refine ⟨?_, levels⟩
    unfold Database.savepoint
    split <;> rfl

/-- Where no transaction is open, no other text that runs starts one. -/
theorem startsNone_leavesClosed (startsNone : ¬StartsTransaction meaning sql)
    (closed : database.transaction = none)
    (ran : meaning.performSql sql database = .ok (rows, changes, changed)) :
    changed.transaction = none := by
  cases isCommand : meaning.commandOf sql with
  | none => exact (performSql_transaction isCommand ran).trans closed
  | some command =>
      rw [meaning.performSql_of_command isCommand] at ran
      rcases begins_of_closed closed (TransactionSql.perform_of_outcome ran) with
        rfl | ⟨level, rfl⟩
      · exact absurd ⟨_, isCommand, rfl⟩ startsNone
      · exact absurd ⟨_, isCommand, rfl⟩ startsNone

end Texts

/-! ## What a begin should do -/

/-- A begin with a text really begins: where it succeeds a transaction is open, and a text
that starts none is an error that counts no level. -/
structure ReallyBegins (meaning : Meaning D) (sql : SqlStr) (world : World (Sqlite D)) :
    Prop where
  isOpen : ∀ begun,
    TursoTransactionManager.begin (sqlite meaning) (some sql) world = (.returned (), begun) →
    begun.engine.database.transaction.isSome = true
  rejects : ¬StartsTransaction meaning sql → ∃ error rejected,
    TursoTransactionManager.begin (sqlite meaning) (some sql) world =
      (.failed error, rejected) ∧ rejected.depth = 0

/-- At depth zero the text of a begin runs without an error and hands out these rows, and
the engine answers what it answers to such a text. -/
structure Executes (meaning : Meaning D) (sql : SqlStr) (rows : List Turso.Row)
    (world : World (Sqlite D)) : Prop where
  outermost : world.depth = 0
  accepted : ∃ cleared changes changed,
    clearPendingRollback (sqlite meaning) world = (.returned (), cleared) ∧
      meaning.performSql sql cleared.engine.database = .ok (rows, changes, changed) ∧
      ((sqlite meaning).serve (.execute sql) cleared.engine).1 =
        .answered (performExecute (meaning.performSql sql) none cleared.engine.database).1

section Executes

variable {sql : SqlStr} {world : World (Sqlite D)}

variable (sql) in
theorem atZero_allowed {cleared : World (Sqlite D)} (outermost : world.depth = 0)
    (isCleared : clearPendingRollback (sqlite meaning) world = (.returned (), cleared)) :
    cleared.depth = 0 ∧ ¬((some sql).isSome = true ∧ cleared.depth > 0) := by
  have isZero : cleared.depth = 0 :=
    (Cleared.of_returned isCleared).sameDepth.trans outermost
  refine ⟨isZero, fun nested => ?_⟩
  rw [isZero] at nested
  exact Nat.lt_irrefl 0 nested.2

/-- Whatever else the text was, a begin with a text that hands out no row succeeds and counts
a level. -/
theorem Executes.begin (executes : Executes meaning sql [] world) :
    ∃ cleared begun changes,
      clearPendingRollback (sqlite meaning) world = (.returned (), cleared) ∧
        cleared.depth = 0 ∧
        TursoTransactionManager.begin (sqlite meaning) (some sql) world =
          (.returned (), begun) ∧ begun.depth = 1 ∧
        meaning.performSql sql cleared.engine.database =
          .ok ([], changes, begun.engine.database) := by
  rcases executes.accepted with ⟨cleared, changes, changed, isCleared, performed, answers⟩
  obtain ⟨outermost, allowed⟩ := atZero_allowed sql executes.outermost isCleared
  cases served : (sqlite meaning).serve (.execute sql) cleared.engine with
  | mk reply state =>
      rw [served] at answers
      simp only [performExecute, withoutRows, performed] at answers
      subst answers
      exact ⟨cleared, _, changes, isCleared, outermost,
        begin_of_answered isCleared allowed served, congrArg (· + 1) outermost,
        performed_of_served served⟩

/-- A begin with a text that hands out a row fails and counts none. -/
theorem Executes.begin_refused {row : Turso.Row} {rows : List Turso.Row}
    (executes : Executes meaning sql (row :: rows) world) :
    ∃ error rejected, TursoTransactionManager.begin (sqlite meaning) (some sql) world =
      (.failed error, rejected) ∧ rejected.depth = 0 := by
  rcases executes.accepted with ⟨cleared, changes, changed, isCleared, performed, answers⟩
  obtain ⟨outermost, allowed⟩ := atZero_allowed sql executes.outermost isCleared
  cases served : (sqlite meaning).serve (.execute sql) cleared.engine with
  | mk reply state =>
      rw [served] at answers
      simp only [performExecute, withoutRows, performed] at answers
      subst answers
      exact ⟨_, _, begin_of_refused isCleared allowed served, outermost⟩

theorem reallyBegins_iff {rows : List Turso.Row} (executes : Executes meaning sql rows world) :
    ReallyBegins meaning sql world ↔ StartsTransaction meaning sql ∨ rows ≠ [] := by
  cases rows with
  | cons row rows =>
      obtain ⟨error, rejected, isRejected, outermost⟩ := executes.begin_refused
      refine iff_of_true ⟨?_, fun _ => ⟨error, rejected, isRejected, outermost⟩⟩
        (.inr (List.cons_ne_nil row rows))
      intro begun isBegun
      cases isBegun.symm.trans isRejected
  | nil =>
      obtain ⟨_, begun, changes, _, _, isBegun, _, performed⟩ := executes.begin
      rw [or_iff_left (not_not_intro rfl)]
      constructor
      · intro begins
        by_contra startsNone
        obtain ⟨error, rejected, isRejected, _⟩ := begins.rejects startsNone
        cases isBegun.symm.trans isRejected
      · intro starts
        refine ⟨?_, fun startsNone => absurd starts startsNone⟩
        intro other isOther
        cases isBegun.symm.trans isOther
        exact starts.isOpen performed

end Executes

/-! ## Counted levels are open -/

/-- As many levels are open as are counted or queued. -/
def Standing (world : World (Sqlite D)) : Prop :=
  ∃ (count : Nat) (levels : List D), world.pending = levelsAbove world.depth count ∧
    levels.length = world.depth + count ∧ LevelsOn Grounded world.engine.database levels

theorem Standing.isOpen {world : World (Sqlite D)} (standing : Standing world)
    (counted : 1 ≤ world.depth) : world.engine.database.transaction.isSome = true := by
  rcases standing with ⟨count, levels, _, height, isOn⟩
  cases levels with
  | nil =>
      rw [List.length_nil] at height
      omega
  | cons snapshot levels =>
      rcases isOn.cons with ⟨transaction, _, _, isOpen, _⟩
      rw [isOpen]
      rfl

/-- A transaction is open under the counted levels, even when a rollback has failed, and it
restores what is to be kept. -/
structure Protected (kept : D) (world : World (Sqlite D)) : Prop where
  cache : SoundCache world.connection.statements
  never : NeverDrops world.engine
  isOpen : 1 ≤ world.depth → world.engine.database.transaction.isSome = true
  standing : world.failed = false → Standing world
  closes : 1 ≤ world.depth → world.engine.database.closed = kept

/-- The loop over the queue of such a world. -/
structure Emptying (kept : D) (queue : List Nat) (world : World (Sqlite D)) : Prop where
  cache : SoundCache world.connection.statements
  never : NeverDrops world.engine
  sound : world.failed = false
  rest : world.pending = queue
  standing : Standing world
  closes : world.engine.database.closed = kept

namespace Emptying

variable {kept : D} {depth : Nat} {queue : List Nat} {world : World (Sqlite D)}

theorem isProtected (emptying : Emptying kept queue world) : Protected kept world :=
  ⟨emptying.cache, emptying.never, emptying.standing.isOpen, fun _ => emptying.standing,
    fun _ => emptying.closes⟩

/-- Rolling the uppermost level back restores the same content below all levels. -/
theorem first (emptying : Emptying kept (depth :: queue) world) :
    world.engine.database.transaction ≠ none ∧
      ∃ restored,
        (rollbackAnsiTransactionSql depth).perform world.engine.database = .ok restored ∧
        ∀ status state, NeverDrops state → state.database = restored →
          Emptying kept queue (world.afterRollback depth status state) := by
  rcases emptying.standing with ⟨count, levels, isPending, height, isOn⟩
  have isQueue : depth :: queue = levelsAbove world.depth count :=
    emptying.rest.symm.trans isPending
  cases count with
  | zero => cases isQueue
  | succ count =>
      rw [levelsAbove, List.cons.injEq] at isQueue
      cases levels with
      | nil => cases height
      | cons snapshot levels =>
          have below : levels.length = world.depth + count := Nat.succ.inj height
          rcases isOn.cons with ⟨transaction, _, _, isOpen, _⟩
          rcases rollback_on isOn with ⟨restored, performed, content, isOn'⟩
          rw [below, ← isQueue.1] at performed
          refine ⟨by simp [isOpen], restored, performed, ?_⟩
          intro status state never isRestored
          refine ⟨emptying.cache, never, emptying.sound, ?_, ⟨count, levels, ?_, below, ?_⟩, ?_⟩
          · rw [World.afterRollback_pending, emptying.rest, List.tail_cons]
          · rw [World.afterRollback_pending, emptying.rest, List.tail_cons, isQueue.2]
            rfl
          · rw [World.afterRollback_engine, isRestored]
            exact isOn'
          · rw [World.afterRollback_engine, isRestored, ← emptying.closes]
            rw [← content] at isOn
            exact (isOn'.closed_cons isOn).symm

theorem performs (kept : D) : Performs (Emptying kept) where
  never emptying := emptying.never
  first := first

/-- At the end of the loop the open levels are the counted ones. -/
theorem levels (emptying : Emptying kept [] world) :
    ∃ levels : List D, levels.length = world.depth ∧
      LevelsOn Grounded world.engine.database levels := by
  rcases emptying.standing with ⟨count, levels, isPending, height, isOn⟩
  cases count with
  | zero => exact ⟨levels, height, isOn⟩
  | succ count => cases emptying.rest.symm.trans isPending

/-- Where no level is counted, the kept content is in the database then. -/
theorem outermost (emptying : Emptying kept [] world) (isOutermost : world.depth = 0) :
    world.engine.database.transaction = none ∧ world.engine.database.content = kept := by
  rcases emptying.levels with ⟨levels, height, isOn⟩
  rw [isOutermost] at height
  rw [List.length_eq_zero_iff.mp height] at isOn
  exact ⟨isOn.nil, isOn.closed.symm.trans emptying.closes⟩

end Emptying

/-- A world before an operation, with what a closed database would hold. -/
structure Restoring (kept : D) (world : World (Sqlite D)) : Prop where
  isProtected : Protected kept world
  closes : world.engine.database.closed = kept

theorem Protected.restoring {kept : D} {world : World (Sqlite D)}
    (isProtected : Protected kept world) :
    Restoring world.engine.database.closed world :=
  ⟨{ isProtected with closes := fun _ => rfl }, rfl⟩

theorem clearPendingRollback_protects (meaning : Meaning D) (kept : D) :
    Meets (Restoring kept) (clearPendingRollback (sqlite meaning))
      (Ending (Emptying kept []) (Protected kept)) := by
  apply clearPendingRollback_meets
  · exact fun world restoring _ => restoring.isProtected
  · intro queue
    refine Meets.weaken (Emptying kept queue) ?_
      ((Emptying.performs kept).clears (fun _ emptying => emptying) ?_ queue)
    · rintro world ⟨⟨isProtected, closes⟩, sound, pending⟩
      exact ⟨isProtected.cache, isProtected.never, sound, pending, isProtected.standing sound,
        closes⟩
    · intro depth queue world error state emptying never unchanged
      refine ⟨emptying.cache, never, fun counted => ?_, fun sound => ?_, fun _ => ?_⟩
      · have isOpen := emptying.standing.isOpen counted
        rw [← unchanged] at isOpen
        exact isOpen
      · cases sound
      · exact (congrArg Database.closed unchanged).trans emptying.closes

/-! ## The operations -/

/-- A statement of an engine that drops no future runs or changes nothing, and only where
it ran the transaction state is changed after it. -/
theorem executeStep_protects {sql : SqlStr} {kept : D} {before after : World (Sqlite D) → Prop}
    {adjust : TransactionState → TransactionState}
    (emptied : ∀ world, before world → Emptying kept [] world)
    (ran : ∀ world state changes, before world → NeverDrops state →
      meaning.performSql sql world.engine.database = .ok ([], changes, state.database) →
      after ((world.send (.execute sql) .done state).onTransaction adjust)) :
    Meets before
      (do
        let _ ← call (sqlite meaning) (.execute sql)
        changeTransaction adjust)
      (Ending after (Protected kept)) := by
  have called : Meets before (call (sqlite meaning) (.execute sql))
      (Ending (fun world => after (world.onTransaction adjust)) (Protected kept)) := by
    refine callExecute_answers (fun world atWorld => (emptied world atWorld).never) ?_ ?_
    · intro world state changes atWorld never performed
      exact ran world state changes atWorld never performed
    · intro world state error atWorld never unchanged
      have emptying := emptied world atWorld
      rcases emptying.standing with ⟨count, levels, isPending, height, isOn⟩
      have standing : Standing (world.send (.execute sql) (.refused error) state) :=
        ⟨count, levels, isPending, height, isOn.of_same (congrArg _ unchanged)⟩
      exact ⟨emptying.cache, never, standing.isOpen, fun _ => standing,
        fun _ => (congrArg Database.closed unchanged).trans emptying.closes⟩
  exact called.bindEnding fun _ => Meets.modify fun _ holds => holds

/-- Where the text of a begin is executed on a database, it starts a transaction. -/
def StartsOn (meaning : Meaning D) (statement : Option SqlStr) (database : Database D) : Prop :=
  ∀ sql changes changed, statement = some sql →
    meaning.performSql sql database = .ok ([], changes, changed) → StartsTransaction meaning sql

/-- The statement of a begin begins the next level. -/
theorem beginStatement_on {statement : Option SqlStr} {depth : Nat}
    {database changed : Database D} (starts : StartsOn meaning statement database)
    (atZero : statement.isSome = true → depth = 0)
    {levels : List D} (isOn : LevelsOn Grounded database levels)
    (height : levels.length = depth) {changes : Nat}
    (ran : meaning.performSql (statement.getD (.transaction (beginAnsiTransactionSql depth)))
      database = .ok ([], changes, changed)) :
    changed.content = database.content ∧
      LevelsOn Grounded changed (database.content :: levels) := by
  cases statement with
  | none =>
      rcases begin_on (.inl rfl) isOn with ⟨begun, performed, facts⟩
      rw [height] at performed
      have same : begun = changed :=
        Except.ok.inj (performed.symm.trans (TransactionSql.perform_of_outcome ran))
      exact same ▸ facts
  | some sql =>
      rw [atZero rfl] at height
      rw [List.length_eq_zero_iff.mp height] at isOn ⊢
      exact (starts sql changes changed rfl ran).firstLevel isOn ran

/-- A world before a begin, with the database that the queue leaves to it. -/
structure Beginning (meaning : Meaning D) (statement : Option SqlStr) (kept : D)
    (world : World (Sqlite D)) : Prop where
  restoring : Restoring kept world
  starts : StartsOn meaning statement
    (clearPendingRollback (sqlite meaning) world).2.engine.database

theorem clearPendingRollback_beginning (meaning : Meaning D) (statement : Option SqlStr)
    (kept : D) :
    Meets (Beginning meaning statement kept) (clearPendingRollback (sqlite meaning))
      (Ending
        (fun world => Emptying kept [] world ∧ StartsOn meaning statement world.engine.database)
        (Protected kept)) := by
  intro world beginning
  have ended := clearPendingRollback_protects meaning kept world beginning.restoring
  have starts := beginning.starts
  cases cleared : clearPendingRollback (sqlite meaning) world with
  | mk outcome reached =>
      rw [cleared] at ended starts
      cases outcome with
      | returned value => exact ⟨ended, starts⟩
      | failed error => exact ended
      | dropped => exact ended

variable (meaning) in
/-- A begin that returns at depth one has found the kept content. -/
theorem begin_protects (statement : Option SqlStr) (kept : D) :
    Meets (Beginning meaning statement kept)
      (TursoTransactionManager.begin (sqlite meaning) statement)
      (Ending
        (fun world => Protected kept world ∧
          (world.depth = 1 → world.engine.database.content = kept))
        (Protected kept)) := by
  refine Meets.bindEnding (clearPendingRollback_beginning meaning statement kept) fun _ =>
    Meets.read fun depth => ?_
  split
  next => exact Meets.fail fun world atWorld => atWorld.1.1.isProtected
  next allowed =>
    have atZero : statement.isSome = true → depth = 0 := fun custom => by
      by_contra nested
      exact allowed ⟨custom, Nat.pos_of_ne_zero nested⟩
    apply executeStep_protects fun world atWorld => atWorld.1.1
    rintro world state changes ⟨⟨emptying, starts⟩, isDepth⟩ never performed
    obtain ⟨levels, height, isOn⟩ := emptying.levels
    obtain ⟨content, isOn'⟩ :=
      beginStatement_on starts atZero isOn (height.trans isDepth) performed
    have closes : state.database.closed = kept := (isOn.closed_cons isOn').trans emptying.closes
    refine ⟨⟨emptying.cache, never, fun _ => ?_, fun _ => ?_, fun _ => closes⟩, ?_⟩
    · rcases isOn'.cons with ⟨transaction, _, _, isOpen, _⟩
      exact Option.isSome_iff_exists.mpr ⟨transaction, isOpen⟩
    · exact ⟨0, _, emptying.rest, congrArg (· + 1) height, isOn'⟩
    · intro outermost
      have atBottom : world.depth = 0 := Nat.succ.inj outermost
      exact content.trans (emptying.outermost atBottom).2

/-- Finishing a level leaves the ones below it as they were. -/
theorem finish_protects {sql : Nat → TransactionSql} (kept : D)
    (performs : ∀ (database : Database D) snapshot levels,
      LevelsOn Grounded database (snapshot :: levels) →
      ∃ changed, (sql (levels.length + 1)).perform database = .ok changed ∧
        LevelsOn Grounded changed levels) :
    Meets (Restoring kept) (TursoTransactionManager.finish (sqlite meaning) sql)
      (Ending (Protected kept) (Protected kept)) := by
  refine Meets.bindEnding (clearPendingRollback_protects meaning kept) fun _ =>
    Meets.read fun depth => ?_
  cases depth with
  | zero => exact Meets.pure fun world atWorld => atWorld.1.isProtected
  | succ depth =>
      rw [if_neg (Nat.succ_ne_zero depth)]
      apply executeStep_protects fun world atWorld => atWorld.1
      rintro world state changes ⟨emptying, isDepth⟩ never performed
      obtain ⟨levels, height, isOn⟩ := emptying.levels
      cases levels with
      | nil => cases height.trans isDepth
      | cons snapshot levels =>
          have below : levels.length = depth := Nat.succ.inj (height.trans isDepth)
          have lowered : world.transactionState.decrementDepth.depth = depth := by
            rw [TransactionState.decrementDepth_depth]
            exact congrArg Nat.pred isDepth
          obtain ⟨changed, isOk, isOn'⟩ := performs _ snapshot levels isOn
          rw [below] at isOk
          have same : changed = state.database :=
            Except.ok.inj (isOk.symm.trans (TransactionSql.perform_of_outcome performed))
          rw [same] at isOn'
          have standing : Standing
              ((world.send (.execute (.transaction (sql (depth + 1)))) .done
                state).onTransaction TransactionState.decrementDepth) :=
            ⟨0, levels, world.transactionState.decrementDepth_pending.trans emptying.rest,
              below.trans lowered.symm, isOn'⟩
          refine ⟨emptying.cache, never, standing.isOpen, fun _ => standing, ?_⟩
          intro counted
          cases levels with
          | nil =>
              have counted' : 1 ≤ world.transactionState.decrementDepth.depth := counted
              rw [lowered, ← below] at counted'
              cases counted'
          | cons next levels => exact (isOn'.closed_cons_cons isOn).symm.trans emptying.closes

theorem commit_protects (kept : D) :
    Meets (Restoring kept) (TursoTransactionManager.commit (sqlite meaning))
      (Ending (Protected kept) (Protected kept)) := by
  apply finish_protects kept
  intro database snapshot levels isOn
  rcases commit_on (fun _ _ grounded => grounded) isOn with ⟨committed, performed, _, isOn'⟩
  exact ⟨committed, performed, isOn'⟩

theorem rollback_protects (kept : D) :
    Meets (Restoring kept) (TursoTransactionManager.rollback (sqlite meaning))
      (Ending (Protected kept) (Protected kept)) := by
  apply finish_protects kept
  intro database snapshot levels isOn
  rcases rollback_on isOn with ⟨restored, performed, _, isOn'⟩
  exact ⟨restored, performed, isOn'⟩

theorem Protected.indifferent (kept : D) : Indifferent (Protected kept) where
  cache _ isProtected := isProtected.cache
  send world state request status isProtected passes := by
    refine ⟨isProtected.cache, ?_, fun counted => ?_, fun sound => ?_, fun counted => ?_⟩
    · exact fun verdict inScript => isProtected.never verdict (passes.script.subset inScript)
    · have isOpen := isProtected.isOpen counted
      rw [← passes.transaction] at isOpen
      exact isOpen
    · rcases isProtected.standing sound with ⟨count, levels, isPending, height, isOn⟩
      exact ⟨count, levels, isPending, height, isOn.of_same passes.transaction⟩
    · exact (Database.closed_of_same passes.transaction (isProtected.isOpen counted)).trans
        (isProtected.closes counted)
  onConnection world change isProtected same cache := by
    have sameState : (world.onConnection change).transactionState =
      world.transactionState := same
    have sameDepth : (world.onConnection change).depth = world.depth :=
      congrArg TransactionState.depth sameState
    have samePending : (world.onConnection change).pending = world.pending :=
      congrArg TransactionState.pendingRollbackDepths sameState
    have sameFailed : (world.onConnection change).failed = world.failed :=
      congrArg TransactionState.rollbackFailed sameState
    refine ⟨cache, isProtected.never, ?_, ?_, ?_⟩
    · rw [sameDepth]
      exact isProtected.isOpen
    · rw [sameFailed, Standing, sameDepth, samePending]
      exact isProtected.standing
    · rw [sameDepth]
      exact isProtected.closes

theorem fetchMany_protects {query : Query} (noSql : NoTransactionSql meaning query.sql)
    (kept : D) :
    Meets (Restoring kept) (fetchMany (sqlite meaning) query)
      (Ending (Protected kept) (Protected kept)) := by
  rw [fetchMany]
  cases query.arguments with
  | error error => exact Meets.fail fun world restoring => restoring.isProtected
  | ok arguments =>
      dsimp only
      rw [fetchManySql_eq]
      refine Meets.bindEnding (clearPendingRollback_protects meaning kept) fun _ => ?_
      refine ((Protected.indifferent kept).fetchCleared noSql query.persistent arguments).mono
        (fun _ emptying => emptying.isProtected) ?_
      intro outcome world isProtected
      cases outcome <;> exact isProtected

/-- Dropping a handle queues its rollback and sends nothing. -/
theorem startRollback_protects {kept : D} {world : World (Sqlite D)}
    (isProtected : Protected kept world) :
    Protected kept (TursoTransactionManager.startRollback world).2 := by
  have lower : (TursoTransactionManager.startRollback world).2.depth = world.depth - 1 :=
    TransactionState.markRollbackNeeded_depth _
  refine ⟨isProtected.cache, isProtected.never, fun counted => ?_, fun sound => ?_,
    fun counted => ?_⟩
  · rw [lower] at counted
    exact isProtected.isOpen (Nat.le_trans counted (Nat.sub_le _ _))
  · have wasSound : world.failed = false :=
      (TransactionState.markRollbackNeeded_failed _).symm.trans sound
    rcases isProtected.standing wasSound with ⟨count, levels, isPending, height, isOn⟩
    obtain ⟨more, isPending', same⟩ :=
      world.transactionState.markRollbackNeeded_levels isPending
    exact ⟨more, levels, isPending', height.trans same.symm, isOn⟩
  · rw [lower] at counted
    exact isProtected.closes (Nat.le_trans counted (Nat.sub_le _ _))

namespace Operation

/-- The operations whose own texts hold no transaction statement, and where a begin is given
a text that starts a transaction if it is executed at all. -/
def StartsOnly (meaning : Meaning D) (world : World (Sqlite D)) : Operation → Prop
  | begin statement =>
      StartsOn meaning statement (clearPendingRollback (sqlite meaning) world).2.engine.database
  | fetchMany query => NoTransactionSql meaning query.sql
  | fetchOptional query => NoTransactionSql meaning query.sql
  | _ => True

theorem protects {operation : Operation} {kept : D} {world : World (Sqlite D)}
    (restoring : Restoring kept world) (starts : operation.StartsOnly meaning world) :
    Protected kept (operation.run (sqlite meaning) world).2 := by
  have always : ∀ {α : Type} {before : World (Sqlite D) → Prop} {program : Program (Sqlite D) α},
      Meets before program (Ending (Protected kept) (Protected kept)) →
      Meets before program fun _ world => Protected kept world := by
    intro α before program meets
    refine meets.imp ?_
    intro outcome world ended
    cases outcome <;> exact ended
  have prepared : ∀ sql : String, Meets (Restoring kept) (prepareSql (sqlite meaning) sql)
      fun _ world => Protected kept world := fun sql =>
    ((Protected.indifferent kept).prepareSql sql).mono
      (fun _ restoring => restoring.isProtected) fun _ _ ended => ended.1
  cases operation with
  | begin statement =>
      have begins := (begin_protects meaning statement kept).impEnding
        (fun _ begun => begun.1) fun _ ended => ended
      exact always begins world ⟨restoring, starts⟩
  | commit => exact always (commit_protects kept) world restoring
  | rollback => exact always (rollback_protects kept) world restoring
  | fetchMany query =>
      exact Meets.bindAlways (always (fetchMany_protects starts kept)) (fun _ =>
        Meets.pure fun _ isProtected => isProtected) world restoring
  | fetchOptional query =>
      refine Meets.bindAlways (Meets.bindAlways (always (fetchMany_protects starts kept))
        fun stream => ?_) (fun _ => Meets.pure fun _ isProtected => isProtected) world restoring
      cases stream.firstRow with
      | ok row => exact Meets.pure fun _ isProtected => isProtected
      | error error => exact Meets.fail fun _ isProtected => isProtected
  | prepareWith sql =>
      exact Meets.bindAlways (prepared sql) (fun _ => Meets.pure fun _ isProtected => isProtected)
        world restoring
  | describe sql =>
      exact Meets.bindAlways (Meets.bindAlways (prepared sql) fun _ =>
        Meets.pure fun _ isProtected => isProtected) (fun _ =>
        Meets.pure fun _ isProtected => isProtected) world restoring
  | ping => exact restoring.isProtected

end Operation

/-! ## Runs -/

/-- The worlds that a connection reaches under any script that drops no future, by
operations whose executed begins start transactions and by dropped handles. -/
inductive Opened (meaning : Meaning D) : World (Sqlite D) → Prop where
  | fresh (caches : StatementCaches) (content : D) (capacity : Nat) (script : List Verdict) :
      (∀ verdict ∈ script, verdict.drops = false) →
      Opened meaning
        { connection := { statements := { caches, capacity } }
          engine := { database := { content }, script } }
  | operate {world} (operation : Operation) :
      Opened meaning world → operation.StartsOnly meaning world →
      Opened meaning (operation.run (sqlite meaning) world).2
  | drop {world} :
      Opened meaning world → Opened meaning (TursoTransactionManager.startRollback world).2

theorem Opened.isProtected {world : World (Sqlite D)} (opened : Opened meaning world) :
    ∃ kept, Protected kept world := by
  induction opened with
  | fresh caches content capacity script never =>
      refine ⟨content, .fresh caches capacity, never, nofun, fun _ => ⟨0, [], rfl, rfl, rfl⟩, nofun⟩
  | operate operation _ starts ih =>
      obtain ⟨kept, isProtected⟩ := ih
      exact ⟨_, operation.protects isProtected.restoring starts⟩
  | drop _ ih =>
      obtain ⟨kept, isProtected⟩ := ih
      exact ⟨kept, startRollback_protects isProtected⟩

/-- The worlds that are reached through the handle of a begin at depth zero, as long as it
is neither finished nor dropped, with the content that the handle began with. -/
inductive Through (meaning : Meaning D) : D → World (Sqlite D) → Prop where
  | begun {world begun : World (Sqlite D)} (statement : Option SqlStr) :
      Opened meaning world → world.depth = 0 →
      (Operation.begin statement).StartsOnly meaning world →
      TursoTransactionManager.begin (sqlite meaning) statement world = (.returned (), begun) →
      Through meaning begun.engine.database.content begun
  | operate {content world} (operation : Operation) :
      Through meaning content world → operation.StartsOnly meaning world →
      1 ≤ (operation.run (sqlite meaning) world).2.depth →
      Through meaning content (operation.run (sqlite meaning) world).2
  | drop {content world} :
      Through meaning content world →
      1 ≤ (TursoTransactionManager.startRollback world).2.depth →
      Through meaning content (TursoTransactionManager.startRollback world).2

theorem Through.isProtected {content : D} {world : World (Sqlite D)}
    (through : Through meaning content world) : 1 ≤ world.depth ∧ Protected content world := by
  induction through with
  | @begun world begun statement opened outermost starts isBegun =>
      obtain ⟨kept, isProtected⟩ := opened.isProtected
      have isFirst : begun.depth = 1 := by
        have meets : Meets (· = world)
            (TursoTransactionManager.begin (sqlite meaning) statement) _ := begin_depth world
        have returns := meets world rfl
        rw [isBegun, outermost] at returns
        exact returns rfl
      have ended := begin_protects meaning statement _ world ⟨isProtected.restoring, starts⟩
      rw [isBegun] at ended
      rw [ended.2 isFirst]
      exact ⟨Nat.le_of_eq isFirst.symm, ended.1⟩
  | operate operation _ starts counted ih =>
      have restoring := ih.2.restoring
      rw [ih.2.closes ih.1] at restoring
      exact ⟨counted, operation.protects restoring starts⟩
  | drop _ counted ih => exact ⟨counted, startRollback_protects ih.2⟩

/-- What the handle of a begin promises: there is a transaction, a closed database is as it
was before, and so is the content when the handle is dropped and the queue is cleared.  An
engine that refuses nothing clears it. -/
structure Undone (meaning : Meaning D) (content : D) (world : World (Sqlite D)) : Prop where
  isOpen : world.engine.database.transaction.isSome = true
  closes : world.engine.database.closed = content
  restores : world.depth = 1 → ∀ cleared,
    clearPendingRollback (sqlite meaning) (TursoTransactionManager.startRollback world).2 =
      (.returned (), cleared) → cleared.engine.database.content = content
  clears : world.failed = false →
    (clearPendingRollback (sqlite meaning)
      (TursoTransactionManager.startRollback world).2.accepting).1 = .returned ()

theorem Through.undone {content : D} {world : World (Sqlite D)}
    (through : Through meaning content world) : Undone meaning content world := by
  obtain ⟨counted, isProtected⟩ := through.isProtected
  have dropped := startRollback_protects isProtected
  have closes : world.engine.database.closed = content := isProtected.closes counted
  refine ⟨isProtected.isOpen counted, closes, ?_, ?_⟩
  · intro isFirst cleared isCleared
    have ended := clearPendingRollback_protects meaning content _ ⟨dropped, closes⟩
    rw [isCleared] at ended
    have isOutermost : cleared.depth = 0 := by
      rw [(Cleared.of_returned isCleared).sameDepth]
      exact (TransactionState.markRollbackNeeded_depth _).trans (congrArg Nat.pred isFirst)
    exact (Emptying.outermost ended isOutermost).2
  · intro sound
    have dropSound : (TursoTransactionManager.startRollback world).2.failed = false :=
      (TransactionState.markRollbackNeeded_failed _).trans sound
    have emptying : Emptying content (TursoTransactionManager.startRollback world).2.pending
        (TursoTransactionManager.startRollback world).2.accepting :=
      ⟨dropped.cache, fun _ inEmpty => absurd inEmpty List.not_mem_nil, dropSound, rfl,
        dropped.standing dropSound, closes⟩
    exact ((Emptying.performs content).clearPendingRollback
      (TursoTransactionManager.startRollback world).2.accepting ⟨dropSound, emptying, rfl⟩).1

/-- A begin with a text that runs really begins if and only if the text starts a transaction
or hands out a row.  In every run whose executed begins start one, counted levels are open
ones and what is written through a handle is undone; a text that neither starts one nor
hands out a row gives a counted level without a transaction there. -/
theorem custom_begin_begins_iff (meaning : Meaning D) :
    (∀ sql rows world, Executes meaning sql rows world →
      (ReallyBegins meaning sql world ↔ StartsTransaction meaning sql ∨ rows ≠ [])) ∧
    (∀ world, Opened meaning world →
      (1 ≤ world.depth → world.engine.database.transaction.isSome = true) ∧
      ∀ sql, Executes meaning sql [] world → ¬StartsTransaction meaning sql →
        ∃ begun, TursoTransactionManager.begin (sqlite meaning) (some sql) world =
            (.returned (), begun) ∧
          begun.depth = 1 ∧ begun.engine.database.transaction = none) ∧
    ∀ content world, Through meaning content world → Undone meaning content world := by
  refine ⟨fun sql rows world => reallyBegins_iff, ?_, fun content world => Through.undone⟩
  intro world opened
  obtain ⟨kept, isProtected⟩ := opened.isProtected
  refine ⟨isProtected.isOpen, ?_⟩
  intro sql executes startsNone
  obtain ⟨cleared, begun, changes, isCleared, outermost, isBegun, isFirst, performed⟩ :=
    executes.begin
  have ended := clearPendingRollback_protects meaning _ _ isProtected.restoring
  rw [isCleared] at ended
  have closed := (Emptying.outermost ended outermost).1
  exact ⟨begun, isBegun, isFirst, startsNone_leavesClosed startsNone closed performed⟩

/-- A database that counts its statements and knows one more begin. -/
def immediateCounter : Meaning Nat :=
  { counter with
    controls := fun statement => if statement = "BEGIN IMMEDIATE" then some .begin else none }

/-- The handle of a begin, and an insert that is written through it. -/
def writtenThrough (meaning : Meaning Nat) (sql : String) : World (Sqlite Nat) :=
  let begun := ((Operation.begin (some (.text sql))).run (sqlite meaning) (freshCounter [])).2
  ((Operation.fetchMany { sql := "INSERT INTO test VALUES (1)" }).run (sqlite meaning) begun).2

/-- The content after such a handle is dropped and the queue is cleared. -/
def contentAfterDrop (meaning : Meaning Nat) (sql : String) : Nat :=
  (clearPendingRollback (sqlite meaning)
    (TursoTransactionManager.startRollback (writtenThrough meaning sql)).2).2
    |>.engine.database.content

theorem immediate_insert_is_undone :
    ReallyBegins immediateCounter (.text "BEGIN IMMEDIATE") (freshCounter []) ∧
      (writtenThrough immediateCounter "BEGIN IMMEDIATE").engine.database.content = 8 ∧
      contentAfterDrop immediateCounter "BEGIN IMMEDIATE" = 7 := by
  obtain ⟨begins, -, undone⟩ := custom_begin_begins_iff immediateCounter
  have isCommand : immediateCounter.command (firstStatement "BEGIN IMMEDIATE") = some .begin := by
    decide
  have starts : StartsTransaction immediateCounter (.text "BEGIN IMMEDIATE") :=
    ⟨.begin, isCommand, rfl⟩
  have executes : Executes immediateCounter (.text "BEGIN IMMEDIATE") [] (freshCounter []) :=
    ⟨rfl, _, _, _, rfl, rfl, rfl⟩
  have noSql : NoTransactionSql immediateCounter "INSERT INTO test VALUES (1)" :=
    ⟨by decide, by decide⟩
  have through : Through immediateCounter 7 (writtenThrough immediateCounter "BEGIN IMMEDIATE") :=
    .operate (.fetchMany { sql := "INSERT INTO test VALUES (1)" })
      (.begun (some (.text "BEGIN IMMEDIATE")) (.fresh .roomy 7 100 [] nofun) rfl
        (fun _ _ _ isText _ => Option.some.inj isText ▸ starts) rfl) noSql (by decide)
  exact ⟨(begins _ _ _ executes).mpr (.inl starts), by decide,
    (undone 7 _ through).restores (by decide) _ rfl⟩

/-- An insert that the engine executes begins nothing: the begin succeeds, the depth is one
without a transaction, and both inserts stay. -/
theorem insert_begins_nothing :
    Executes counter (.text "INSERT INTO test VALUES (0)") [] (freshCounter []) ∧
      ¬ReallyBegins counter (.text "INSERT INTO test VALUES (0)") (freshCounter []) ∧
      (writtenThrough counter "INSERT INTO test VALUES (0)").depth = 1 ∧
      (writtenThrough counter "INSERT INTO test VALUES (0)").engine.database.transaction =
        none ∧
      (writtenThrough counter "INSERT INTO test VALUES (0)").engine.database.content = 9 ∧
      contentAfterDrop counter "INSERT INTO test VALUES (0)" = 9 := by
  have executes :
      Executes counter (.text "INSERT INTO test VALUES (0)") [] (freshCounter []) :=
    ⟨rfl, _, _, _, rfl, rfl, rfl⟩
  refine ⟨executes, fun begins => ?_, by decide, rfl, by decide, by decide⟩
  rcases (reallyBegins_iff executes).mp begins with ⟨command, isCommand, _⟩ | noRow
  · cases isCommand
  · exact noRow rfl

end SqlxTurso
