import SqlxTurso.Connection.Execution
import SqlxTurso.Migrate.Apply

/-!
# Migrations are all or nothing

A migration in a transaction leaves its whole effect together with its row in the
migrations table, or neither of them.  A handle that is dropped only queues its
rollback, so this is told of the content once the queue is cleared, which is also
what a closed connection leaves behind.
-/

namespace SqlxTurso

open Library Async Sql

variable {D : Type} {meaning : Meaning D}

/-! ## The parts of a migration -/

section Rows

variable (tableName : SqliteIdentifierPath) (migration : Migration)

theorem insertRow_eq (success : Bool) :
    insertRow tableName migration success =
      { sql := insertRowSql tableName
        arguments := .ok (some ⟨[.integer migration.version, .text migration.description,
          .integer (if success then 1 else 0), .blob migration.checksum]⟩) } := rfl

theorem deleteRow_eq :
    deleteRow tableName migration =
      { sql := deleteRowSql tableName
        arguments := .ok (some ⟨[.integer migration.version]⟩) } := rfl

theorem updateTime_eq (elapsed : Nat) :
    updateTime tableName migration elapsed =
      { sql := updateTimeSql tableName
        arguments := .ok (some ⟨[.integer (Int64.ofNat elapsed),
          .integer migration.version]⟩) } := rfl

end Rows

/-- No statement on the migrations table is a transaction statement. -/
structure PlainLedger (meaning : Meaning D) (tableName : SqliteIdentifierPath) : Prop where
  insert : meaning.command (firstStatement (insertRowSql tableName)) = none
  delete : meaning.command (firstStatement (deleteRowSql tableName)) = none
  update : meaning.command (firstStatement (updateTimeSql tableName)) = none

/-- No statement of the migration is a transaction statement. -/
def Migration.Plain (meaning : Meaning D) (migration : Migration) : Prop :=
  ∀ statement ∈ statementsOf migration.sql, meaning.command statement = none

namespace Migration

/-- The effect of the text of a migration, and the change of the table that goes with
it. -/
def change (meaning : Meaning D) (migration : Migration) (row : Query) (content : D) :
    Option D :=
  (textChange meaning migration.sql content).bind (row.change meaning)

end Migration

section Parts

variable {tableName : SqliteIdentifierPath} {migration : Migration}

theorem executeSql_changes (plain : migration.Plain meaning) (model : Snapshots D) :
    Meets (Refines · model) (executeSql (sqlite meaning) migration)
      (Ending (Changed (textChange meaning migration.sql) model) (Rewritten model)) :=
  Meets.bindEnding (Meets.mapErrorEnding ((execute_text model plain).impEnding
    (fun _ changed => changed) fun _ => Interrupted.rewritten)) fun _ => Meets.pureEnding _

/-- A statement on the migrations table. -/
theorem migrating_changes {query : Query} {sql : String} {arguments : TursoArguments}
    (isQuery : query = { sql, arguments := .ok (some arguments) })
    (noCommand : meaning.command (firstStatement sql) = none) (model : Snapshots D) :
    Meets (Refines · model) (migrating (execute (sqlite meaning) query))
      (Ending (Changed (query.change meaning) model)
        (ChangedOrNot (query.change meaning) model)) := by
  subst isQuery
  exact Meets.mapErrorEnding (execute_bound model rfl noCommand)

theorem insertMigrationRow_changes (ledger : PlainLedger meaning tableName) (success : Bool)
    (model : Snapshots D) :
    Meets (Refines · model) (insertMigrationRow (sqlite meaning) tableName migration success)
      (Ending (Changed ((insertRow tableName migration success).change meaning) model)
        (ChangedOrNot ((insertRow tableName migration success).change meaning) model)) :=
  Meets.bindEnding
    (migrating_changes (insertRow_eq tableName migration success) ledger.insert model)
    fun _ => Meets.pureEnding _

/-- The text of a migration, followed by a statement on the migrations table. -/
theorem thenRow_changes {row : MigrateProgram (Sqlite D) Unit} {query : Query}
    (plain : migration.Plain meaning)
    (rowMeets : ∀ model, Meets (Refines · model) row
      (Ending (Changed (query.change meaning) model)
        (ChangedOrNot (query.change meaning) model)))
    (model : Snapshots D) :
    Meets (Refines · model) (executeSql (sqlite meaning) migration >>= fun _ => row)
      (Ending (Changed (migration.change meaning query) model) (Rewritten model)) := by
  refine Meets.bindEnding (executeSql_changes plain model) fun _ => ?_
  rintro world ⟨content, isContent, refines⟩
  refine (rowMeets (model.write content)).impEnding ?_ ?_ world refines
  · rintro world ⟨last, isLast, refines⟩
    refine ⟨last, ?_, refines⟩
    rw [Migration.change, isContent]
    exact isLast
  · exact fun world changedOrNot => changedOrNot.rewritten.imp fun _ refines => refines

theorem executeMigration_changes (ledger : PlainLedger meaning tableName)
    (plain : migration.Plain meaning) (model : Snapshots D) :
    Meets (Refines · model) (executeMigration (sqlite meaning) tableName migration)
      (Ending (Changed (migration.change meaning (insertRow tableName migration true)) model)
        (Rewritten model)) :=
  thenRow_changes plain (insertMigrationRow_changes ledger true) model

theorem revertMigration_changes (ledger : PlainLedger meaning tableName)
    (plain : migration.Plain meaning) (model : Snapshots D) :
    Meets (Refines · model) (revertMigration (sqlite meaning) tableName migration)
      (Ending (Changed (migration.change meaning (deleteRow tableName migration)) model)
        (Rewritten model)) :=
  thenRow_changes plain (fun model => Meets.bindEnding
    (migrating_changes (deleteRow_eq tableName migration) ledger.delete model)
    fun _ => Meets.pureEnding _) model

end Parts

/-! ## Transactions -/

section Transactions

variable {model : Snapshots D} {change : D → Option D}

theorem begin_ending :
    Meets (Refines · model) (migrating (TursoTransactionManager.begin (sqlite meaning) none))
      (Ending (Refines · model.begin) (Refines · model)) := by
  refine Meets.mapErrorEnding ((begin_refines model).imp ?_)
  intro outcome world ended
  cases outcome <;> exact ended

/-- A commit that is refused leaves the transaction open. -/
theorem commit_ending :
    Meets (Changed change model.begin)
      (migrating (TursoTransactionManager.commit (sqlite meaning)))
      (Ending (Changed change model) (Rewritten model.begin)) := by
  apply Meets.mapErrorEnding
  rintro world ⟨content, isContent, refines⟩
  have ended : Refines (TursoTransactionManager.commit (sqlite meaning) world).2 _ :=
    commit_refines (model.begin.write content) world refines
  cases outcome : (TursoTransactionManager.commit (sqlite meaning) world).1 with
  | returned _ =>
      rw [outcome] at ended
      exact ⟨content, isContent, ended⟩
  | failed _ =>
      rw [outcome] at ended
      exact ⟨content, ended⟩
  | dropped =>
      rw [outcome] at ended
      exact ⟨content, ended⟩

/-- Dropping the handle brings back what was there before the transaction, whatever was
written since. -/
theorem dropHandle_refines (world : World (Sqlite D)) (rewritten : Rewritten model.begin world) :
    Refines (world.onTransaction TransactionState.markRollbackNeeded) model := by
  rcases rewritten with ⟨content, refines⟩
  exact startRollback_refines refines

theorem inTransaction_changes {body : MigrateProgram (Sqlite D) Unit}
    (bodyMeets : Meets (Refines · model.begin) body
      (Ending (Changed change model.begin) (Rewritten model.begin))) :
    Meets (Refines · model) (inTransaction (sqlite meaning) body) fun outcome world =>
      match outcome with
      | .returned (.ok _) => Changed change model world
      | _ => Refines world model := by
  refine Meets.bind (fun _ => (Refines · model.begin)) (begin_ending.imp ?_)
    fun _ => Meets.unlessReturned ?_
  · intro outcome world ended
    cases outcome <;> exact ended
  · refine Meets.bind (Resulting (Changed change model.begin) (Rewritten model.begin)) ?_
      fun result => ?_
    · refine Meets.result (bodyMeets.imp ?_)
      intro outcome world ended
      cases outcome with
      | returned _ => exact ended
      | failed _ => exact ended
      | dropped => exact dropHandle_refines world ended
    · cases result with
      | ok _ =>
          refine Meets.bind (fun _ => Changed change model) (commit_ending.imp ?_)
            fun _ => Meets.pure fun _ changed => changed
          intro outcome world ended
          cases outcome with
          | returned _ => exact ended
          | failed _ => exact dropHandle_refines world ended
          | dropped => exact dropHandle_refines world ended
      | error _ => exact dropHandle_refines

end Transactions

/-! ## All or nothing -/

/-- The content after a migration was applied: the effect of its text with its row in the
table, whose time may have been updated. -/
def Applied (meaning : Meaning D) (tableName : String) (migration : Migration)
    (elapsed : Nat) (before after : D) : Prop :=
  ∃ path recorded, SqliteIdentifierPath.parse tableName = .ok path ∧
    migration.change meaning (insertRow path migration true) before = some recorded ∧
    (after = recorded ∨
      (updateTime path migration elapsed).change meaning recorded = some after)

/-- The content after a migration was not applied: nothing of its effect, and at most
the row of a failure. -/
def NotApplied (meaning : Meaning D) (tableName : String) (migration : Migration)
    (before after : D) : Prop :=
  after = before ∨ ∃ path, SqliteIdentifierPath.parse tableName = .ok path ∧
    (insertRow path migration false).change meaning before = some after

section Apply

variable {path : SqliteIdentifierPath} {tableName : String} {migration : Migration}
  (model : Snapshots D)

/-- The world after an `apply` that returned. -/
def AfterApply (meaning : Meaning D) (tableName : String) (migration : Migration)
    (elapsed : Nat) (model : Snapshots D) (world : World (Sqlite D)) : Prop :=
  ∃ after, Refines world (model.write after) ∧
    Applied meaning tableName migration elapsed model.current after

/-- The world after an `apply` that did not return. -/
def AfterFailedApply (meaning : Meaning D) (tableName : String) (migration : Migration)
    (elapsed : Nat) (model : Snapshots D) (world : World (Sqlite D)) : Prop :=
  ∃ after, Refines world (model.write after) ∧
    (Applied meaning tableName migration elapsed model.current after ∨
      NotApplied meaning tableName migration model.current after)

theorem AfterFailedApply.of_unchanged {elapsed : Nat} {model : Snapshots D}
    {world : World (Sqlite D)} (refines : Refines world model) :
    AfterFailedApply meaning tableName migration elapsed model world :=
  ⟨model.current, refines, .inr (.inl rfl)⟩

theorem recordFailure_changes (ledger : PlainLedger meaning path)
    (parsed : SqliteIdentifierPath.parse tableName = .ok path) (elapsed : Nat)
    (error : MigrateError) :
    Meets (Refines · model) (recordApply (sqlite meaning) path migration elapsed (.error error))
      (Ending (AfterApply meaning tableName migration elapsed model)
        (AfterFailedApply meaning tableName migration elapsed model)) := by
  have recorded : ∀ world : World (Sqlite D),
      Changed ((insertRow path migration false).change meaning) model world →
      AfterFailedApply meaning tableName migration elapsed model world :=
    fun world ⟨content, isContent, refines⟩ =>
      ⟨content, refines, .inr (.inr ⟨path, parsed, isContent⟩)⟩
  refine Meets.bindEnding ((insertMigrationRow_changes ledger false model).impEnding
    recorded ?_) fun _ => Meets.failEnding error
  rintro world (unchanged | changed)
  · exact .of_unchanged unchanged
  · exact recorded world changed

theorem recordSuccess_changes (ledger : PlainLedger meaning path)
    (parsed : SqliteIdentifierPath.parse tableName = .ok path) (elapsed : Nat) :
    Meets (Changed (migration.change meaning (insertRow path migration true)) model)
      (recordApply (sqlite meaning) path migration elapsed (.ok ()))
      (Ending (AfterApply meaning tableName migration elapsed model)
        (AfterFailedApply meaning tableName migration elapsed model)) := by
  rintro world ⟨recorded, isRecorded, refines⟩
  have updated : ∀ world : World (Sqlite D),
      Changed ((updateTime path migration elapsed).change meaning) (model.write recorded) world →
      AfterApply meaning tableName migration elapsed model world :=
    fun world ⟨last, isLast, refines⟩ =>
      ⟨last, refines, path, recorded, parsed, isRecorded, .inr isLast⟩
  refine Meets.bindEnding ((migrating_changes (updateTime_eq path migration elapsed)
    ledger.update (model.write recorded)).impEnding updated ?_)
    (fun _ => Meets.pureEnding elapsed) world refines
  rintro world (unchanged | changed)
  · exact ⟨recorded, unchanged, .inl ⟨path, recorded, parsed, isRecorded, .inl rfl⟩⟩
  · obtain ⟨last, refines, applied⟩ := updated world changed
    exact ⟨last, refines, .inl applied⟩

theorem apply_changes (plain : migration.Plain meaning)
    (transactional : migration.noTx = false) (elapsed : Nat)
    (ledger : ∀ path, SqliteIdentifierPath.parse tableName = .ok path →
      PlainLedger meaning path) :
    Meets (Refines · model) (apply (sqlite meaning) tableName migration elapsed)
      (Ending (AfterApply meaning tableName migration elapsed model)
        (AfterFailedApply meaning tableName migration elapsed model)) := by
  unfold apply
  cases parsed : SqliteIdentifierPath.parse tableName with
  | error error => exact fun world refines => .of_unchanged refines
  | ok path =>
      refine Meets.bind (fun value world => path = value ∧ Refines world model)
        (fun _ refines => ⟨rfl, refines⟩) ?_
      rintro _ world ⟨rfl, refines⟩
      suffices applied : Meets (Refines · model)
          (executeApply (sqlite meaning) path migration >>=
            recordApply (sqlite meaning) path migration elapsed) _ from applied world refines
      refine Meets.bind (Resulting (Changed (migration.change meaning
        (insertRow path migration true)) model) (Refines · model)) ?_ fun result => ?_
      · rw [executeApply, transactional, if_neg Bool.false_ne_true]
        refine (inTransaction_changes (executeMigration_changes (ledger path parsed) plain
          _)).imp ?_
        intro outcome world ended
        cases outcome with
        | returned result =>
            cases result with
            | ok _ => exact ended
            | error _ => exact ended
        | failed _ => exact .of_unchanged ended
        | dropped => exact .of_unchanged ended
      · cases result with
        | error error => exact recordFailure_changes model (ledger path parsed) parsed elapsed error
        | ok _ => exact recordSuccess_changes model (ledger path parsed) parsed elapsed

/-- The content after a migration was reverted: the effect of its text, without its row in
the table. -/
def Reverted (meaning : Meaning D) (tableName : String) (migration : Migration)
    (before after : D) : Prop :=
  ∃ path, SqliteIdentifierPath.parse tableName = .ok path ∧
    migration.change meaning (deleteRow path migration) before = some after

theorem executeRevert_changes (ledger : PlainLedger meaning path)
    (plain : migration.Plain meaning) (transactional : migration.noTx = false) :
    Meets (Refines · model) (executeRevert (sqlite meaning) path migration)
      (Ending (Changed (migration.change meaning (deleteRow path migration)) model)
        (Refines · model)) := by
  rw [executeRevert, transactional, if_neg Bool.false_ne_true]
  exact Meets.bindEnding begin_ending fun _ => Meets.unlessReturnedEnding
    (Meets.bindEnding (revertMigration_changes ledger plain model.begin) fun _ => commit_ending)
    dropHandle_refines

theorem revert_changes (plain : migration.Plain meaning)
    (transactional : migration.noTx = false) (elapsed : Nat)
    (ledger : ∀ path, SqliteIdentifierPath.parse tableName = .ok path →
      PlainLedger meaning path) :
    Meets (Refines · model) (revert (sqlite meaning) tableName migration elapsed)
      (Ending (fun world => ∃ after, Refines world (model.write after) ∧
          Reverted meaning tableName migration model.current after)
        (Refines · model)) := by
  unfold revert
  cases parsed : SqliteIdentifierPath.parse tableName with
  | error error => exact fun world refines => refines
  | ok path =>
      refine Meets.bind (fun value world => path = value ∧ Refines world model)
        (fun _ refines => ⟨rfl, refines⟩) ?_
      rintro _ world ⟨rfl, refines⟩
      suffices reverted : Meets (Refines · model)
          (executeRevert (sqlite meaning) path migration >>= fun _ => pure elapsed) _ from
        reverted world refines
      refine Meets.bindEnding ((executeRevert_changes model (ledger path parsed) plain
        transactional).impEnding ?_ fun _ refines => refines)
        fun _ => Meets.pureEnding elapsed
      exact fun world ⟨after, isAfter, refines⟩ => ⟨after, refines, path, parsed, isAfter⟩

end Apply

/-! ## At depth zero -/

/-- A connection without an open handle.  The levels that are open at the engine are
those whose rollbacks are queued, unless a rollback has failed. -/
structure AtDepthZero (world : World (Sqlite D)) : Prop where
  depth : world.depth = 0
  cache : SoundCache world.connection.statements
  never : NeverDrops world.engine
  levels : world.failed = false → ∃ dropped,
    HasLevels world.engine.database dropped ∧ world.pending = levelsAbove 0 dropped.length

theorem Reaches.atDepthZero {world : World (Sqlite D)} {model : Snapshots D}
    (reached : Reaches meaning world model) (depth : world.depth = 0) : AtDepthZero world := by
  have refines := reached.refines
  refine ⟨depth, refines.cache, refines.never, fun sound => ?_⟩
  obtain ⟨dropped, linked⟩ := refines.linked sound
  have noneSaved : model.saved = [] := List.length_eq_zero_iff.mp (linked.depth.symm.trans depth)
  have levels := linked.levels
  have pending := linked.pending
  rw [noneSaved] at levels pending
  rw [List.append_nil] at levels
  exact ⟨dropped, levels, pending⟩

theorem AtDepthZero.refines {world : World (Sqlite D)} (start : AtDepthZero world)
    (sound : world.failed = false) :
    Refines world { current := world.engine.database.closed } := by
  obtain ⟨dropped, levels, pending⟩ := start.levels sound
  refine ⟨start.cache, start.never, fun _ => ⟨dropped, sound, ?_, start.depth, pending, ?_⟩, rfl⟩
  · rw [List.append_nil]
    exact levels
  · exact levels.closed

/-- What a connection leaves behind when it is closed, and what it holds when its queue
is cleared. -/
structure Leaves (meaning : Meaning D) (world : World (Sqlite D)) (content : D) : Prop where
  closed : world.engine.database.closed = content
  cleared : ∀ world', clearPendingRollback (sqlite meaning) world = (.returned (), world') →
    world'.engine.database.content = content

theorem Refines.leaves {world : World (Sqlite D)} {content : D}
    (refines : Refines world { current := content }) : Leaves meaning world content := by
  refine ⟨refines.closes, fun world' cleared => ?_⟩
  have agrees := clearPendingRollback_refines meaning _ world refines
  rw [cleared] at agrees
  exact agrees.current

section Failed

variable {σ : Type} {engine : Engine σ} {world : World σ} (failed : world.failed = true)

include failed

theorem clearPendingRollback_of_failed :
    clearPendingRollback engine world = (.failed .workerCrashed, world) := by
  unfold clearPendingRollback
  rw [bind_apply, read_apply]
  exact congrFun (if_pos failed) world

theorem begin_of_failed :
    migrating (TursoTransactionManager.begin engine none) world =
      (.failed (.execute .workerCrashed), world) := by
  unfold migrating mapError TursoTransactionManager.begin
  rw [bind_apply, clearPendingRollback_of_failed failed]
  rfl

/-- After a failed rollback no migration is begun. -/
theorem apply_of_failed (engine : Engine σ) {tableName : String} {migration : Migration}
    (transactional : migration.noTx = false) (elapsed : Nat) :
    ∃ error, apply engine tableName migration elapsed world = (.failed error, world) := by
  unfold apply
  cases SqliteIdentifierPath.parse tableName with
  | error error => exact ⟨error, rfl⟩
  | ok path =>
      refine ⟨.execute .workerCrashed, ?_⟩
      rw [bind_apply]
      change (executeApply engine path migration >>=
        recordApply engine path migration elapsed) world = _
      rw [bind_apply, executeApply, transactional, if_neg Bool.false_ne_true, inTransaction,
        bind_apply, begin_of_failed failed]

theorem revert_of_failed (engine : Engine σ) {tableName : String} {migration : Migration}
    (transactional : migration.noTx = false) (elapsed : Nat) :
    ∃ error, revert engine tableName migration elapsed world = (.failed error, world) := by
  unfold revert
  cases SqliteIdentifierPath.parse tableName with
  | error error => exact ⟨error, rfl⟩
  | ok path =>
      refine ⟨.execute .workerCrashed, ?_⟩
      rw [bind_apply]
      change (executeRevert engine path migration >>= fun _ => pure elapsed) world = _
      rw [bind_apply, executeRevert, transactional, if_neg Bool.false_ne_true, bind_apply,
        begin_of_failed failed]

end Failed

theorem Leaves.of_failed {world : World (Sqlite D)} (failed : world.failed = true) :
    Leaves meaning world world.engine.database.closed := by
  refine ⟨rfl, fun world' cleared => ?_⟩
  rw [clearPendingRollback_of_failed failed] at cleared
  cases cleared

/-- A function of the migrator leaves a content that is either done or undone, and a done
one if it returned. -/
def AllOrNothing (meaning : Meaning D) (ended : Outcome MigrateError Nat × World (Sqlite D))
    (done undone : D → Prop) : Prop :=
  ∃ content, Leaves meaning ended.2 content ∧ (done content ∨ undone content) ∧
    ∀ elapsed, ended.1 = .returned elapsed → done content

section AllOrNothing

variable {tableName : String} {migration : Migration} {world : World (Sqlite D)}
  (start : AtDepthZero world) (plain : migration.Plain meaning)
  (transactional : migration.noTx = false) (elapsed : Nat)
  (ledger : ∀ path, SqliteIdentifierPath.parse tableName = .ok path → PlainLedger meaning path)

include start plain transactional ledger

theorem apply_all_or_nothing :
    AllOrNothing meaning (apply (sqlite meaning) tableName migration elapsed world)
      (Applied meaning tableName migration elapsed world.engine.database.closed)
      (NotApplied meaning tableName migration world.engine.database.closed) := by
  cases sound : world.failed with
  | true =>
      obtain ⟨error, ended⟩ :=
        apply_of_failed sound (sqlite meaning) transactional elapsed
      rw [ended]
      exact ⟨_, .of_failed sound, .inr (.inl rfl), fun _ => nofun⟩
  | false =>
      have changes := apply_changes _ plain transactional elapsed ledger world
        (start.refines sound)
      unfold AllOrNothing
      cases outcome : (apply (sqlite meaning) tableName migration elapsed world).1 with
      | returned time =>
          rw [outcome] at changes
          rcases changes with ⟨after, refines, applied⟩
          exact ⟨after, refines.leaves, .inl applied, fun _ _ => applied⟩
      | failed error =>
          rw [outcome] at changes
          rcases changes with ⟨after, refines, either⟩
          exact ⟨after, refines.leaves, either, fun _ => nofun⟩
      | dropped =>
          rw [outcome] at changes
          rcases changes with ⟨after, refines, either⟩
          exact ⟨after, refines.leaves, either, fun _ => nofun⟩

theorem revert_all_or_nothing :
    AllOrNothing meaning (revert (sqlite meaning) tableName migration elapsed world)
      (Reverted meaning tableName migration world.engine.database.closed)
      (· = world.engine.database.closed) := by
  cases sound : world.failed with
  | true =>
      obtain ⟨error, ended⟩ :=
        revert_of_failed sound (sqlite meaning) transactional elapsed
      rw [ended]
      exact ⟨_, .of_failed sound, .inr rfl, fun _ => nofun⟩
  | false =>
      have changes := revert_changes _ plain transactional elapsed ledger world
        (start.refines sound)
      unfold AllOrNothing
      cases outcome : (revert (sqlite meaning) tableName migration elapsed world).1 with
      | returned time =>
          rw [outcome] at changes
          rcases changes with ⟨after, refines, reverted⟩
          exact ⟨after, refines.leaves, .inl reverted, fun _ _ => reverted⟩
      | failed error =>
          rw [outcome] at changes
          exact ⟨_, Refines.leaves changes, .inr rfl, fun _ => nofun⟩
      | dropped =>
          rw [outcome] at changes
          exact ⟨_, Refines.leaves changes, .inr rfl, fun _ => nofun⟩

/-- Whatever the engine refuses, applying and reverting are all or nothing. -/
theorem migrations_are_all_or_nothing :
    AllOrNothing meaning (apply (sqlite meaning) tableName migration elapsed world)
        (Applied meaning tableName migration elapsed world.engine.database.closed)
        (NotApplied meaning tableName migration world.engine.database.closed) ∧
      AllOrNothing meaning (revert (sqlite meaning) tableName migration elapsed world)
        (Reverted meaning tableName migration world.engine.database.closed)
        (· = world.engine.database.closed) :=
  ⟨apply_all_or_nothing start plain transactional elapsed ledger,
    revert_all_or_nothing start plain transactional elapsed ledger⟩

end AllOrNothing

/-- The begin and the rollback run, and so do the next three statements. -/
def lateRefusal : List Verdict :=
  [.run, .run, .run, .run, .run,
    .refuse { error := { variant := .busy, text := "database is locked" } }]

/-- A connection on which a transaction was begun and its handle dropped. -/
def beforeMigration : World (Sqlite Nat) :=
  Action.startRollback.perform counter (Action.begin.perform counter
    { connection := { statements := { caches := .roomy, capacity := 100 } }
      engine := { database := { content := 7 }, script := lateRefusal } })

def createTable : Migration where
  version := 1
  description := "create"
  sql := "CREATE TABLE a(id); CREATE TABLE b(id)"
  checksum := [1, 2, 3]
  noTx := false

theorem create_table_is_all_or_nothing :
    beforeMigration.pending = [1] ∧
      AllOrNothing counter
        (apply (sqlite counter) "_sqlx_migrations" createTable 5 beforeMigration)
        (Applied counter "_sqlx_migrations" createTable 5 7)
        (NotApplied counter "_sqlx_migrations" createTable 7) := by
  have neverDrops : ∀ verdict ∈ lateRefusal, verdict.drops = false := by decide
  have reached : Reaches counter beforeMigration _ :=
    .step .startRollback (.step .begin (.fresh .roomy 7 100 lateRefusal neverDrops) trivial) trivial
  have start : AtDepthZero beforeMigration := reached.atDepthZero rfl
  have noCommand := Meaning.command_of_noControls (fun _ => rfl : ∀ statement,
    counter.controls statement = none)
  exact ⟨rfl, (migrations_are_all_or_nothing start (fun _ _ => noCommand _) rfl 5
    fun _ _ => ⟨noCommand _, noCommand _, noCommand _⟩).1⟩

end SqlxTurso
