import SqlxTurso.Connection.Quiet
import SqlxTurso.Library.Keyed
import SqlxTurso.Migrate.Atomic
import SqlxTurso.Migrate.Table

/-!
# The migrations table is a ledger

The table stands for a map from versions to what became of their migrations.  Applying,
reverting and skipping are updates of that map, whether or not they run in a
transaction, and reading the table gives the map back.
-/

namespace SqlxTurso

open Library Async Sql

variable {D : Type}

/-- A row of the migrations table, as far as it is read. -/
structure LedgerRow where
  version : Int64
  success : Bool
  checksum : List UInt8
  deriving DecidableEq, Repr

def LedgerRow.entry (row : LedgerRow) : Bool × List UInt8 := (row.success, row.checksum)

/-- For each version, whether its migration succeeded, and the checksum of that. -/
abbrev Ledger := Int64 → Option (Bool × List UInt8)

abbrev Records : List LedgerRow → Ledger → Prop :=
  Represents LedgerRow.version LedgerRow.entry

/-! ## The engine's side of the table -/

section Meaning

variable (rows : D → List LedgerRow)

/-- A statement runs, returns no rows and leaves a table. -/
def Writes (ran : Except Failure (Effect D)) (table : List LedgerRow) : Prop :=
  ∃ effect, ran = .ok effect ∧ effect.rows = [] ∧ (rows effect.content).Perm table

/-- A statement runs, returns what it selects of some rows in the order of their versions,
and leaves the table as it is. -/
def Selects (ran : Except Failure (Effect D)) (table : List LedgerRow)
    (source : List LedgerRow) (select : List LedgerRow → List Turso.Row) : Prop :=
  ∃ effect sorted, ran = .ok effect ∧ effect.rows = select sorted ∧
    sorted.Perm source ∧ (sorted.Pairwise fun row other => row.version ≤ other.version) ∧
    (rows effect.content).Perm table

/-- What the statements of the migrator do to the table, in which the version is the
primary key. -/
structure LedgerMeaning (path : SqliteIdentifierPath) (meaning : Meaning D) : Prop where
  noCommand : ∀ sql ∈ tableTexts path, meaning.command (firstStatement sql) = none
  columns : ∀ sql ∈ tableTexts path, ∀ content,
    ∃ columns, meaning.columns (firstStatement sql) content = .ok columns
  dirtyColumns : ∀ content columns,
    meaning.columns (firstStatement (dirtyVersionSql path)) content = .ok columns →
    columns = [versionColumn]
  appliedColumns : ∀ content columns,
    meaning.columns (firstStatement (listAppliedSql path)) content = .ok columns →
    columns = [versionColumn, checksumColumn]
  /-- `INSERT OR REPLACE` -/
  insertRow : ∀ content version description (success : Bool) checksum,
    Writes rows (meaning.run (firstStatement (insertRowSql path))
        [.integer version, .text description, .integer (if success then 1 else 0),
          .blob checksum] content)
      (⟨version, success, checksum⟩ :: (rows content).filter fun row => row.version ≠ version)
  /-- the plain `INSERT` -/
  skip : ∀ content version description checksum,
    (∀ row ∈ rows content, row.version ≠ version) →
    Writes rows (meaning.run (firstStatement (skipSql path))
        [.integer version, .text description, .blob checksum] content)
      (⟨version, true, checksum⟩ :: rows content)
  skipKnown : ∀ content version description checksum,
    (∃ row ∈ rows content, row.version = version) →
    ∃ failure, meaning.run (firstStatement (skipSql path))
      [.integer version, .text description, .blob checksum] content = .error failure
  deleteRow : ∀ content version,
    Writes rows (meaning.run (firstStatement (deleteRowSql path)) [.integer version] content)
      ((rows content).filter fun row => row.version ≠ version)
  updateTime : ∀ content time version,
    Writes rows (meaning.run (firstStatement (updateTimeSql path))
      [.integer time, .integer version] content) (rows content)
  dirtyVersion : ∀ content,
    Selects rows (meaning.run (firstStatement (dirtyVersionSql path)) [] content)
      (rows content) ((rows content).filter fun row => row.success = false)
      fun sorted => (sorted.take 1).map fun row => [.integer row.version]
  listApplied : ∀ content,
    Selects rows (meaning.run (firstStatement (listAppliedSql path)) [] content)
      (rows content) (rows content)
      fun sorted => sorted.map fun row => [.integer row.version, .blob row.checksum]

/-- The statements of a migration control no transaction and leave the table alone. -/
structure Migration.Apart (meaning : Meaning D) (migration : Migration) : Prop where
  plain : migration.Plain meaning
  untouched : ∀ statement ∈ statementsOf migration.sql, ∀ content effect,
    meaning.run statement [] content = .ok effect → (rows effect.content).Perm (rows content)

end Meaning

section Table

variable {rows : D → List LedgerRow} {path : SqliteIdentifierPath} {meaning : Meaning D}

theorem LedgerMeaning.preparable (means : LedgerMeaning rows path meaning)
    (named : path.Named) {sql : String} (isText : sql ∈ tableTexts path) :
    Preparable meaning sql :=
  ⟨inspectSql_tableTexts named sql isText, means.noCommand sql isText, means.columns sql isText⟩

/-- What the engine tells of the statements that read the table. -/
theorem LedgerMeaning.columnsOf_dirtyVersion (means : LedgerMeaning rows path meaning)
    (content : D) :
    meaning.columnsOf (dirtyVersionSql path) content = tursoColumns [versionColumn] := by
  obtain ⟨columns, isColumns⟩ := means.columns (dirtyVersionSql path) (by simp [tableTexts])
    content
  rw [Meaning.columnsOf, isColumns, means.dirtyColumns content columns isColumns]
  rfl

theorem LedgerMeaning.columnsOf_listApplied (means : LedgerMeaning rows path meaning)
    (content : D) :
    meaning.columnsOf (listAppliedSql path) content =
      tursoColumns [versionColumn, checksumColumn] := by
  obtain ⟨columns, isColumns⟩ := means.columns (listAppliedSql path) (by simp [tableTexts])
    content
  rw [Meaning.columnsOf, isColumns, means.appliedColumns content columns isColumns]
  rfl

/-- The world is quiet, and its table records a ledger. -/
structure Holding (rows : D → List LedgerRow) (ledger : Ledger) (world : World (Sqlite D))
    (model : Snapshots D) : Prop where
  quiet : Quiet world model
  records : Records (rows model.current) ledger

/-- The same with another content in place of the current one. -/
def Holds (rows : D → List LedgerRow) (ledger : Ledger) (model : Snapshots D)
    (world : World (Sqlite D)) : Prop :=
  ∃ content, Holding rows ledger world (model.write content)

variable {ledger : Ledger} {world : World (Sqlite D)} {model : Snapshots D}

/-! ## Statements on the table -/

section Statements

variable (means : LedgerMeaning rows path meaning) (named : path.Named)
  (holding : Holding rows ledger world model)

include means named holding

/-- A statement that writes a table is executed. -/
theorem write_runs {query : Query} {arguments : Option TursoArguments}
    (encoded : query.arguments = .ok arguments) (isText : query.sql ∈ tableTexts path)
    {table : List LedgerRow} (writes : Writes rows (query.run meaning model.current) table)
    {after : Ledger} (records : Records table after) :
    ∃ result, EndsAs (migrating (execute (sqlite meaning) query)) world (.returned result)
      (Holds rows after model) := by
  rcases writes with ⟨effect, isRun, noRows, permuted⟩
  have executed := execute_ready model encoded
    (means.preparable named isText) world holding.quiet
  rw [isRun] at executed
  obtain ⟨ready, returns⟩ := executed
  refine ⟨⟨effect.changes⟩, (⟨returns noRows, ?_⟩ : EndsAs _ _ (.returned _) _).mapError⟩
  exact ⟨effect.content, ready.quiet, records.perm permuted.symm⟩

theorem insertMigrationRow_runs (migration : Migration) (success : Bool) :
    EndsAs (insertMigrationRow (sqlite meaning) path migration success) world (.returned ())
      (Holds rows (Function.update ledger migration.version
        (some (success, migration.checksum))) model) := by
  have inserts := means.insertRow model.current migration.version migration.description
    success migration.checksum
  obtain ⟨_, runs⟩ := write_runs means named holding
    (congrArg Query.arguments (insertRow_eq path migration success)) (by simp [tableTexts, insertRow_eq])
    inserts (holding.records.replace ⟨migration.version, success, migration.checksum⟩)
  exact runs.bind fun _ holds => ⟨rfl, holds⟩

theorem deleteRow_runs (migration : Migration) :
    ∃ result, EndsAs (migrating (execute (sqlite meaning) (deleteRow path migration))) world
      (.returned result)
      (Holds rows (Function.update ledger migration.version none) model) :=
  write_runs means named holding (congrArg Query.arguments (deleteRow_eq path migration))
    (by simp [tableTexts, deleteRow_eq]) (means.deleteRow model.current migration.version)
    (holding.records.remove migration.version)

theorem updateTime_runs (migration : Migration) (elapsed : Nat) :
    ∃ result, EndsAs (migrating (execute (sqlite meaning) (updateTime path migration elapsed)))
      world (.returned result) (Holds rows ledger model) :=
  write_runs means named holding (congrArg Query.arguments (updateTime_eq path migration elapsed))
    (by simp [tableTexts, updateTime_eq])
    (means.updateTime model.current (Int64.ofNat elapsed) migration.version) holding.records

/-- A skipped migration is recorded if its version is absent. -/
theorem skipRow_runs (migration : Migration) (absent : ledger migration.version = none) :
    ∃ result, EndsAs (migrating (execute (sqlite meaning) (skipRow path migration))) world
      (.returned result)
      (Holds rows (Function.update ledger migration.version
        (some (true, migration.checksum))) model) := by
  have inserts := means.skip model.current migration.version migration.description
    migration.checksum (holding.records.none_iff.mp absent)
  exact write_runs means named holding (congrArg Query.arguments (skipRow_eq path migration))
    (by simp [tableTexts, skipRow_eq]) inserts
    (holding.records.add ⟨migration.version, true, migration.checksum⟩ absent)

/-- And otherwise it is refused. -/
theorem skipRow_fails (migration : Migration) (known : ledger migration.version ≠ none) :
    ∃ error, EndsAs (migrating (execute (sqlite meaning) (skipRow path migration))) world
      (.failed error) (Holds rows ledger model) := by
  have inTable : ∃ row ∈ rows model.current, row.version = migration.version := by
    by_contra absent
    refine known (holding.records.none_iff.mpr fun row inRows isVersion => ?_)
    exact absent ⟨row, inRows, isVersion⟩
  obtain ⟨failure, isRun⟩ := means.skipKnown model.current migration.version
    migration.description migration.checksum inTable
  have executed := execute_ready model
    (congrArg Query.arguments (skipRow_eq path migration))
    (means.preparable named (by simp [tableTexts, skipRow_eq])) world holding.quiet
  have ran : (skipRow path migration).run meaning model.current = .error failure := isRun
  rw [ran] at executed
  obtain ⟨ready, error, failed⟩ := executed
  exact ⟨_, (⟨failed, model.current, ready.quiet, holding.records⟩ :
    EndsAs _ _ (.failed error) _).mapError⟩

end Statements

/-! ## Migrations -/

theorem runAll_untouched {statements : List String}
    (untouched : ∀ statement ∈ statements, ∀ content effect,
      meaning.run statement [] content = .ok effect → (rows effect.content).Perm (rows content))
    {content after : D} (ran : meaning.runAll statements content = some after) :
    (rows after).Perm (rows content) := by
  induction statements generalizing content with
  | nil =>
      cases ran
      exact .refl _
  | cons statement rest ih =>
      rw [Meaning.runAll, List.foldlM_cons, Option.bind_eq_bind, Option.bind_eq_some_iff] at ran
      rcases ran with ⟨middle, isMiddle, ran⟩
      have onward := ih (fun _ inRest => untouched _ (List.mem_cons_of_mem _ inRest)) ran
      unfold Meaning.contentAfter at isMiddle
      cases isRun : meaning.run statement [] content with
      | error failure =>
          rw [isRun] at isMiddle
          cases isMiddle
      | ok effect =>
          rw [isRun] at isMiddle
          cases isMiddle
          exact onward.trans (untouched statement List.mem_cons_self content effect isRun)

/-- The text of a migration leaves the table alone, whether it succeeds or fails. -/
theorem executeSql_holds {migration : Migration} (apart : migration.Apart rows meaning) (holding : Holding rows ledger world model) :
    Concluding (Holds rows ledger model) (Holds rows ledger model)
      (executeSql (sqlite meaning) migration world).1
      (executeSql (sqlite meaning) migration world).2 := by
  have holds : ∀ reached, Partly meaning migration.sql model reached →
      Holds rows ledger model reached := by
    rintro reached ⟨count, content, ran, quiet⟩
    have untouched := runAll_untouched
      (fun _ inTaken => apart.untouched _ (List.mem_of_mem_take inTaken)) ran
    exact ⟨content, quiet, holding.records.perm untouched.symm⟩
  have executed := execute_partly model apart.plain
  have executes : Meets (Quiet · model) (executeSql (sqlite meaning) migration)
      (Undropped (Partly meaning migration.sql model)) := by
    refine Meets.bind (fun _ => Partly meaning migration.sql model)
      (Meets.mapError (executed.imp ?_)) fun _ => Meets.pureUndropped _
    intro outcome reached ended
    cases outcome <;> exact ended
  have ended := executes world holding.quiet
  cases outcome : (executeSql (sqlite meaning) migration world).1 with
  | returned _ =>
      rw [outcome] at ended
      exact holds _ ended
  | failed _ =>
      rw [outcome] at ended
      exact holds _ ended
  | dropped =>
      rw [outcome] at ended
      exact ended

/-- The text of a migration and then a statement that changes the table: the text decides
how they end. -/
theorem executeSql_then {migration : Migration} (apart : migration.Apart rows meaning) (holding : Holding rows ledger world model)
    {row : MigrateProgram (Sqlite D) Unit} {after : Ledger}
    (rowRuns : ∀ world model, Holding rows ledger world model →
      EndsAs row world (.returned ()) (Holds rows after model)) :
    EndsAs (executeSql (sqlite meaning) migration >>= fun _ => row) world
      (executeSql (sqlite meaning) migration world).1
      (Concluding (Holds rows after model) (Holds rows ledger model)
        (executeSql (sqlite meaning) migration world).1) := by
  have ended := executeSql_holds apart holding
  cases outcome : (executeSql (sqlite meaning) migration world).1 with
  | returned _ =>
      rw [outcome] at ended
      refine EndsAs.bind ⟨outcome, ended⟩ fun reached => ?_
      rintro ⟨content, holding⟩
      exact rowRuns reached (model.write content) holding
  | failed _ =>
      rw [outcome] at ended
      exact EndsAs.bindFailed ⟨outcome, ended⟩
  | dropped =>
      rw [outcome] at ended
      cases ended

/-! ## Transactions -/

theorem begin_holds (holding : Holding rows ledger world model) :
    EndsAs (migrating (TursoTransactionManager.begin (sqlite meaning) none)) world (.returned ())
      fun begun => begun = (TursoTransactionManager.begin (sqlite meaning) none world).2 ∧
        Holding rows ledger begun model.begin := by
  have begun : (TursoTransactionManager.begin (sqlite meaning) none world).1 = _ ∧ _ :=
    begin_quiet model world holding.quiet
  exact (⟨begun.1, rfl, begun.2, holding.records⟩ : EndsAs _ _ (.returned ()) _).mapError

theorem commit_holds (holds : Holds rows ledger model.begin world) :
    EndsAs (migrating (TursoTransactionManager.commit (sqlite meaning))) world (.returned ())
      (Holds rows ledger model) := by
  rcases holds with ⟨content, holding⟩
  have committed : (TursoTransactionManager.commit (sqlite meaning) world).1 = _ ∧ _ :=
    commit_quiet (model.begin.write content) world holding.quiet
  exact (⟨committed.1, content, committed.2, holding.records⟩ :
    EndsAs _ _ (.returned ()) _).mapError

/-- Dropping the handle brings back the table as it was before the transaction. -/
theorem dropHandle_holds (holding : Holding rows ledger world model)
    {reached : World (Sqlite D)} {inside : Ledger}
    (holds : Holds rows inside model.begin reached) :
    Holds rows ledger model
      (reached.onTransaction TransactionState.markRollbackNeeded) := by
  rcases holds with ⟨content, quiet, _⟩
  refine ⟨model.current, ⟨dropHandle_refines reached ⟨content, quiet.refines⟩,
    quiet.calm.script, ?_⟩, holding.records⟩
  exact (TransactionState.markRollbackNeeded_failed _).trans quiet.calm.sound

/-- A body in a transaction: what it did to the table stays if it succeeds. -/
theorem inTransaction_holds (holding : Holding rows ledger world model)
    {body : MigrateProgram (Sqlite D) Unit} {outcome : Outcome MigrateError Unit}
    {after : Ledger}
    (bodyRuns : ∀ begun, begun = (TursoTransactionManager.begin (sqlite meaning) none world).2 →
      Holding rows ledger begun model.begin →
      EndsAs body begun outcome (Concluding (Holds rows after model.begin)
        (Holds rows ledger model.begin) outcome)) :
    EndsAs (inTransaction (sqlite meaning) body) world outcome.caught
      (Concluding (Holds rows after model) (Holds rows ledger model) outcome) := by
  refine EndsAs.bind (begin_holds holding) fun begun => ?_
  rintro ⟨isBegun, atBegin⟩
  have runs := bodyRuns begun isBegun atBegin
  cases outcome with
  | returned value =>
      refine EndsAs.unlessReturned_returned (EndsAs.bind runs.result fun reached holds => ?_)
      exact EndsAs.bind (commit_holds holds) fun _ holds => ⟨rfl, holds⟩
  | failed error =>
      refine EndsAs.unlessReturned_returned (EndsAs.bind runs.result fun reached holds => ?_)
      have dropped : EndsAs (migrating TursoTransactionManager.startRollback) reached
          (.returned ()) _ := ⟨rfl, dropHandle_holds holding holds⟩
      exact dropped.bind fun _ holds => ⟨rfl, holds⟩
  | dropped => cases runs.reached

/-! ## Applying and reverting -/

/-- How the text of a migration ends where `apply` and `revert` execute it. -/
def bodyOutcome {σ : Type} (engine : Engine σ) (migration : Migration) (world : World σ) :
    Outcome MigrateError Unit :=
  if migration.noTx then (executeSql engine migration world).1
  else (executeSql engine migration (TursoTransactionManager.begin engine none world).2).1

section Migrations

variable (means : LedgerMeaning rows path meaning) (named : path.Named)
  (holding : Holding rows ledger world model) {migration : Migration}
  (apart : migration.Apart rows meaning)

include means named holding apart

theorem executeApply_holds :
    EndsAs (executeApply (sqlite meaning) path migration) world
      (bodyOutcome (sqlite meaning) migration world).caught
      (Concluding
        (Holds rows (Function.update ledger migration.version
          (some (true, migration.checksum))) model)
        (Holds rows ledger model) (bodyOutcome (sqlite meaning) migration world)) := by
  have executes : ∀ world model, Holding rows ledger world model →
      EndsAs (executeMigration (sqlite meaning) path migration) world
        (executeSql (sqlite meaning) migration world).1 _ := fun world model holding =>
    executeSql_then apart holding fun world model holding =>
      insertMigrationRow_runs means named holding migration true
  unfold executeApply bodyOutcome
  cases migration.noTx with
  | true => exact (executes world model holding).result
  | false =>
      refine inTransaction_holds holding fun begun isBegun atBegin => ?_
      subst isBegun
      exact executes _ _ atBegin

theorem apply_holds {tableName : String}
    (parsed : SqliteIdentifierPath.parse tableName = .ok path) (elapsed : Nat) :
    EndsAs (apply (sqlite meaning) tableName migration elapsed) world
      ((bodyOutcome (sqlite meaning) migration world).map fun _ => elapsed)
      (Concluding
        (Holds rows (Function.update ledger migration.version
          (some (true, migration.checksum))) model)
        (Holds rows (Function.update ledger migration.version
          (some (false, migration.checksum))) model)
        (bodyOutcome (sqlite meaning) migration world)) := by
  have executes := executeApply_holds means named holding apart
  unfold apply
  rw [parsed]
  refine EndsAs.bind ⟨rfl, rfl⟩ ?_
  rintro _ rfl
  cases outcome : bodyOutcome (sqlite meaning) migration world with
  | returned _ =>
      rw [outcome] at executes
      refine EndsAs.bind executes fun reached => ?_
      rintro ⟨content, holding⟩
      obtain ⟨_, runs⟩ := updateTime_runs means named holding migration elapsed
      exact runs.bind fun _ holds => ⟨rfl, holds⟩
  | failed error =>
      rw [outcome] at executes
      refine EndsAs.bind executes fun reached => ?_
      rintro ⟨content, holding⟩
      exact EndsAs.bind (insertMigrationRow_runs means named holding migration false)
        fun _ holds => ⟨rfl, holds⟩
  | dropped =>
      rw [outcome] at executes
      cases executes.reached

theorem executeRevert_holds :
    EndsAs (executeRevert (sqlite meaning) path migration) world
      (bodyOutcome (sqlite meaning) migration world)
      (Concluding (Holds rows (Function.update ledger migration.version none) model)
        (Holds rows ledger model) (bodyOutcome (sqlite meaning) migration world)) := by
  have executes : ∀ world model, Holding rows ledger world model →
      EndsAs (revertMigration (sqlite meaning) path migration) world
        (executeSql (sqlite meaning) migration world).1 _ := fun world model holding =>
    executeSql_then apart holding fun world model holding => by
      obtain ⟨_, runs⟩ := deleteRow_runs means named holding migration
      exact runs.bind fun _ holds => ⟨rfl, holds⟩
  unfold executeRevert bodyOutcome
  cases migration.noTx with
  | true => exact executes world model holding
  | false =>
      refine EndsAs.bind (begin_holds holding) fun begun => ?_
      rintro ⟨rfl, atBegin⟩
      have runs := executes _ _ atBegin
      simp only [Bool.false_eq_true, if_false]
      cases outcome : (executeSql (sqlite meaning) migration
          (TursoTransactionManager.begin (sqlite meaning) none world).2).1 with
      | returned _ =>
          rw [outcome] at runs
          exact EndsAs.unlessReturned_returned
            (EndsAs.bind runs fun reached holds => commit_holds holds)
      | failed error =>
          rw [outcome] at runs
          exact EndsAs.unlessReturned_failed (EndsAs.bindFailed runs)
            fun reached holds => dropHandle_holds holding holds
      | dropped =>
          rw [outcome] at runs
          cases runs.reached

theorem revert_holds {tableName : String}
    (parsed : SqliteIdentifierPath.parse tableName = .ok path) (elapsed : Nat) :
    EndsAs (revert (sqlite meaning) tableName migration elapsed) world
      ((bodyOutcome (sqlite meaning) migration world).map fun _ => elapsed)
      (Concluding (Holds rows (Function.update ledger migration.version none) model)
        (Holds rows ledger model) (bodyOutcome (sqlite meaning) migration world)) := by
  have executes := executeRevert_holds means named holding apart
  unfold revert
  rw [parsed]
  refine EndsAs.bind ⟨rfl, rfl⟩ ?_
  rintro _ rfl
  cases outcome : bodyOutcome (sqlite meaning) migration world with
  | returned _ =>
      rw [outcome] at executes
      exact EndsAs.bind executes fun reached holds => ⟨rfl, holds⟩
  | failed error =>
      rw [outcome] at executes
      exact EndsAs.bindFailed executes
  | dropped =>
      rw [outcome] at executes
      cases executes.reached

end Migrations

/-! ## Skipping -/

section Skipping

variable (means : LedgerMeaning rows path meaning) (named : path.Named)
  (holding : Holding rows ledger world model) {tableName : String}
  (parsed : SqliteIdentifierPath.parse tableName = .ok path)

include means named holding parsed

theorem skip_records {migration : Migration} (absent : ledger migration.version = none) :
    EndsAs (skip (sqlite meaning) tableName migration) world (.returned ())
      (Holds rows (Function.update ledger migration.version
        (some (true, migration.checksum))) model) := by
  unfold skip
  rw [parsed]
  refine EndsAs.bind ⟨rfl, rfl⟩ ?_
  rintro _ rfl
  obtain ⟨_, runs⟩ := skipRow_runs means named holding migration absent
  exact runs.bind fun _ holds => ⟨rfl, holds⟩

theorem skip_refuses {migration : Migration} (known : ledger migration.version ≠ none) :
    ∃ error, EndsAs (skip (sqlite meaning) tableName migration) world (.failed error)
      (Holds rows ledger model) := by
  obtain ⟨error, runs⟩ := skipRow_fails means named holding migration known
  refine ⟨error, ?_⟩
  unfold skip
  rw [parsed]
  refine EndsAs.bind ⟨rfl, rfl⟩ ?_
  rintro _ rfl
  exact runs.bindFailed

end Skipping

/-- The entries of a ledger, in the strict order of their versions. -/
structure Lists (ledger : Ledger) (entries : List AppliedMigration) : Prop where
  inOrder : entries.Pairwise fun entry other => entry.version < other.version
  exact : ∀ version checksum, ⟨version, checksum⟩ ∈ entries ↔
    ∃ success, ledger version = some (success, checksum)

/-- The least version that has not succeeded, if there is one. -/
def LeastDirty (ledger : Ledger) : Option Int64 → Prop
  | none => ∀ version checksum, ledger version ≠ some (false, checksum)
  | some least => (∃ checksum, ledger least = some (false, checksum)) ∧
      ∀ version checksum, ledger version = some (false, checksum) → least ≤ version

theorem lists_of_sorted {table sorted : List LedgerRow} (records : Records table ledger)
    (permuted : sorted.Perm table)
    (inOrder : sorted.Pairwise fun row other => row.version ≤ other.version) :
    Lists ledger (sorted.map fun row => ⟨row.version, row.checksum⟩) := by
  have recorded := records.perm permuted.symm
  refine ⟨List.pairwise_map.mpr (recorded.strict Int64.lt_of_le_of_ne inOrder), ?_⟩
  intro version checksum
  simp only [recorded.entry, List.mem_map, AppliedMigration.mk.injEq]
  constructor
  · rintro ⟨row, inRows, rfl, rfl⟩
    exact ⟨row.success, row, inRows, rfl, rfl⟩
  · rintro ⟨success, row, inRows, isVersion, isEntry⟩
    exact ⟨row, inRows, isVersion, congrArg Prod.snd isEntry⟩

theorem leastDirty_of_sorted {table sorted : List LedgerRow} (records : Records table ledger)
    (permuted : sorted.Perm (table.filter fun row => row.success = false))
    (inOrder : sorted.Pairwise fun row other => row.version ≤ other.version) :
    LeastDirty ledger (sorted.head?.map LedgerRow.version) := by
  have isDirty : ∀ version checksum, ledger version = some (false, checksum) ↔
      ∃ row ∈ sorted, row.version = version ∧ row.checksum = checksum := by
    intro version checksum
    simp only [records.entry, permuted.mem_iff, List.mem_filter, decide_eq_true_eq]
    constructor
    · rintro ⟨row, inTable, isVersion, isEntry⟩
      exact ⟨row, ⟨inTable, congrArg Prod.fst isEntry⟩, isVersion, congrArg Prod.snd isEntry⟩
    · rintro ⟨row, ⟨inTable, failed⟩, isVersion, rfl⟩
      exact ⟨row, inTable, isVersion, Prod.ext failed rfl⟩
  cases sorted with
  | nil =>
      intro version checksum dirty
      obtain ⟨_, inEmpty, _⟩ := (isDirty _ _).mp dirty
      cases inEmpty
  | cons least rest =>
      refine ⟨⟨least.checksum, (isDirty _ _).mpr ⟨least, List.mem_cons_self, rfl, rfl⟩⟩, ?_⟩
      intro version checksum dirty
      obtain ⟨row, inSorted, rfl, _⟩ := (isDirty _ _).mp dirty
      cases List.mem_cons.mp inSorted with
      | inl isLeast => exact isLeast ▸ Int64.le_refl _
      | inr inRest => exact (List.pairwise_cons.mp inOrder).1 row inRest

section Reading

variable (means : LedgerMeaning rows path meaning) (named : path.Named)
  (holding : Holding rows ledger world model)

include means named holding

/-- The rows that are fetched from the table, which is left as it is. -/
theorem fetch_holds {sql : String} (isText : sql ∈ tableTexts path)
    {source : List LedgerRow} {select : List LedgerRow → List Turso.Row}
    (selects : Selects rows (meaning.run (firstStatement sql) [] model.current)
      (rows model.current) source select) :
    ∃ sorted changes, sorted.Perm source ∧
      (sorted.Pairwise fun row other => row.version ≤ other.version) ∧
      EndsAs (fetchMany (sqlite meaning) (.new sql)) world
        (.returned (.unfolded (.rows { rows := select sorted, changes }
          (meaning.columnsOf sql model.current) none)))
        (Holds rows ledger model) := by
  rcases selects with ⟨effect, sorted, isRun, areRows, permuted, inOrder, kept⟩
  have fetched := fetchMany_ready model (rfl : (Query.new sql).arguments = _)
    (means.preparable named isText) world holding.quiet
  have ran : (Query.new sql).run meaning model.current = .ok effect := isRun
  rw [ran] at fetched
  obtain ⟨returned, ready⟩ := fetched
  rw [Turso.Rows.ofRun, areRows] at returned
  exact ⟨sorted, effect.changes, permuted, inOrder, returned, effect.content, ready.quiet,
    holding.records.perm kept.symm⟩

variable (reader : RowReader) {tableName : String} (parsed : SqliteIdentifierPath.parse tableName = .ok path)

include parsed

theorem listAppliedMigrations_holds :
    ∃ entries, Lists ledger entries ∧
      EndsAs (listAppliedMigrations (sqlite meaning) reader tableName) world (.returned entries)
        (Holds rows ledger model) := by
  obtain ⟨sorted, changes, permuted, inOrder, fetches⟩ := fetch_holds means named holding
    (by simp [tableTexts]) (means.listApplied model.current)
  refine ⟨_, lists_of_sorted holding.records permuted inOrder, ?_⟩
  unfold listAppliedMigrations
  rw [parsed]
  refine EndsAs.bind ⟨rfl, rfl⟩ ?_
  rintro _ rfl
  refine EndsAs.bind fetches.mapError fun reached holds => ?_
  have isRead : (FetchStream.unfolded (.rows
      { rows := sorted.map fun row => [.integer row.version, .blob row.checksum], changes }
      (meaning.columnsOf (listAppliedSql path) model.current) none)).readAll
        (readApplied reader) = .ok (sorted.map fun row => ⟨row.version, row.checksum⟩) := by
    rw [means.columnsOf_listApplied]
    have values : List.Forall₂ (fun row values => FetchState.rowValues
        (tursoColumns [versionColumn, checksumColumn]) row = .ok values)
        (sorted.map fun row => [.integer row.version, .blob row.checksum])
        (sorted.map fun row => [versionValue row.version, checksumValue row.checksum]) := by
      rw [List.forall₂_map_left_iff, List.forall₂_map_right_iff, List.forall₂_same]
      exact fun row _ => rowValues_applied row.version row.checksum
    refine FetchStream.readAll_of_valued values ?_
    rw [List.forall₂_map_left_iff, List.forall₂_map_right_iff, List.forall₂_same]
    exact fun row _ => readApplied_eq_ok
  rw [isRead]
  exact ⟨rfl, holds⟩

theorem dirtyVersion_holds :
    ∃ dirty, LeastDirty ledger dirty ∧
      EndsAs (dirtyVersion (sqlite meaning) reader tableName) world (.returned dirty)
        (Holds rows ledger model) := by
  obtain ⟨sorted, changes, permuted, inOrder, fetches⟩ := fetch_holds means named holding
    (by simp [tableTexts]) (means.dirtyVersion model.current)
  refine ⟨_, leastDirty_of_sorted holding.records permuted inOrder, ?_⟩
  have isRead : (FetchStream.unfolded (.rows
      { rows := (sorted.take 1).map fun row => [.integer row.version], changes }
      (meaning.columnsOf (dirtyVersionSql path) model.current) none)).firstRow =
        .ok (sorted.head?.map fun row =>
          ⟨tursoColumns [versionColumn], [versionValue row.version]⟩) := by
    rw [means.columnsOf_dirtyVersion]
    have values : List.Forall₂ (fun row values => FetchState.rowValues
        (tursoColumns [versionColumn]) row = .ok values)
        ((sorted.take 1).map fun row => [.integer row.version])
        ((sorted.take 1).map fun row => [versionValue row.version]) := by
      rw [List.forall₂_map_left_iff, List.forall₂_map_right_iff, List.forall₂_same]
      exact fun row _ => rowValues_version row.version
    rw [FetchStream.firstRow_of_valued values]
    cases sorted <;> rfl
  have fetchesOne : EndsAs (migrating (fetchOptional (sqlite meaning)
      (.new (dirtyVersionSql path)))) world _ _ :=
    (EndsAs.bind fetches fun reached holds => by
      rw [isRead]
      exact ⟨rfl, holds⟩).mapError
  unfold dirtyVersion
  rw [parsed]
  refine EndsAs.bind ⟨rfl, rfl⟩ ?_
  rintro _ rfl
  refine EndsAs.bind fetchesOne fun reached holds => ?_
  cases sorted with
  | nil => exact ⟨rfl, holds⟩
  | cons least rest =>
      have isVersion : readVersion reader
          ⟨tursoColumns [versionColumn], [versionValue least.version]⟩ =
            .ok least.version := readVersion_eq_ok
      dsimp only [List.head?_cons, Option.map_some]
      rw [isVersion]
      exact ⟨rfl, holds⟩

end Reading

end Table

end SqlxTurso
