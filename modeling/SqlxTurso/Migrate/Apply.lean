import SqlxTurso.Connection.Executor
import SqlxTurso.Migrate.Identifier

/-!
# Applying and reverting migrations

A migration is executed and recorded in the migrations table, within a transaction
unless the migration asks for none.  A transaction is ended by its handle: what is
not committed when the handle is dropped is queued for its rollback.
-/

namespace SqlxTurso

open Library Async

variable {σ : Type} (engine : Engine σ)

/-- A function of the migrator. -/
abbrev MigrateProgram (σ α : Type) : Type := Async (World σ) MigrateError α

/-- An error of SQLx is an error of the migrator. -/
def migrating {α : Type} (program : Program σ α) : MigrateProgram σ α :=
  program.mapError .execute

structure Migration where
  version : Int64
  description : String
  sql : String
  checksum : List UInt8
  noTx : Bool
  deriving DecidableEq, Repr

/-! ## Bound statements -/

namespace Encoding

def i64 (value : Int64) : Encoding := .writes (.integer value)

def bool (value : Bool) : Encoding := .writes (.integer (if value then 1 else 0))

def str (value : String) : Encoding := .writes (.text value)

def bytes (value : List UInt8) : Encoding := .writes (.blob value)

end Encoding

namespace Query

/-- A query with an empty argument buffer. -/
def new (sql : String) : Query := { sql, arguments := .ok (some {}) }

def bind (query : Query) (value : Encoding) : Query :=
  match query.arguments with
  | .error _ => query
  | .ok arguments =>
      match (arguments.getD {}).add value with
      | (.ok (), arguments) => { query with arguments := .ok (some arguments) }
      | (.error error, _) => { query with arguments := .error error }

end Query

/-- `INSERT OR REPLACE` of a row of the migrations table. -/
def insertRowSql (tableName : SqliteIdentifierPath) : String :=
  "\nINSERT OR REPLACE INTO " ++ tableName.display ++
    " ( version, description, success, checksum, execution_time )\n" ++
    "VALUES ( ?1, ?2, ?3, ?4, -1 )\n        "

def deleteRowSql (tableName : SqliteIdentifierPath) : String :=
  "\nDELETE FROM " ++ tableName.display ++ "\nWHERE version = ?1\n        "

def updateTimeSql (tableName : SqliteIdentifierPath) : String :=
  "\nUPDATE " ++ tableName.display ++
    "\nSET execution_time = ?1\nWHERE version = ?2\n                "

/-! ## The parts of a migration -/

def insertRow (tableName : SqliteIdentifierPath) (migration : Migration) (success : Bool) :
    Query :=
  ((((Query.new (insertRowSql tableName)).bind (.i64 migration.version)).bind
    (.str migration.description)).bind (.bool success)).bind (.bytes migration.checksum)

def deleteRow (tableName : SqliteIdentifierPath) (migration : Migration) : Query :=
  (Query.new (deleteRowSql tableName)).bind (.i64 migration.version)

/-- The time is given in nanoseconds, and cut to 64 bits. -/
def updateTime (tableName : SqliteIdentifierPath) (migration : Migration) (elapsed : Nat) :
    Query :=
  ((Query.new (updateTimeSql tableName)).bind (.i64 (Int64.ofNat elapsed))).bind
    (.i64 migration.version)

def insertMigrationRow (tableName : SqliteIdentifierPath) (migration : Migration)
    (success : Bool) : MigrateProgram σ Unit := do
  let _ ← migrating (execute engine (insertRow tableName migration success))
  pure ()

/-- Execute the text of a migration. -/
def executeSql (migration : Migration) : MigrateProgram σ Unit := do
  let _ ← (execute engine { sql := migration.sql }).mapError fun error =>
    .executeMigration error migration.version
  pure ()

def executeMigration (tableName : SqliteIdentifierPath) (migration : Migration) :
    MigrateProgram σ Unit := do
  executeSql engine migration
  insertMigrationRow engine tableName migration true

def revertMigration (tableName : SqliteIdentifierPath) (migration : Migration) :
    MigrateProgram σ Unit := do
  executeSql engine migration
  let _ ← migrating (execute engine (deleteRow tableName migration))
  pure ()

/-! ## Transactions -/

/-- The part of a function that owns a handle.  The handle is dropped when the function
is left before it was committed. -/
def owningHandle {α : Type} (body : MigrateProgram σ α) : MigrateProgram σ α :=
  body.unlessReturned (World.onTransaction TransactionState.markRollbackNeeded)

/-- Run the body in a transaction that is committed if the body succeeds. -/
def inTransaction (body : MigrateProgram σ Unit) :
    MigrateProgram σ (Except MigrateError Unit) := do
  migrating (TursoTransactionManager.begin engine none)
  owningHandle do
    let result ← body.result
    match result with
    | .ok _ => migrating (TursoTransactionManager.commit engine)
    | .error _ => migrating TursoTransactionManager.startRollback
    pure result

/-! ## Applying and reverting -/

/-- A name that is parsed, or its error. -/
def parsing {α : Type} : Except MigrateError α → MigrateProgram σ α
  | .ok value => pure value
  | .error error => Async.fail error

/-- The first part of `apply`: execute the migration, in a transaction or without one. -/
def executeApply (tableName : SqliteIdentifierPath) (migration : Migration) :
    MigrateProgram σ (Except MigrateError Unit) :=
  if migration.noTx then (executeMigration engine tableName migration).result
  else inTransaction engine (executeMigration engine tableName migration)

/-- The second part of `apply`: record a failure, or the time of a success. -/
def recordApply (tableName : SqliteIdentifierPath) (migration : Migration) (elapsed : Nat) :
    Except MigrateError Unit → MigrateProgram σ Nat
  | .error error => do
      insertMigrationRow engine tableName migration false
      Async.fail error
  | .ok _ => do
      let _ ← migrating (execute engine (updateTime tableName migration elapsed))
      pure elapsed

/-- `elapsed` is the time that the clock shows after the first part. -/
def apply (tableName : String) (migration : Migration) (elapsed : Nat) :
    MigrateProgram σ Nat := do
  let tableName ← parsing (SqliteIdentifierPath.parse tableName)
  let result ← executeApply engine tableName migration
  recordApply engine tableName migration elapsed result

/-- The part of `revert` between its begin and its end. -/
def executeRevert (tableName : SqliteIdentifierPath) (migration : Migration) :
    MigrateProgram σ Unit :=
  if migration.noTx then revertMigration engine tableName migration
  else do
    migrating (TursoTransactionManager.begin engine none)
    owningHandle do
      revertMigration engine tableName migration
      migrating (TursoTransactionManager.commit engine)

def revert (tableName : String) (migration : Migration) (elapsed : Nat) :
    MigrateProgram σ Nat := do
  let tableName ← parsing (SqliteIdentifierPath.parse tableName)
  executeRevert engine tableName migration
  pure elapsed

end SqlxTurso
