import SqlxTurso.Migrate.Texts
import SqlxTurso.Types.Rows

/-!
# The migrations table

The functions of the migrator that only look after the table: it is created, read, and
told of a migration that is skipped.
-/

namespace SqlxTurso

open Library Async Sql

variable {σ : Type} (engine : Engine σ) (reader : RowReader)

structure AppliedMigration where
  version : Int64
  checksum : List UInt8
  deriving DecidableEq, Repr

/-- The row of a migration that is skipped. -/
def skipRow (tableName : SqliteIdentifierPath) (migration : Migration) : Query :=
  (((Query.new (skipSql tableName)).bind (.i64 migration.version)).bind
    (.str migration.description)).bind (.bytes migration.checksum)

def ensureMigrationsTable (tableName : String) : MigrateProgram σ Unit := do
  let tableName ← parsing (SqliteIdentifierPath.parse tableName)
  let _ ← migrating (execute engine { sql := createTableSql tableName })
  pure ()

/-- The first column of a row. -/
def readVersion (row : TursoRow) : Except SqlxError Int64 := reader.tryGet SqlType.i64 row 0

def dirtyVersion (tableName : String) : MigrateProgram σ (Option Int64) := do
  let tableName ← parsing (SqliteIdentifierPath.parse tableName)
  let row ← migrating (fetchOptional engine (.new (dirtyVersionSql tableName)))
  match row with
  | none => pure none
  | some row => do
      let version ← migrating (liftExcept (readVersion reader row))
      pure (some version)

/-- The two columns of a row. -/
def readApplied (row : TursoRow) : Except SqlxError AppliedMigration := do
  let version ← readVersion reader row
  let checksum ← reader.tryGet SqlType.bytes row 1
  pure { version, checksum }

def listAppliedMigrations (tableName : String) :
    MigrateProgram σ (List AppliedMigration) := do
  let tableName ← parsing (SqliteIdentifierPath.parse tableName)
  let stream ← migrating (fetchMany engine (.new (listAppliedSql tableName)))
  migrating (liftExcept (stream.readAll (readApplied reader)))

def skip (tableName : String) (migration : Migration) : MigrateProgram σ Unit := do
  let tableName ← parsing (SqliteIdentifierPath.parse tableName)
  let _ ← migrating (execute engine (skipRow tableName migration))
  pure ()

/-! ## Rows of the table -/

/-- The columns of the table as far as they are read. -/
def versionColumn : Turso.Column := ⟨"version", some "BIGINT"⟩

def checksumColumn : Turso.Column := ⟨"checksum", some "BLOB"⟩

theorem skipRow_eq (tableName : SqliteIdentifierPath) (migration : Migration) :
    skipRow tableName migration =
      { sql := skipSql tableName
        arguments := .ok (some ⟨[.integer migration.version, .text migration.description,
          .blob migration.checksum]⟩) } := rfl

/-- The values of the columns, with their declared types. -/
def versionValue (version : Int64) : TursoValue := ⟨⟨"BIGINT"⟩, .integer version⟩

def checksumValue (checksum : List UInt8) : TursoValue := ⟨⟨"BLOB"⟩, .blob checksum⟩

theorem rowValues_version (version : Int64) :
    FetchState.rowValues (tursoColumns [versionColumn]) [.integer version] =
      .ok [versionValue version] := rfl

theorem rowValues_applied (version : Int64) (checksum : List UInt8) :
    FetchState.rowValues (tursoColumns [versionColumn, checksumColumn])
      [.integer version, .blob checksum] = .ok [versionValue version, checksumValue checksum] := rfl

variable {reader : RowReader}

theorem readVersion_eq_ok {column : TursoColumn} {columns : List TursoColumn} {version : Int64}
    {values : List TursoValue} :
    readVersion reader ⟨column :: columns, versionValue version :: values⟩ = .ok version := by
  have compatible : SqlType.i64.compatible ⟨"BIGINT"⟩ = true := by decide
  exact reader.reads (TursoRow.tryGetRaw_eq_ok (Nat.succ_pos _) rfl) compatible
    (i64_eq_ok_iff.mpr rfl)

theorem readApplied_eq_ok {first second : TursoColumn} {columns : List TursoColumn}
    {version : Int64} {checksum : List UInt8} :
    readApplied reader
        ⟨first :: second :: columns, [versionValue version, checksumValue checksum]⟩ =
      .ok { version, checksum } := by
  have isChecksum : reader.tryGet SqlType.bytes
      ⟨first :: second :: columns, [versionValue version, checksumValue checksum]⟩ 1 =
        .ok checksum := by
    have compatible : SqlType.bytes.compatible ⟨"BLOB"⟩ = true := by decide
    exact reader.reads (TursoRow.tryGetRaw_eq_ok (Nat.succ_lt_succ (Nat.succ_pos _)) rfl)
      compatible (bytes_eq_ok_iff.mpr rfl)
  rw [readApplied, readVersion_eq_ok, isChecksum]
  rfl

end SqlxTurso
