import Mathlib.Data.List.Infix

/-!
# Errors

The engine's errors, and the errors that the adapter returns to SQLx.
-/

namespace SqlxTurso

/-- The variants of the engine's error type. -/
inductive Turso.ErrorVariant where
  | toSqlConversionFailure
  | queryReturnedNoRows
  | conversionFailure
  | busy
  | busySnapshot
  | interrupt
  | error
  | misuse
  | constraint
  | readonly
  | databaseFull
  | notAdb
  | corrupt
  | ioError
  deriving DecidableEq, Repr

/-- An error of the engine, with its text. -/
structure Turso.Error where
  variant : Turso.ErrorVariant
  text : String
  deriving DecidableEq, Repr

def tursoErrorCode : Turso.ErrorVariant → String
  | .toSqlConversionFailure => "TURSO_TO_SQL_CONVERSION_FAILURE"
  | .queryReturnedNoRows => "TURSO_QUERY_RETURNED_NO_ROWS"
  | .conversionFailure => "TURSO_CONVERSION_FAILURE"
  | .busy => "SQLITE_BUSY"
  | .busySnapshot => "SQLITE_BUSY_SNAPSHOT"
  | .interrupt => "SQLITE_INTERRUPT"
  | .error => "SQLITE_ERROR"
  | .misuse => "SQLITE_MISUSE"
  | .constraint => "SQLITE_CONSTRAINT"
  | .readonly => "SQLITE_READONLY"
  | .databaseFull => "SQLITE_FULL"
  | .notAdb => "SQLITE_NOTADB"
  | .corrupt => "SQLITE_CORRUPT"
  | .ioError => "SQLITE_IOERR"

structure TursoDatabaseError where
  code : String
  message : String
  deriving DecidableEq, Repr

/-- Why a text is not a number. -/
inductive IntErrorKind where
  | empty
  | invalidDigit
  | posOverflow
  deriving DecidableEq, Repr

/-- The errors of the standard library that the adapter hands on. -/
inductive StdError where
  | utf8
  | parseInt (kind : IntErrorKind)
  deriving DecidableEq, Repr

/-- The kinds of IO errors that the adapter makes. -/
inductive IoErrorKind where
  | notFound
  deriving DecidableEq, Repr

/-- The errors of SQLx that the adapter returns. -/
inductive SqlxError where
  | columnDecode (index : String) (message : String)
  | columnIndexOutOfBounds (index : Nat) (len : Nat)
  | configuration (message : String)
  | config (cause : StdError)
  | database (error : TursoDatabaseError)
  | encode (message : String)
  | invalidSavePointStatement
  | io (kind : IoErrorKind) (message : String)
  | workerCrashed
  deriving DecidableEq, Repr

/-- The errors of a migration. -/
inductive MigrateError where
  | execute (error : SqlxError)
  | executeMigration (error : SqlxError) (version : Int64)
  deriving DecidableEq, Repr

def mapTursoError (error : Turso.Error) : SqlxError :=
  .database { code := tursoErrorCode error.variant, message := error.text }

/-- The error for a surface that is not implemented. -/
def unsupportedSqlx (surface : String) : SqlxError :=
  .configuration (surface ++ " is not supported by sqlx-turso yet")

def unsupportedAutovacuum : SqlxError :=
  .configuration <|
    "PRAGMA auto_vacuum is not supported by sqlx-turso yet. Turso keeps autovacuum behind " ++
    "an experimental opt-in because there are still open correctness issues in that code " ++
    "path, and the pinned Rust builder does not expose an autovacuum opt-in. Regular VACUUM " ++
    "is still supported behind TursoExperimentalFeature::Vacuum"

/-- Does the text of the error say that there was no transaction to roll back? -/
def rollbackErrorIsInactiveTransaction (error : Turso.Error) : Bool :=
  decide ("cannot rollback - no transaction is active".toList <:+: error.text.toList)

end SqlxTurso
