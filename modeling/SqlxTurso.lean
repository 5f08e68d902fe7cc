import SqlxTurso.Cli.Concurrent
import SqlxTurso.Connection.AnyBackend
import SqlxTurso.Connection.Batches
import SqlxTurso.Connection.Bound
import SqlxTurso.Connection.Cache
import SqlxTurso.Connection.CustomBegin
import SqlxTurso.Driver.Databases
import SqlxTurso.Driver.Pragmas
import SqlxTurso.Driver.SharedMemory
import SqlxTurso.Error.Kinds
import SqlxTurso.Macros.Heads
import SqlxTurso.Migrate.Accepted
import SqlxTurso.Migrate.History
import SqlxTurso.Temporal.Exchange
import SqlxTurso.Types.AnyRow
import SqlxTurso.Types.Compatible
import SqlxTurso.Types.Preferences
