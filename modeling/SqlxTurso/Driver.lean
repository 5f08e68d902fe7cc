import SqlxTurso.Library.Futures
import SqlxTurso.Options.ConnectionUrl

/-!
# Opening databases

The driver checks the options, has the engine build a database or takes the one that the
in-memory state holds, connects to it, and applies the connection settings.  What it asks
of the engine, of the file system and of the lock of an in-memory state are its requests.
-/

namespace SqlxTurso

open Library

namespace Turso

/-- A database of the engine, told by its handle. -/
structure Database where
  handle : Nat
  deriving DecidableEq, Repr

/-- A database of the engine that is synchronised with a remote one. -/
structure Sync.Database where
  handle : Nat
  deriving DecidableEq, Repr

/-- A connection of the engine, told by the handle of its database. -/
structure Connection where
  database : Nat
  deriving DecidableEq, Repr

structure EncryptionOpts where
  cipher : String
  hexkey : String
  deriving DecidableEq, Repr

/-- A call on one of the engine's builders.  The calls `experimental_attach`,
`experimental_custom_types` and so on are one call with the feature. -/
inductive BuilderCall where
  | withIoImpl (io : TursoIo)
  | withIo (vfs : String)
  | experimentalEncryption (enabled : Bool)
  | withEncryption (encryption : EncryptionOpts)
  | experimental (feature : TursoExperimentalFeature) (enabled : Bool)
  | withRemoteUrl (remoteUrl : String)
  | withAuthToken (authToken : String)
  | withClientName (clientName : String)
  | withLongPollTimeout (timeout : Duration)
  | bootstrapIfEmpty (bootstrapIfEmpty : Bool)
  deriving DecidableEq, Repr

/-- A builder of local databases, with the calls on it in their order. -/
structure Builder where
  path : String
  calls : List BuilderCall
  deriving DecidableEq, Repr

namespace Builder

def newLocal (path : String) : Builder := ⟨path, []⟩

def call (builder : Builder) (call : BuilderCall) : Builder :=
  { builder with calls := builder.calls ++ [call] }

def experimental (builder : Builder) (features : TursoExperimentalFeatures)
    (feature : TursoExperimentalFeature) : Builder :=
  builder.call (.experimental feature (features.isEnabled feature))

end Builder

/-- A builder of synchronised databases, with the calls on it in their order. -/
structure Sync.Builder where
  path : String
  calls : List BuilderCall
  deriving DecidableEq, Repr

namespace Sync.Builder

def newRemote (path : String) : Sync.Builder := ⟨path, []⟩

def call (builder : Sync.Builder) (call : BuilderCall) : Sync.Builder :=
  { builder with calls := builder.calls ++ [call] }

/-- A call that is made only if there is a value for it. -/
def callWith {α : Type} (builder : Sync.Builder) (value : Option α) (call : α → BuilderCall) :
    Sync.Builder :=
  match value with
  | some value => builder.call (call value)
  | none => builder

end Sync.Builder

end Turso

def TursoEncryptionOptions.toTurso (encryption : TursoEncryptionOptions) :
    Turso.EncryptionOpts where
  cipher := encryption.cipher
  hexkey := encryption.hexkey

namespace Driver

/-- What the driver asks of the file system, the state of an in-memory database, and the
engine. -/
inductive Request where
  | pathExists (path : String)
  | lockMemory (state : TursoMemoryState)
  | readMemory (state : TursoMemoryState)
  | writeMemory (state : TursoMemoryState) (database : Turso.Database)
  | unlockMemory (state : TursoMemoryState)
  | build (builder : Turso.Builder)
  | buildSync (builder : Turso.Sync.Builder)
  | connect (database : Turso.Database)
  | connectSync (database : Turso.Sync.Database)
  | pragmaUpdate (connection : Turso.Connection) (key value : String)
  deriving DecidableEq, Repr

abbrev Response : Request → Type
  | .pathExists _ => Bool
  | .lockMemory _ => Unit
  | .readMemory _ => Option Turso.Database
  | .writeMemory _ _ => Unit
  | .unlockMemory _ => Unit
  | .build _ => Except Turso.Error Turso.Database
  | .buildSync _ => Except Turso.Error Turso.Sync.Database
  | .connect _ => Except Turso.Error Turso.Connection
  | .connectSync _ => Except Turso.Error Turso.Connection
  | .pragmaUpdate _ _ _ => Except Turso.Error Unit

/-- Is the request one that the driver awaits? -/
def Request.awaits : Request → Bool
  | lockMemory _ => true
  | build _ => true
  | buildSync _ => true
  | connectSync _ => true
  | pragmaUpdate _ _ _ => true
  | _ => false

end Driver

/-- The driver's asynchronous functions. -/
abbrev Driver := ExceptT SqlxError (Future Driver.Request Driver.Response)

namespace Driver

variable {α : Type}

/-- A request that is answered with a value. -/
def ask (request : Request) : Driver (Response request) :=
  ExceptT.mk (.ask request fun response => .done (.ok response))

/-- A request that the engine may refuse. -/
def attempt (request : Request) (read : Response request → Except Turso.Error α) : Driver α :=
  ExceptT.mk (.ask request fun response => .done ((read response).mapError mapTursoError))

def check (result : Except SqlxError α) : Driver α := ExceptT.mk (.done result)

/-- The body runs between taking the lock of an in-memory state and releasing it, however
it ends. -/
def locked (state : TursoMemoryState) (body : Driver α) : Driver α :=
  ExceptT.mk (.ask (.lockMemory state) fun _ =>
    body.run >>= fun result => .ask (.unlockMemory state) fun _ => .done result)

end Driver

/-- The path that the builder of a database is made with. -/
def TursoDatabaseTarget.builderPath : TursoDatabaseTarget → String
  | memory _ => ":memory:"
  | file path => path

structure TursoDriverConnection where
  raw : Turso.Connection
  sync : Option Turso.Sync.Database
  deriving DecidableEq, Repr

namespace TursoDriver

open Driver

/-- Does the setting turn autovacuum on or off? -/
def setsAutovacuum (pragma : String × Option String) : Bool :=
  eqIgnoreAsciiCase pragma.1.toList "auto_vacuum".toList && pragma.2.isSome

def validatePragmas (options : TursoConnectOptions) : Except SqlxError Unit :=
  if options.pragmas.any setsAutovacuum then .error unsupportedAutovacuum else .ok ()

def validateOpenSupport (options : TursoConnectOptions) : Except SqlxError Unit :=
  if options.openMode = .readOnly then
    .error (unsupportedSqlx "read-only Turso connections")
  else if options.immutable then
    .error (unsupportedSqlx "immutable Turso connections")
  else .ok ()

/-- The checks at the start of `connect_sync`. -/
def validateSyncSupport (options : TursoConnectOptions) : Except SqlxError Unit :=
  if options.openMode = .readOnly then
    .error (unsupportedSqlx "read-only Turso sync connections")
  else if options.immutable then
    .error (unsupportedSqlx "immutable Turso sync connections")
  else if options.customIo.isSome then
    .error (unsupportedSqlx "custom IO Turso sync connections")
  else .ok ()

def validateFileTarget (options : TursoConnectOptions) (path : String) : Driver Unit :=
  if options.openMode = .createIfMissing then return ()
  else do
    let found ← ask (.pathExists path)
    if found then return ()
    else check (.error (.io .notFound ("database file " ++ path ++ " does not exist")))

/-- The builder of a local database, with all the calls of `build_database`. -/
def localBuilder (options : TursoConnectOptions) (path : String) : Turso.Builder :=
  let builder := Turso.Builder.newLocal path
  let builder :=
    match options.customIo, options.vfs with
    | some io, _ => builder.call (.withIoImpl io)
    | none, some vfs => builder.call (.withIo vfs)
    | none, none => builder
  let builder :=
    match options.encryption with
    | some encryption =>
        (builder.call (.experimentalEncryption true)).call (.withEncryption encryption.toTurso)
    | none => builder
  let experimental := options.experimentalFeatures
  let builder := builder.experimental experimental .attach
  let builder := builder.experimental experimental .customTypes
  let builder := builder.experimental experimental .generatedColumns
  let builder := builder.experimental experimental .indexMethod
  let builder := builder.experimental experimental .materializedViews
  let builder := builder.experimental experimental .multiprocessWal
  let builder := builder.experimental experimental .vacuum
  builder.experimental experimental .withoutRowid

theorem localBuilder_path (options : TursoConnectOptions) (path : String) :
    (localBuilder options path).path = path := by
  rcases options with ⟨_, _, _, _, _, _, _ | vfs, _ | io, _ | encryption, _, _, _, _⟩ <;> rfl

def buildDatabase (options : TursoConnectOptions) (path : String) : Driver Turso.Database :=
  attempt (.build (localBuilder options path)) id

def memoryDatabase (options : TursoConnectOptions) : Driver Turso.Database :=
  if options.cacheMode = .privateCache then buildDatabase options ":memory:"
  else
    locked options.memoryState do
      match ← ask (.readMemory options.memoryState) with
      | some database => return database
      | none =>
          let created ← buildDatabase options ":memory:"
          let _ ← ask (.writeMemory options.memoryState created)
          return created

def database (options : TursoConnectOptions) : Driver Turso.Database := do
  check (validateOpenSupport options)
  match options.target with
  | .memory _ => memoryDatabase options
  | .file path =>
      validateFileTarget options path
      buildDatabase options path

/-- The settings with a value, in their order. -/
def applyPragmas (connection : Turso.Connection) : List (String × Option String) → Driver Unit
  | [] => return ()
  | (_, none) :: rest => applyPragmas connection rest
  | (key, some value) :: rest => do
      attempt (.pragmaUpdate connection key value) id
      applyPragmas connection rest

def applyConnectionOptions (options : TursoConnectOptions) (connection : Turso.Connection) :
    Driver Unit := do
  let busyTimeout := options.busyTimeout.asMillis
  attempt (.pragmaUpdate connection "busy_timeout" (toString busyTimeout)) id
  applyPragmas connection options.pragmas

/-- The builder of a synchronised database, with all the calls of `connect_sync`. -/
def syncBuilder (options : TursoConnectOptions) (sync : TursoSyncOptions) (path : String) :
    Turso.Sync.Builder :=
  let builder := (Turso.Sync.Builder.newRemote path).call (.withRemoteUrl sync.remoteUrl)
  let builder := builder.callWith sync.authToken .withAuthToken
  let builder := builder.callWith sync.clientName .withClientName
  let builder := builder.callWith sync.longPollTimeout .withLongPollTimeout
  let builder := builder.call (.bootstrapIfEmpty sync.bootstrapIfEmpty)
  builder.call (.experimental .indexMethod
    (options.experimentalFeatures.isEnabled .indexMethod))

theorem syncBuilder_path (options : TursoConnectOptions) (sync : TursoSyncOptions)
    (path : String) : (syncBuilder options sync path).path = path := by
  rcases sync with ⟨_, _ | token, _ | name, _ | timeout, _⟩ <;> rfl

/-- The path of a synchronised database, once it is checked. -/
def syncPath (options : TursoConnectOptions) : Driver String :=
  match options.target with
  | .memory _ => return ":memory:"
  | .file path => do
      validateFileTarget options path
      return path

def connectSync (options : TursoConnectOptions) (sync : TursoSyncOptions) :
    Driver TursoDriverConnection := do
  check (validateSyncSupport options)
  let path ← syncPath options
  let database ← attempt (.buildSync (syncBuilder options sync path)) id
  let connection ← attempt (.connectSync database) id
  applyConnectionOptions options connection
  return { raw := connection, sync := some database }

def connect (options : TursoConnectOptions) : Driver TursoDriverConnection := do
  check (validatePragmas options)
  match options.sync with
  | some sync => connectSync options sync
  | none =>
      let database ← database options
      let connection ← attempt (.connect database) id
      applyConnectionOptions options connection
      return { raw := connection, sync := none }

end TursoDriver

end SqlxTurso
