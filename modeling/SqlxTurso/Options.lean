import Mathlib.Data.List.Basic
import SqlxTurso.Error

/-!
# Connection options

The options of a connection and their builders.  An in-memory target takes its
name from a counter of the process, and its shared state is allocated together
with it, so the builders that make one run in the state of the process.
-/

namespace SqlxTurso

/-- What the process hands out: the next number of an in-memory database, and
the next state shared by the connections to one. -/
structure Process where
  inMemoryDbSeq : Nat
  nextMemoryState : Nat
  deriving DecidableEq, Repr

/-- A length of time, in nanoseconds. -/
abbrev Duration := Nat

namespace Duration

def fromSecs (secs : Nat) : Duration := secs * 1000000000

def fromMillis (millis : Nat) : Duration := millis * 1000000

def asMillis (duration : Duration) : Nat := duration / 1000000

end Duration

def defaultStatementCacheCapacity : Nat := 100

def defaultBusyTimeout : Duration := .fromSecs 5

/-- The database that a connection is for.  File paths are those that are valid
Unicode. -/
inductive TursoDatabaseTarget where
  | memory (name : String)
  | file (path : String)
  deriving DecidableEq, Repr

namespace TursoDatabaseTarget

def isMemory : TursoDatabaseTarget → Bool
  | memory _ => true
  | file _ => false

end TursoDatabaseTarget

def configError (message : String) : SqlxError := .configuration message

def isAsciiHexdigit (char : Char) : Bool :=
  char.isDigit || ('a' ≤ char && char ≤ 'f') || ('A' ≤ char && char ≤ 'F')

/-- Settings for the encryption of a local database; only settings that passed
the checks of `new` exist. -/
structure TursoEncryptionOptions where
  cipher : String
  hexkey : String
  cipher_ne : cipher ≠ ""
  hexkey_ne : hexkey ≠ ""
  hexkey_even : hexkey.utf8ByteSize % 2 = 0
  hexkey_digits : hexkey.toList.all isAsciiHexdigit = true
  deriving DecidableEq

namespace TursoEncryptionOptions

def new (cipher hexkey : String) : Except SqlxError TursoEncryptionOptions :=
  if cipherEmpty : cipher = "" then
    .error (configError "Turso encryption cipher cannot be empty")
  else if hexkeyEmpty : hexkey = "" then
    .error (configError "Turso encryption hex key cannot be empty")
  else if bad : hexkey.utf8ByteSize % 2 ≠ 0 ∨ ¬ hexkey.toList.all isAsciiHexdigit then
    .error (configError "Turso encryption hex key must contain even-length hexadecimal")
  else
    .ok ⟨cipher, hexkey, cipherEmpty, hexkeyEmpty, by simp_all, by simp_all⟩

/-- Settings pass the checks they were made with. -/
@[simp] theorem new_self (encryption : TursoEncryptionOptions) :
    new encryption.cipher encryption.hexkey = .ok encryption := by
  rcases encryption with ⟨cipher, hexkey, cipherNe, hexkeyNe, even, digits⟩
  simp [new, cipherNe, hexkeyNe, even, digits]

end TursoEncryptionOptions

/-- Settings for the synchronisation with a remote database. -/
structure TursoSyncOptions where
  remoteUrl : String := ""
  authToken : Option String := none
  clientName : Option String := none
  longPollTimeout : Option Duration := none
  bootstrapIfEmpty : Bool := true
  deriving DecidableEq, Repr

namespace TursoSyncOptions

def new (remoteUrl : String) : TursoSyncOptions := { remoteUrl }

def withAuthToken (sync : TursoSyncOptions) (authToken : String) : TursoSyncOptions :=
  { sync with authToken := some authToken }

def withClientName (sync : TursoSyncOptions) (clientName : String) : TursoSyncOptions :=
  { sync with clientName := some clientName }

def withLongPollTimeout (sync : TursoSyncOptions) (timeout : Duration) : TursoSyncOptions :=
  { sync with longPollTimeout := some timeout }

def withBootstrapIfEmpty (sync : TursoSyncOptions) (bootstrapIfEmpty : Bool) :
    TursoSyncOptions :=
  { sync with bootstrapIfEmpty }

end TursoSyncOptions

/-- A custom IO backend, told by its handle. -/
structure TursoIo where
  handle : Nat
  deriving DecidableEq, Repr

/-- Experimental features of the engine's builder. -/
inductive TursoExperimentalFeature where
  | attach
  | customTypes
  | generatedColumns
  | indexMethod
  | materializedViews
  | multiprocessWal
  | vacuum
  | withoutRowid
  deriving DecidableEq, Repr

structure TursoExperimentalFeatures where
  attach : Bool := false
  customTypes : Bool := false
  generatedColumns : Bool := false
  indexMethod : Bool := false
  materializedViews : Bool := false
  multiprocessWal : Bool := false
  vacuum : Bool := false
  withoutRowid : Bool := false
  deriving DecidableEq, Repr

namespace TursoExperimentalFeatures

def isEnabled (features : TursoExperimentalFeatures) : TursoExperimentalFeature → Bool
  | .attach => features.attach
  | .customTypes => features.customTypes
  | .generatedColumns => features.generatedColumns
  | .indexMethod => features.indexMethod
  | .materializedViews => features.materializedViews
  | .multiprocessWal => features.multiprocessWal
  | .vacuum => features.vacuum
  | .withoutRowid => features.withoutRowid

def set (features : TursoExperimentalFeatures) (feature : TursoExperimentalFeature)
    (enabled : Bool) : TursoExperimentalFeatures :=
  match feature with
  | .attach => { features with attach := enabled }
  | .customTypes => { features with customTypes := enabled }
  | .generatedColumns => { features with generatedColumns := enabled }
  | .indexMethod => { features with indexMethod := enabled }
  | .materializedViews => { features with materializedViews := enabled }
  | .multiprocessWal => { features with multiprocessWal := enabled }
  | .vacuum => { features with vacuum := enabled }
  | .withoutRowid => { features with withoutRowid := enabled }

@[simp] theorem isEnabled_set (features : TursoExperimentalFeatures)
    (feature other : TursoExperimentalFeature) (enabled : Bool) :
    (features.set feature enabled).isEnabled other =
      if other = feature then enabled else features.isEnabled other := by
  cases feature <;> cases other <;> rfl

/-- The names of the features in a URL, in the order they are written. -/
def queryNames : List (TursoExperimentalFeature × String) :=
  [(.attach, "attach"), (.customTypes, "custom_types"),
    (.generatedColumns, "generated_columns"), (.indexMethod, "index_method"),
    (.materializedViews, "views"), (.multiprocessWal, "multiprocess_wal"),
    (.vacuum, "vacuum"), (.withoutRowid, "without_rowid")]

def toQueryValue (features : TursoExperimentalFeatures) : String :=
  ",".intercalate <| queryNames.filterMap fun (feature, value) =>
    if features.isEnabled feature then some value else none

end TursoExperimentalFeatures

inductive TursoOpenMode where
  | readWrite
  | createIfMissing
  | readOnly
  deriving DecidableEq, Repr

namespace TursoOpenMode

def fromReadOnly (readOnly : Bool) (current : TursoOpenMode) : TursoOpenMode :=
  if readOnly then .readOnly else if current = .readOnly then .readWrite else current

def fromCreateIfMissing (createIfMissing : Bool) (current : TursoOpenMode) : TursoOpenMode :=
  if createIfMissing then .createIfMissing
  else if current = .createIfMissing then .readWrite
  else current

def urlMode (mode : TursoOpenMode) (target : TursoDatabaseTarget) : String :=
  if target.isMemory then "memory"
  else
    match mode with
    | readWrite => "rw"
    | createIfMissing => "rwc"
    | readOnly => "ro"

end TursoOpenMode

/-- `TursoCacheMode`. The name stands for the enumeration `private`, `shared`. -/
inductive TursoCacheMode where
  | privateCache
  | sharedCache
  deriving DecidableEq, Repr

namespace TursoCacheMode

def fromShared (sharedCache : Bool) : TursoCacheMode :=
  if sharedCache then .sharedCache else .privateCache

def urlValue : TursoCacheMode → String
  | privateCache => "private"
  | sharedCache => "shared"

end TursoCacheMode

/-- The state shared by the connections to one in-memory database, told by its
allocation. -/
structure TursoMemoryState where
  allocation : Nat
  deriving DecidableEq, Repr

namespace TursoMemoryState

def new : StateM Process TursoMemoryState := fun process =>
  (⟨process.nextMemoryState⟩, { process with nextMemoryState := process.nextMemoryState + 1 })

end TursoMemoryState

def newMemoryTarget : StateM Process TursoDatabaseTarget := fun process =>
  (.memory ("sqlx-turso-in-memory-" ++ toString process.inMemoryDbSeq),
    { process with inMemoryDbSeq := process.inMemoryDbSeq + 1 })

def defaultPragmas : List (String × Option String) :=
  [("key", none), ("cipher_plaintext_header_size", none), ("cipher_salt", none),
    ("kdf_iter", none), ("cipher_kdf_algorithm", none), ("cipher_use_hmac", none),
    ("cipher_compatibility", none), ("cipher_page_size", none),
    ("cipher_hmac_algorithm", none), ("page_size", none), ("locking_mode", none),
    ("auto_vacuum", none), ("journal_mode", none), ("foreign_keys", some "ON"),
    ("synchronous", none), ("analysis_limit", none)]

structure TursoConnectOptions where
  target : TursoDatabaseTarget
  openMode : TursoOpenMode
  cacheMode : TursoCacheMode
  immutable : Bool
  busyTimeout : Duration
  statementCacheCapacity : Nat
  vfs : Option String
  customIo : Option TursoIo
  encryption : Option TursoEncryptionOptions
  sync : Option TursoSyncOptions
  experimentalFeatures : TursoExperimentalFeatures
  pragmas : List (String × Option String)
  memoryState : TursoMemoryState
  deriving DecidableEq

namespace TursoConnectOptions

variable (options : TursoConnectOptions)

def default : StateM Process TursoConnectOptions := do
  let target ← newMemoryTarget
  let memoryState ← TursoMemoryState.new
  return {
    target, memoryState
    openMode := .readWrite
    cacheMode := .sharedCache
    immutable := false
    busyTimeout := defaultBusyTimeout
    statementCacheCapacity := defaultStatementCacheCapacity
    vfs := none
    customIo := none
    encryption := none
    sync := none
    experimentalFeatures := {}
    pragmas := defaultPragmas }

def filename (path : String) : TursoConnectOptions :=
  { options with target := .file path, cacheMode := .privateCache }

def inMemory (inMemory : Bool) : StateM Process TursoConnectOptions := do
  if inMemory then
    let target ← newMemoryTarget
    let memoryState ← TursoMemoryState.new
    return { options with target, memoryState, cacheMode := .sharedCache }
  else if options.target.isMemory then
    return { options with target := .file ":memory:", cacheMode := .privateCache }
  else
    return options

def readOnly (readOnly : Bool) : TursoConnectOptions :=
  { options with openMode := .fromReadOnly readOnly options.openMode }

def createIfMissing (createIfMissing : Bool) : TursoConnectOptions :=
  { options with openMode := .fromCreateIfMissing createIfMissing options.openMode }

def sharedCache (sharedCache : Bool) : TursoConnectOptions :=
  { options with cacheMode := .fromShared sharedCache }

def withImmutable (immutable : Bool) : TursoConnectOptions := { options with immutable }

def withBusyTimeout (busyTimeout : Duration) : TursoConnectOptions :=
  { options with busyTimeout }

def withStatementCacheCapacity (statementCacheCapacity : Nat) : TursoConnectOptions :=
  { options with statementCacheCapacity }

def withVfs (vfs : String) : TursoConnectOptions :=
  { options with vfs := some vfs, customIo := none }

def withCustomIo (io : TursoIo) : TursoConnectOptions :=
  { options with customIo := some io, vfs := none }

def clearCustomIo : TursoConnectOptions := { options with customIo := none }

def encryptionOptions (encryption : TursoEncryptionOptions) : TursoConnectOptions :=
  { options with encryption := some encryption }

def clearEncryption : TursoConnectOptions := { options with encryption := none }

def withSyncOptions (sync : TursoSyncOptions) : TursoConnectOptions :=
  { options with sync := some sync }

def clearSyncOptions : TursoConnectOptions := { options with sync := none }

def experimentalFeature (feature : TursoExperimentalFeature) (enabled : Bool) :
    TursoConnectOptions :=
  { options with experimentalFeatures := options.experimentalFeatures.set feature enabled }

/-- Replace the value of the first setting with the name, or add one at the end. -/
def setPragma (key : String) (value : Option String) :
    List (String × Option String) → List (String × Option String)
  | [] => [(key, value)]
  | (name, existing) :: rest =>
      if name = key then (name, value) :: rest
      else (name, existing) :: setPragma key value rest

def pragma (key : String) (value : Option String) : TursoConnectOptions :=
  { options with pragmas := setPragma key value options.pragmas }

def mvcc (enabled : Bool) : TursoConnectOptions :=
  if enabled then options.pragma "journal_mode" (some "'mvcc'")
  else options.pragma "journal_mode" none

end TursoConnectOptions

end SqlxTurso
