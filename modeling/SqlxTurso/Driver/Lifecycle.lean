import SqlxTurso.Driver
import SqlxTurso.Library.Triples

/-!
# Databases that come and go

What SQLx's tools ask of a database as a whole: that it is created, whether it is there, and
that it is dropped.  Nothing locks the files of a database.  Any number of these calls run on
the files that they share, each with its steps between those of the others.
-/

namespace SqlxTurso

open Library

/-- The suffixes of the files beside the main one. -/
def sidecarSuffixes : List String :=
  ["-wal", "-shm", "-wal-tshm", "-wal-revert", "-info", "-changes"]

def knownDatabaseFiles (path : String) : List String := ("" :: sidecarSuffixes).map (path ++ ·)

namespace MigrateDatabase

/-- Why a file was not removed. -/
structure RemovalError where
  notFound : Bool
  text : String
  deriving DecidableEq, Repr

inductive Error where
  | sqlx (error : SqlxError)
  | io (error : RemovalError)
  deriving DecidableEq, Repr

inductive Request where
  | driver (request : Driver.Request)
  | removeFile (path : String)
  deriving DecidableEq, Repr

abbrev Response : Request → Type
  | .driver request => Driver.Response request
  | .removeFile _ => Except RemovalError Unit

def Request.awaits : Request → Bool
  | driver request => request.awaits
  | removeFile _ => true

end MigrateDatabase

/-- The asynchronous functions on databases as a whole. -/
abbrev MigrateDatabase := ExceptT MigrateDatabase.Error
  (Future MigrateDatabase.Request MigrateDatabase.Response)

def TursoConnectOptions.isInMemory (options : TursoConnectOptions) : Bool :=
  options.target.isMemory

namespace MigrateDatabase

variable {α β : Type}

def ofDriver (action : Driver α) : MigrateDatabase α :=
  Future.mapError .sqlx (ExceptT.mk (action.run.translate .driver fun _ => id))

/-- A result of the driver's that asks for nothing. -/
def ofExcept (result : Except SqlxError α) : MigrateDatabase α :=
  ExceptT.mk (.done (result.mapError .sqlx))

def removeFile (path : String) :
    ExceptT RemovalError (Future Request Response) Unit :=
  ExceptT.mk (.ask (.removeFile path) .done)

/-- The loop of `remove_known_database_files`: a file that is not there is passed over, and
any other error ends it. -/
def removeFiles : List String → MigrateDatabase Unit
  | [] => return ()
  | file :: rest => do
      match ← Future.result (removeFile file) with
      | .ok _ => removeFiles rest
      | .error error => if error.notFound then removeFiles rest else throw (.io error)

def removeKnownDatabaseFiles (path : String) : MigrateDatabase Unit :=
  removeFiles (knownDatabaseFiles path)

variable (crate : UrlCrate) (process : Process)

/-- The options of a URL, with the process as it is when the URL is read. -/
def parsed (url : Bytes) : MigrateDatabase TursoConnectOptions :=
  ofExcept (TursoConnectOptions.fromStr crate url process).1

/-- A connection that was made is closed at once, which asks for nothing. -/
def createDatabase (url : Bytes) : MigrateDatabase Unit := do
  let options ← parsed crate process url
  let options := options.createIfMissing true
  if options.isInMemory then return ()
  else do
    let _ ← ofDriver (TursoDriver.connect options)
    return ()

def databaseExists (url : Bytes) : MigrateDatabase Bool := do
  let options ← parsed crate process url
  match options.target with
  | .memory _ => return true
  | .file path => ofDriver (Driver.ask (.pathExists path))

def dropDatabase (url : Bytes) : MigrateDatabase Unit := do
  let options ← parsed crate process url
  match options.target with
  | .memory _ => return ()
  | .file path => removeKnownDatabaseFiles path

/-- A call on a database as a whole. -/
inductive Call where
  | createDatabase (url : Bytes)
  | databaseExists (url : Bytes)
  | dropDatabase (url : Bytes)
  deriving DecidableEq, Repr

/-- What a call gives for a database that is kept in memory. -/
def Call.inMemory : Call → Option Bool
  | createDatabase _ => none
  | databaseExists _ => some true
  | dropDatabase _ => none

def Call.url : Call → Bytes
  | createDatabase url => url
  | databaseExists url => url
  | dropDatabase url => url

def Call.run : Call → MigrateDatabase (Option Bool)
  | createDatabase url => do
      MigrateDatabase.createDatabase crate process url
      return none
  | databaseExists url => do
      let found ← MigrateDatabase.databaseExists crate process url
      return some found
  | dropDatabase url => do
      MigrateDatabase.dropDatabase crate process url
      return none

end MigrateDatabase

/-! ## The files and the engine -/

namespace Turso

/-- Is the path one of a file to the engine?  Others are of databases that it keeps in memory. -/
def isFilePath (path : String) : Bool :=
  path ≠ "" && !":memory:".toList.isPrefixOf path.toList

def BuilderCall.setsIo : BuilderCall → Bool
  | withIoImpl _ => true
  | withIo _ => true
  | _ => false

/-- Does the engine keep the database of the builder in a file of this path? -/
def Builder.opensFile (builder : Builder) : Bool :=
  isFilePath builder.path && !builder.calls.any BuilderCall.setsIo

def Sync.Builder.opensFile (builder : Sync.Builder) : Bool :=
  isFilePath builder.path && !builder.calls.any BuilderCall.setsIo

end Turso

/-- Does the engine keep the database in a file of this path? -/
def TursoConnectOptions.keepsFile (options : TursoConnectOptions) (path : String) : Bool :=
  Turso.isFilePath path &&
    (options.sync.isSome || options.vfs.isNone && options.customIo.isNone)

namespace TursoDriver

theorem localBuilder_opensFile {options : TursoConnectOptions} {path : String}
    (keeps : options.keepsFile path = true) (isLocal : options.sync = none) :
    (localBuilder options path).opensFile = true := by
  rcases options with ⟨_, _, _, _, _, _, _ | vfs, _ | io, _ | encryption, _, _, _, _⟩
  all_goals
    simp_all [TursoConnectOptions.keepsFile, Turso.Builder.opensFile, localBuilder,
      Turso.Builder.call, Turso.Builder.experimental, Turso.BuilderCall.setsIo,
      Turso.Builder.newLocal]

theorem syncBuilder_opensFile {options : TursoConnectOptions} {path : String}
    (keeps : options.keepsFile path = true) (sync : TursoSyncOptions) :
    (syncBuilder options sync path).opensFile = true := by
  have isPath : Turso.isFilePath path = true := by simp_all [TursoConnectOptions.keepsFile]
  rcases sync with ⟨_, _ | token, _ | name, _ | timeout, _⟩
  all_goals
    simp [Turso.Sync.Builder.opensFile, syncBuilder, Turso.Sync.Builder.call,
      Turso.Sync.Builder.callWith, Turso.BuilderCall.setsIo, Turso.Sync.Builder.newRemote, isPath]

end TursoDriver

namespace MigrateDatabase

/-- The files that are there. -/
abbrev Files := String → Bool

/-- What the calls meet beside the files: the engine's handles, with the paths of their
databases, and the files whose metadata cannot always be read. -/
structure Surroundings where
  path : Nat → String
  syncPath : Nat → String
  hides : String → Prop

/-- What the engine may do when it works on the database at the path.  It touches no other
files than those of the database, and it removes no database. -/
structure Worked (path : String) (before after : Files) : Prop where
  elsewhere : ∀ file, file ∉ knownDatabaseFiles path → after file = before file
  kept : before path = true → after path = true

/-- What a request does.  A file whose metadata cannot be read may go unseen.  A build that
succeeds leaves the file of the database. -/
def Answers (around : Surroundings) (files : Files) :
    (request : Request) → Response request → Files → Prop
  | .driver (.pathExists path), found, after =>
      (found = true → files path = true) ∧ (¬ around.hides path → found = files path) ∧
        after = files
  | .driver (.build builder), result, after =>
      Worked builder.path files after ∧ ∀ database, result = .ok database →
        around.path database.handle = builder.path ∧
          (builder.opensFile = true → after builder.path = true)
  | .driver (.buildSync builder), result, after =>
      Worked builder.path files after ∧ ∀ database, result = .ok database →
        around.syncPath database.handle = builder.path ∧
          (builder.opensFile = true → after builder.path = true)
  | .driver (.connect database), result, after =>
      Worked (around.path database.handle) files after ∧ ∀ connection, result = .ok connection →
        around.path connection.database = around.path database.handle
  | .driver (.connectSync database), result, after =>
      Worked (around.syncPath database.handle) files after ∧
        ∀ connection, result = .ok connection →
          around.path connection.database = around.syncPath database.handle
  | .driver (.pragmaUpdate connection _ _), _, after =>
      Worked (around.path connection.database) files after
  | .driver _, _, after => after = files
  | .removeFile file, .ok _, after => files file = true ∧ after = Function.update files file false
  | .removeFile file, .error error, after =>
      after = files ∧ (error.notFound = true → files file = false)

variable {Client : Type}

def environment (Client : Type) (around : Surroundings) : Environment Client Files Request Response where
  answers := fun _ => Answers around
  awaits := Request.awaits
  drops := fun _ => id

/-! ## What comes and what goes -/

variable (creates drops : String → Prop)

/-- A file that someone who creates a database may leave. -/
def MayCome (file : String) : Prop := ∃ path, creates path ∧ file ∈ knownDatabaseFiles path

/-- A file that someone may remove, with the database or in using it. -/
def MayGo (file : String) : Prop :=
  (∃ path, drops path ∧ file ∈ knownDatabaseFiles path) ∨
    ∃ path, creates path ∧ file ∈ knownDatabaseFiles path ∧ file ≠ path

/-- What has changed is what may come or go. -/
def Moved (before after : Files) : Prop :=
  ∀ file, (before file = false → after file = true → MayCome creates file) ∧
    (before file = true → after file = false → MayGo creates drops file)

variable {creates drops} {before after later : Files}

theorem Moved.refl (files : Files) : Moved creates drops files files := by
  refine fun file => ⟨fun absent present => ?_, fun present absent => ?_⟩
  · rw [absent] at present
    cases present
  · rw [absent] at present
    cases present

theorem Moved.trans (first : Moved creates drops before after)
    (second : Moved creates drops after later) : Moved creates drops before later := by
  refine fun file => ⟨fun absent present => ?_, fun present absent => ?_⟩
  · cases between : after file with
    | false => exact (second file).1 between present
    | true => exact (first file).1 absent between
  · cases between : after file with
    | false => exact (first file).2 present between
    | true => exact (second file).2 between absent

/-- Who creates a database may have the engine work on it. -/
theorem Worked.moved {path : String} (isCreated : creates path)
    (worked : Worked path before after) : Moved creates drops before after := by
  have touched {file : String} (changed : after file ≠ before file) :
      file ∈ knownDatabaseFiles path := by
    by_contra notKnown
    exact changed (worked.elsewhere file notKnown)
  refine fun file => ⟨fun absent present => ⟨path, isCreated, touched ?_⟩,
    fun present absent => .inr ⟨path, isCreated, touched ?_, ?_⟩⟩
  · simp [absent, present]
  · simp [absent, present]
  · rintro rfl
    rw [worked.kept present] at absent
    cases absent

theorem Moved.removed {path file : String} (isDropped : drops path)
    (isKnown : file ∈ knownDatabaseFiles path) :
    Moved creates drops before (Function.update before file false) := by
  refine fun other => ⟨fun absent present => ?_, fun present absent => ?_⟩
  · by_cases isFile : other = file
    · rw [isFile, Function.update_self] at present
      cases present
    · rw [Function.update_of_ne isFile, absent] at present
      cases present
  · by_cases isFile : other = file
    · exact .inl ⟨path, isDropped, isFile ▸ isKnown⟩
    · rw [Function.update_of_ne isFile, present] at absent
      cases absent

variable (creates drops) in
/-- Everyone keeps to what may come and go. -/
def contract (Client : Type) (around : Surroundings) : Contract (environment Client around) where
  rely := fun _ => Moved creates drops
  guarantee := fun _ => Moved creates drops
  permits := fun _ _ _ => True
  rely_refl := fun _ => .refl
  rely_trans := .trans
  rely_of_guarantee := fun _ moved => moved

variable {around : Surroundings} {client : Client}

theorem stable_present {file : String} (stays : ¬ MayGo creates drops file) :
    (contract creates drops Client around).Stable client fun files => files file = true := by
  intro before after moved present
  cases now : after file with
  | false => exact absurd ((moved file).2 present now) stays
  | true => rfl

theorem stable_absent {file : String} (stays : ¬ MayCome creates file) :
    (contract creates drops Client around).Stable client fun files => files file = false := by
  intro before after moved absent
  cases now : after file with
  | false => rfl
  | true => exact absurd ((moved file).1 absent now) stays

theorem stable_fact (fact : Prop) :
    (contract creates drops Client around).Stable client fun _ => fact :=
  fun _ _ _ holds => holds

theorem stable_forall {ι : Sort*} {holds : ι → Files → Prop}
    (stable : ∀ index, (contract creates drops Client around).Stable client (holds index)) :
    (contract creates drops Client around).Stable client fun files => ∀ index, holds index files :=
  fun before after moved all index => stable index before after moved (all index)

/-- What holds if the file does not go stays so. -/
theorem stable_kept (file : String) :
    (contract creates drops Client around).Stable client fun files =>
      ¬ MayGo creates drops file → files file = true :=
  stable_forall fun stays => stable_present stays

theorem stable_gone (files : List String) :
    (contract creates drops Client around).Stable client fun now =>
      ∀ file ∈ files, ¬ MayCome creates file → now file = false :=
  stable_forall fun _ => stable_forall fun _ => stable_forall fun stays => stable_absent stays

end MigrateDatabase

end SqlxTurso
