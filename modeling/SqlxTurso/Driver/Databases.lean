import SqlxTurso.Driver.Lifecycle
import SqlxTurso.Library.PlainUrls

/-!
# Databases at the same time

Clients create, look for and drop databases, each with its steps between those of the
others.  Nothing locks the files.  What each of them can tell when it ends is what the
others do not undo.
-/

namespace SqlxTurso

open Library

namespace MigrateDatabase

variable {α β Client : Type} {creates drops : String → Prop} {before after later : Files}
  {around : Surroundings} {client : Client}

/-! ## The driver's part -/

theorem ofDriver_bind (action : Driver α) (next : α → Driver β) :
    ofDriver (action >>= next) = ofDriver action >>= fun value => ofDriver (next value) := by
  refine ExceptT.ext ?_
  rw [Future.run_bind]
  show Future.bind (((action >>= next).run).translate _ _) _ = Future.bind (Future.bind _ _) _
  rw [Future.run_bind]
  generalize action.run = future
  induction future with
  | done result => cases result <;> rfl
  | ask request rest restIH => exact congrArg _ (funext restIH)

@[simp] theorem ofDriver_pure (value : α) : ofDriver (pure value) = pure value := rfl

theorem ofDriver_attempt (request : Driver.Request)
    (read : Driver.Response request → Except Turso.Error α) :
    ofDriver (Driver.attempt request read) = ExceptT.mk (.ask (.driver request) fun response =>
      .done (((read response).mapError mapTursoError).mapError .sqlx)) := rfl

section Triples

variable {path : String} {options : TursoConnectOptions}

theorem ofExcept_triple {result : Except SqlxError α} {holds : Files → Prop}
    {after : Except Error α → Files → Prop}
    (stable : (contract creates drops Client around).Stable client (after (result.mapError .sqlx)))
    (ended : ∀ files, holds files → after (result.mapError .sqlx) files) :
    (contract creates drops Client around).Triple client holds (ofExcept result) after :=
  fun files atStart later relied => stable files later relied (ended files atStart)

/-- A condition for a value.  Nothing is told of an error. -/
def Returning (returned : α → Files → Prop) : Except Error α → Files → Prop
  | .ok value => returned value
  | .error _ => fun _ => True

theorem stable_returning {returned : α → Files → Prop}
    (stable : ∀ value, (contract creates drops Client around).Stable client (returned value))
    (result : Except Error α) :
    (contract creates drops Client around).Stable client (Returning returned result) := by
  cases result with
  | ok value => exact stable value
  | error error => exact stable_fact True

theorem returning_bind {action : MigrateDatabase β} {next : β → MigrateDatabase α}
    {holds : Files → Prop} {between : β → Files → Prop} {returned : α → Files → Prop}
    (first : (contract creates drops Client around).Triple client holds action (Returning between))
    (rest : ∀ value, (contract creates drops Client around).Triple client (between value)
      (next value) (Returning returned)) :
    (contract creates drops Client around).Triple client holds (action >>= next)
      (Returning returned) := by
  refine .bind between (fun _ => stable_fact True) (first.mono (fun _ => id) ?_) rest
  intro result files atEnd
  cases result with
  | ok value => exact atEnd
  | error error => exact True.intro

/-- The engine's work on a database that someone creates. -/
theorem attempt_triple {request : Driver.Request}
    {read : Driver.Response request → Except Turso.Error α} {holds : Files → Prop}
    {returned : α → Files → Prop} (isCreated : creates path)
    (stable : (contract creates drops Client around).Stable client holds)
    (stableReturned : ∀ value, (contract creates drops Client around).Stable client (returned value))
    (worked : ∀ files response after, holds files →
      Answers around files (.driver request) response after → Worked path files after ∧
        ∀ value, read response = .ok value → returned value after) :
    (contract creates drops Client around).Triple client holds
      (ofDriver (Driver.attempt request read)) (Returning returned) := by
  rw [ofDriver_attempt]
  refine .ask stable (stable_returning stableReturned) (fun _ _ => True.intro)
    (fun _ _ _ => .refl _) fun files response after atStart answered => ?_
  obtain ⟨isWorked, isReturned⟩ := worked files response after atStart answered
  refine ⟨isWorked.moved isCreated, ?_⟩
  cases isRead : read response with
  | ok value => exact isReturned value isRead
  | error error => exact True.intro

/-- Someone who creates the database has found its file to be there. -/
def Held (creates drops : String → Prop) (options : TursoConnectOptions) (path : String)
    (files : Files) : Prop :=
  options.keepsFile path = true → ¬ MayGo creates drops path → files path = true

theorem stable_held :
    (contract creates drops Client around).Stable client (Held creates drops options path) :=
  stable_forall fun _ => stable_kept path

theorem Held.worked {files after : Files} (held : Held creates drops options path files)
    (worked : Worked path files after) : Held creates drops options path after :=
  fun keeps stays => worked.kept (held keeps stays)

theorem pragmaUpdate_triple {connection : Turso.Connection} (isCreated : creates path)
    (isPath : around.path connection.database = path) (key value : String) :
    (contract creates drops Client around).Triple client (Held creates drops options path)
      (ofDriver (Driver.attempt (.pragmaUpdate connection key value) id))
      (Returning fun _ => Held creates drops options path) := by
  refine attempt_triple isCreated stable_held (fun _ => stable_held) ?_
  intro files response after held worked
  rw [Answers, isPath] at worked
  exact ⟨worked, fun _ _ => held.worked worked⟩

theorem applyPragmas_triple {connection : Turso.Connection} (isCreated : creates path)
    (isPath : around.path connection.database = path)
    (pragmas : List (String × Option String)) :
    (contract creates drops Client around).Triple client (Held creates drops options path)
      (ofDriver (TursoDriver.applyPragmas connection pragmas))
      (Returning fun _ => Held creates drops options path) := by
  induction pragmas with
  | nil => exact .pure stable_held fun _ held => held
  | cons pragma rest ih =>
      rcases pragma with ⟨key, _ | value⟩
      · exact ih
      · rw [TursoDriver.applyPragmas, ofDriver_bind]
        exact returning_bind (pragmaUpdate_triple isCreated isPath key value) fun _ => ih

/-- Connecting to a database that was built, and setting the connection up. -/
theorem setup_triple {connect : Driver.Request}
    {read : Driver.Response connect → Except Turso.Error Turso.Connection}
    {result : Turso.Connection → TursoDriverConnection} (isCreated : creates path)
    (connected : ∀ files response after, Answers around files (.driver connect) response after →
      Worked path files after ∧ ∀ connection, read response = .ok connection →
        around.path connection.database = path) :
    (contract creates drops Client around).Triple client (Held creates drops options path)
      (ofDriver do
        let connection ← Driver.attempt connect read
        TursoDriver.applyConnectionOptions options connection
        return result connection)
      (Returning fun _ => Held creates drops options path) := by
  have isConnection : (contract creates drops Client around).Triple client
      (Held creates drops options path) (ofDriver (Driver.attempt connect read))
      (Returning fun connection files =>
        Held creates drops options path files ∧ around.path connection.database = path) := by
    refine attempt_triple isCreated stable_held (fun _ => stable_held.and (stable_fact _)) ?_
    intro files response after held answered
    obtain ⟨worked, isConnected⟩ := connected files response after answered
    exact ⟨worked, fun connection isRead => ⟨held.worked worked, isConnected connection isRead⟩⟩
  rw [ofDriver_bind]
  refine returning_bind isConnection fun connection => .assuming fun isPath => ?_
  rw [ofDriver_bind, TursoDriver.applyConnectionOptions, ofDriver_bind]
  refine returning_bind ?_ fun _ => .pure stable_held fun _ held => held
  exact returning_bind (pragmaUpdate_triple isCreated isPath _ _)
    fun _ => applyPragmas_triple isCreated isPath _

/-- A check that asks for nothing. -/
theorem check_triple {result : Except SqlxError Unit} :
    (contract creates drops Client around).Triple client (fun _ => True)
      (ofDriver (Driver.check result)) (Returning fun _ _ => True) :=
  ofExcept_triple (stable_returning (fun _ => stable_fact True) _) fun _ _ => by
    cases result <;> exact True.intro

/-- A file that is created if it is missing is not asked for. -/
theorem validateFileTarget_triple (isCreating : options.openMode = .createIfMissing)
    (path : String) :
    (contract creates drops Client around).Triple client (fun _ => True)
      (ofDriver (TursoDriver.validateFileTarget options path)) (Returning fun _ _ => True) := by
  rw [TursoDriver.validateFileTarget, if_pos isCreating]
  exact .pure (stable_fact True) fun _ _ => True.intro

theorem syncPath_triple (isCreating : options.openMode = .createIfMissing)
    (isFile : options.target = .file path) :
    (contract creates drops Client around).Triple client (fun _ => True)
      (ofDriver (TursoDriver.syncPath options)) (Returning fun found _ => True ∧ found = path) := by
  rw [TursoDriver.syncPath, isFile]
  dsimp only
  rw [ofDriver_bind]
  refine returning_bind (validateFileTarget_triple isCreating path) fun _ => ?_
  exact .pure (stable_fact _) fun _ _ => ⟨True.intro, rfl⟩

theorem database_triple (isCreated : creates path) (isCreating : options.openMode = .createIfMissing)
    (isFile : options.target = .file path) (isLocal : options.sync = none) :
    (contract creates drops Client around).Triple client (fun _ => True)
      (ofDriver (TursoDriver.database options))
      (Returning fun database files =>
        Held creates drops options path files ∧ around.path database.handle = path) := by
  rw [TursoDriver.database, ofDriver_bind]
  refine returning_bind check_triple fun _ => ?_
  rw [isFile]
  dsimp only
  rw [ofDriver_bind, TursoDriver.buildDatabase]
  refine returning_bind (validateFileTarget_triple isCreating path) fun _ => ?_
  refine attempt_triple isCreated (stable_fact True) (fun _ => stable_held.and (stable_fact _)) ?_
  rintro files response after - ⟨worked, isBuilt⟩
  rw [TursoDriver.localBuilder_path] at worked isBuilt
  refine ⟨worked, fun database isRead => ?_⟩
  obtain ⟨isPath, isOpen⟩ := isBuilt database isRead
  exact ⟨fun keeps _ => isOpen (TursoDriver.localBuilder_opensFile keeps isLocal), isPath⟩

theorem connectSync_triple (isCreated : creates path)
    (isCreating : options.openMode = .createIfMissing) (isFile : options.target = .file path)
    (sync : TursoSyncOptions) :
    (contract creates drops Client around).Triple client (fun _ => True)
      (ofDriver (TursoDriver.connectSync options sync))
      (Returning fun _ => Held creates drops options path) := by
  have isBuild : (contract creates drops Client around).Triple client (fun _ => True)
      (ofDriver (Driver.attempt (.buildSync (TursoDriver.syncBuilder options sync path)) id))
      (Returning fun database files =>
        Held creates drops options path files ∧ around.syncPath database.handle = path) := by
    refine attempt_triple isCreated (stable_fact True) (fun _ => stable_held.and (stable_fact _)) ?_
    rintro files response after - ⟨worked, isBuilt⟩
    rw [TursoDriver.syncBuilder_path] at worked isBuilt
    refine ⟨worked, fun database isRead => ?_⟩
    obtain ⟨isPath, isOpen⟩ := isBuilt database isRead
    exact ⟨fun keeps _ => isOpen (TursoDriver.syncBuilder_opensFile keeps sync), isPath⟩
  rw [TursoDriver.connectSync, ofDriver_bind]
  refine returning_bind check_triple fun _ => ?_
  rw [ofDriver_bind]
  refine returning_bind (syncPath_triple isCreating isFile) fun found => .assuming ?_
  rintro rfl
  rw [ofDriver_bind]
  refine returning_bind isBuild fun database => .assuming fun isPath => ?_
  refine setup_triple isCreated fun files response after answered => ?_
  rw [Answers, isPath] at answered
  exact answered

/-- Connecting with options that create the database leaves its file. -/
theorem connect_triple (isCreated : creates path) (isCreating : options.openMode = .createIfMissing)
    (isFile : options.target = .file path) :
    (contract creates drops Client around).Triple client (fun _ => True)
      (ofDriver (TursoDriver.connect options))
      (Returning fun _ => Held creates drops options path) := by
  rw [TursoDriver.connect, ofDriver_bind]
  refine returning_bind check_triple fun _ => ?_
  cases isSync : options.sync with
  | some sync => exact connectSync_triple isCreated isCreating isFile sync
  | none =>
      dsimp only
      rw [ofDriver_bind]
      refine returning_bind (database_triple isCreated isCreating isFile isSync)
        fun database => .assuming fun isPath => ?_
      refine setup_triple isCreated fun files response after answered => ?_
      rw [Answers, isPath] at answered
      exact answered

/-! ## The removal of files -/

/-- A file that is not removed.  Those before it in the list are gone. -/
def Stopped (creates : String → Prop) (files : List String) (error : Error) (now : Files) : Prop :=
  ∃ removal before file after, error = .io removal ∧ removal.notFound = false ∧
    files = before ++ file :: after ∧ ∀ other ∈ before, ¬ MayCome creates other → now other = false

theorem stable_stopped {files : List String} {error : Error} :
    (contract creates drops Client around).Stable client (Stopped creates files error) := by
  rintro before after moved ⟨removal, first, file, last, isRemoval, isOther, split, gone⟩
  exact ⟨removal, first, file, last, isRemoval, isOther, split,
    stable_gone first before after moved gone⟩

/-- What a removal that came to an end leaves. -/
def Removed (creates : String → Prop) (files : List String) : Except Error α → Files → Prop
  | .ok _ => fun now => ∀ file ∈ files, ¬ MayCome creates file → now file = false
  | .error error => Stopped creates files error

theorem stable_removed {files : List String} (result : Except Error α) :
    (contract creates drops Client around).Stable client (Removed creates files result) := by
  cases result with
  | ok _ => exact stable_gone files
  | error _ => exact stable_stopped

/-- What an attempt to remove one more file leaves. -/
def Tried (creates : String → Prop) (gone : List String) (file : String) :
    Except RemovalError Unit → Files → Prop
  | .ok _ => fun now => ∀ other ∈ gone ++ [file], ¬ MayCome creates other → now other = false
  | .error error => fun now =>
      (∀ other ∈ gone, ¬ MayCome creates other → now other = false) ∧
        (error.notFound = true → ¬ MayCome creates file → now file = false)

variable {gone : List String} {file : String}

theorem stable_tried (result : Except RemovalError Unit) :
    (contract creates drops Client around).Stable client (Tried creates gone file result) := by
  cases result with
  | ok _ => exact stable_gone _
  | error _ => exact (stable_gone gone).and (stable_forall fun _ => stable_forall stable_absent)

theorem removeFile_triple (isDropped : drops path) (isKnown : file ∈ knownDatabaseFiles path) :
    (contract creates drops Client around).Triple client
      (fun now => ∀ other ∈ gone, ¬ MayCome creates other → now other = false)
      (removeFile file) (Tried creates gone file) := by
  refine .ask (stable_gone gone) stable_tried (fun _ _ => True.intro) (fun _ _ _ => .refl _) ?_
  intro files result after isGone answered
  cases result with
  | ok _ =>
      obtain ⟨_, rfl⟩ := answered
      refine ⟨.removed isDropped isKnown, fun other isOther stays => ?_⟩
      by_cases isFile : other = file
      · rw [isFile, Function.update_self]
      · rw [Function.update_of_ne isFile]
        exact isGone other (by simpa [isFile] using isOther) stays
  | error error =>
      obtain ⟨rfl, absent⟩ := answered
      exact ⟨.refl _, isGone, fun notFound _ => absent notFound⟩

theorem gone_append {now : Files}
    (isGone : ∀ other ∈ gone, ¬ MayCome creates other → now other = false)
    (alsoGone : ¬ MayCome creates file → now file = false) :
    ∀ other ∈ gone ++ [file], ¬ MayCome creates other → now other = false := by
  intro other isOther stays
  rcases List.mem_append.mp isOther with wasGone | isFile
  · exact isGone other wasGone stays
  · obtain rfl := List.mem_singleton.mp isFile
    exact alsoGone stays

theorem removeFiles_triple {files : List String} (isDropped : drops path)
    (isKnown : ∀ file ∈ files, file ∈ knownDatabaseFiles path) :
    (contract creates drops Client around).Triple client
      (fun now => ∀ file ∈ gone, ¬ MayCome creates file → now file = false)
      (removeFiles files) (Removed creates (gone ++ files)) := by
  induction files generalizing gone with
  | nil => exact .pure (stable_removed (.ok ())) fun now isGone => by simpa [Removed] using isGone
  | cons file rest ih =>
      have ihRest := @ih (gone ++ [file]) fun other isOther =>
        isKnown other (.tail _ isOther)
      rw [List.append_assoc, List.singleton_append] at ihRest
      rw [removeFiles]
      refine .bind (Tried creates gone file) (fun _ => stable_stopped) ?_ fun result => ?_
      · exact .result (Contract.Stable.onward stable_tried fun _ => stable_stopped)
          (removeFile_triple isDropped (isKnown file (.head _)))
      · cases result with
        | ok _ => exact ihRest
        | error error =>
            dsimp only
            split
            next notFound =>
              exact ihRest.mono (fun now isTried => gone_append isTried.1 (isTried.2 notFound))
                fun _ _ => id
            next isOther =>
              exact .fail stable_stopped fun now isTried =>
                ⟨error, gone, file, rest, rfl, by simpa using isOther, rfl, isTried.1⟩

end Triples

/-! ## The calls -/

section Calls

variable {crate : UrlCrate} {process : Process} {url : Bytes} {options : TursoConnectOptions}
  {path : String}

variable (crate process url) in
/-- The URL names the database in this file, with these options. -/
def Names (options : TursoConnectOptions) (path : String) : Prop :=
  (TursoConnectOptions.fromStr crate url process).1 = .ok options ∧ options.target = .file path

/-- What a call on the database in a file leaves when it ends. -/
def EndsAt (creates drops : String → Prop) (options : TursoConnectOptions) (path : String) :
    Call → Except Error (Option Bool) → Files → Prop
  | .createDatabase _, .ok _ => Held creates drops options path
  | .createDatabase _, .error _ => fun _ => True
  | .databaseExists _, _ => fun _ => True
  | .dropDatabase _, result => Removed creates (knownDatabaseFiles path) result

theorem ofExcept_ok_bind (value : α) (next : α → MigrateDatabase β) :
    (ofExcept (.ok value) >>= next) = next value := rfl

theorem createDatabase_of_names (names : Names crate process url options path) :
    createDatabase crate process url = do
      let _ ← ofDriver (TursoDriver.connect (options.createIfMissing true))
      return () := by
  have notMemory : ¬ (options.createIfMissing true).isInMemory = true :=
    ne_true_of_eq_false (congrArg TursoDatabaseTarget.isMemory names.2)
  rw [createDatabase, parsed, names.1, ofExcept_ok_bind]
  exact if_neg notMemory

/-- A client that looks for the database asks once. -/
theorem run_databaseExists (names : Names crate process url options path) :
    (Call.databaseExists url).run crate process = ExceptT.mk
      (.ask (.driver (.pathExists path)) fun found => .done (.ok (some found))) := by
  rw [Call.run, databaseExists, parsed, names.1, ofExcept_ok_bind, names.2]
  rfl

theorem dropDatabase_of_names (names : Names crate process url options path) :
    dropDatabase crate process url = removeKnownDatabaseFiles path := by
  rw [dropDatabase, parsed, names.1, ofExcept_ok_bind, names.2]

theorem createDatabase_triple (names : Names crate process url options path)
    (isCreated : creates path) :
    (contract creates drops Client around).Triple client (fun _ => True)
      (createDatabase crate process url) (Returning fun _ => Held creates drops options path) := by
  rw [createDatabase_of_names names]
  exact returning_bind (connect_triple isCreated rfl names.2)
    fun _ => .pure stable_held fun _ held => held

theorem dropDatabase_triple (names : Names crate process url options path)
    (isDropped : drops path) :
    (contract creates drops Client around).Triple client (fun _ => True)
      (dropDatabase crate process url) (Removed creates (knownDatabaseFiles path)) := by
  rw [dropDatabase_of_names names]
  have removed : (contract creates drops Client around).Triple client
      (fun now => ∀ file ∈ [], ¬ MayCome creates file → now file = false)
      (removeKnownDatabaseFiles path) (Removed creates ([] ++ knownDatabaseFiles path)) :=
    removeFiles_triple isDropped fun _ isKnown => isKnown
  exact removed.mono (fun _ _ _ isGone => absurd isGone List.not_mem_nil) fun _ _ => id

/-- A call whose URL is refused asks for nothing. -/
theorem run_refused {call : Call} {error : SqlxError}
    (refused : (TursoConnectOptions.fromStr crate call.url process).1 = .error error) :
    call.run crate process = throw (.sqlx error) := by
  have isParsed : parsed crate process call.url = throw (.sqlx error) := by
    rw [parsed, refused]
    rfl
  cases call
  all_goals
    rw [Call.url] at isParsed
    simp only [Call.run, createDatabase, databaseExists, dropDatabase, isParsed]
    rfl

/-- A call on a database in memory asks for nothing. -/
theorem run_inMemory {call : Call}
    (read : (TursoConnectOptions.fromStr crate call.url process).1 = .ok options)
    (isMemory : options.target.isMemory = true) : call.run crate process = pure call.inMemory := by
  have isParsed : parsed crate process call.url = pure options := by
    rw [parsed, read]
    rfl
  rcases options with ⟨_ | _, _⟩
  · cases call
    all_goals
      rw [Call.url] at isParsed
      simp only [Call.run, createDatabase, databaseExists, dropDatabase, isParsed]
      rfl
  · cases isMemory

theorem stable_endsAt (call : Call) (result : Except Error (Option Bool)) :
    (contract creates drops Client around).Stable client
      (EndsAt creates drops options path call result) := by
  cases call with
  | createDatabase url =>
      cases result with
      | ok _ => exact stable_held
      | error _ => exact stable_fact True
  | databaseExists url => exact stable_fact True
  | dropDatabase url => exact stable_removed result

theorem run_triple {call : Call} (names : Names crate process call.url options path)
    (isCreated : ∀ url, call = .createDatabase url → creates path)
    (isDropped : ∀ url, call = .dropDatabase url → drops path) :
    (contract creates drops Client around).Triple client (fun _ => True)
      (call.run crate process) (EndsAt creates drops options path call) := by
  cases call with
  | createDatabase url =>
      refine .bind (fun _ => Held creates drops options path) (fun _ => stable_endsAt _ _) ?_
        fun _ => .pure (stable_endsAt _ _) fun _ held => held
      refine (createDatabase_triple names (isCreated url rfl)).mono (fun _ _ => True.intro) ?_
      intro result now atEnd
      cases result with
      | ok _ => exact atEnd
      | error _ => exact True.intro
  | databaseExists url =>
      have isRun : (Call.databaseExists url).run crate process = _ := run_databaseExists names
      intro files _
      rw [isRun]
      refine fun later _ => ⟨True.intro, fun _ => .refl _, ?_⟩
      rintro found after ⟨_, _, rfl⟩
      exact ⟨.refl _, fun _ _ => True.intro⟩
  | dropDatabase url =>
      refine .bind (fun value => Removed creates (knownDatabaseFiles path) (.ok value))
        (fun _ => stable_endsAt _ _) ?_ fun _ => .pure (stable_endsAt _ _) fun _ gone => gone
      refine (dropDatabase_triple names (isDropped url rfl)).mono (fun _ _ => True.intro) ?_
      intro result now atEnd
      cases result with
      | ok _ => exact atEnd
      | error _ => exact atEnd

end Calls

/-! ## All clients -/

section Clients

variable (crate : UrlCrate) (process : Client → Process) (calls : Client → Call) (around : Surroundings)
  (files : Files)

/-- Someone creates the database in this file. -/
def Creates (path : String) : Prop :=
  ∃ client url options, calls client = .createDatabase url ∧
    Names crate (process client) url options path

def Drops (path : String) : Prop :=
  ∃ client url options, calls client = .dropDatabase url ∧
    Names crate (process client) url options path

/-- All clients before they do anything. -/
def start : System Client Files Request Response (Except Error (Option Bool)) where
  world := files
  futures := fun client => some ((calls client).run crate (process client)).run

variable {crate process calls around files}

theorem futures_start {client : Client} {action : MigrateDatabase (Option Bool)}
    (isRun : (calls client).run crate (process client) = action) :
    (start crate process calls files).futures client = some action.run :=
  congrArg (fun action : MigrateDatabase (Option Bool) => some action.run) isRun

/-- What every call has come to when it ends. -/
def Ends (crate : UrlCrate) (process : Client → Process) (calls : Client → Call)
    (client : Client) (result : Except Error (Option Bool)) (now : Files) : Prop :=
  ∀ options path, Names crate (process client) (calls client).url options path →
    EndsAt (Creates crate process calls) (Drops crate process calls) options path
      (calls client) result now

theorem meets_start [DecidableEq Client] :
    (start crate process calls files).Meets
      (contract (Creates crate process calls) (Drops crate process calls) Client around)
      (Ends crate process calls) := by
  intro client future isFuture
  obtain rfl := Option.some.inj isFuture
  cases read : (TursoConnectOptions.fromStr crate (calls client).url (process client)).1 with
  | error error =>
      rw [run_refused read]
      intro later _ options path names
      cases read.symm.trans names.1
  | ok options =>
      cases isTarget : options.target with
      | memory number =>
          rw [run_inMemory read (by rw [isTarget]; rfl)]
          intro later _ other path names
          cases read.symm.trans names.1
          cases isTarget.symm.trans names.2
      | file path =>
          have names : Names crate (process client) (calls client).url options path :=
            ⟨read, isTarget⟩
          have triple : (contract (Creates crate process calls) (Drops crate process calls) Client
              around).Triple client (fun _ => True) ((calls client).run crate (process client))
              (EndsAt (Creates crate process calls) (Drops crate process calls) options path
                (calls client)) :=
            run_triple names
              (fun url isCall => ⟨client, url, options, isCall, by rwa [isCall] at names⟩)
              (fun url isCall => ⟨client, url, options, isCall, by rwa [isCall] at names⟩)
          refine (triple files True.intro).imp fun result now ends other path names => ?_
          cases read.symm.trans names.1
          cases isTarget.symm.trans names.2
          exact ends

/-- Who looks for a database is told what was there at some moment of the run. -/
theorem found_at_some_moment [DecidableEq Client]
    {system : System Client Files Request Response (Except Error (Option Bool))}
    (reached : (start crate process calls files).Reaches (environment Client around) system)
    {client : Client} {url : Bytes} (isCall : calls client = .databaseExists url)
    {options : TursoConnectOptions} {path : String}
    (names : Names crate (process client) url options path)
    {result : Except Error (Option Bool)} (isDone : system.futures client = some (.done result)) :
    ∃ found moment, result = .ok (some found) ∧
      (start crate process calls files).Reaches (environment Client around) moment ∧
        moment.Reaches (environment Client around) system ∧
          (found = true → moment.world path = true) ∧
            (¬ around.hides path → found = moment.world path) := by
  have asks : (start crate process calls files).futures client =
      some (.ask (.driver (.pathExists path)) fun found => .done (.ok (some found))) :=
    futures_start ((congrArg _ isCall).trans (run_databaseExists names))
  obtain ⟨found, rfl, moment, after, atMoment, ⟨isThere, isSeen, _⟩, since⟩ :=
    reached.asked_once asks isDone
  exact ⟨found, moment, rfl, atMoment, since, isThere, isSeen⟩

/-- Any number of clients create, look for and drop databases, in any order of their steps,
of which any may fail, and any client may stop.  What has come are files of databases that
someone creates, and what has gone are files of databases that someone drops, or beside the
main file of one that is in use.  A call with a URL that is refused, or that names a database
in memory, has ended before it asks for anything.  A database that was created has its file,
if the engine keeps it in one, unless someone may have removed it.  Who looks for a database
is told whether it was there at some moment of the run; if its metadata cannot be read, it may
go unseen.  A database that was dropped has no file left that no one may have made since.  A
drop fails if the removal of a file does, other than for a file that is not there, and the
files before that one are gone. -/
theorem databases_come_and_go [DecidableEq Client] (crate : UrlCrate) (process : Client → Process)
    (calls : Client → Call) (around : Surroundings) (files : Files)
    {system : System Client Files Request Response (Except Error (Option Bool))}
    (reached : (start crate process calls files).Reaches (environment Client around) system) :
    Moved (Creates crate process calls) (Drops crate process calls) files system.world ∧
      ∀ client,
        (∀ error, (TursoConnectOptions.fromStr crate (calls client).url (process client)).1 =
            .error error → system.futures client = some (.done (.error (.sqlx error)))) ∧
        (∀ options, (TursoConnectOptions.fromStr crate (calls client).url (process client)).1 =
            .ok options → options.target.isMemory = true →
              system.futures client = some (.done (.ok (calls client).inMemory))) ∧
        ∀ options path, Names crate (process client) (calls client).url options path →
          ∀ result, system.futures client = some (.done result) →
            match calls client with
            | .createDatabase _ => result = .ok none → options.keepsFile path = true →
                ¬ MayGo (Creates crate process calls) (Drops crate process calls) path →
                  system.world path = true
            | .databaseExists _ => ∃ found moment, result = .ok (some found) ∧
                (start crate process calls files).Reaches (environment Client around) moment ∧
                  moment.Reaches (environment Client around) system ∧
                    (found = true → moment.world path = true) ∧
                      (¬ around.hides path → found = moment.world path)
            | .dropDatabase _ =>
                (result = .ok none → ∀ file ∈ knownDatabaseFiles path,
                  ¬ MayCome (Creates crate process calls) file → system.world file = false) ∧
                ∀ error, result = .error error → ∃ removal before file after,
                  error = .io removal ∧ removal.notFound = false ∧
                    knownDatabaseFiles path = before ++ file :: after ∧
                      ∀ other ∈ before, ¬ MayCome (Creates crate process calls) other →
                        system.world other = false := by
  have atStart : (start crate process calls files).Meets
      (contract (Creates crate process calls) (Drops crate process calls) Client around)
      (Ends crate process calls) := meets_start
  refine ⟨reached.invariant atStart (fun moved since => Moved.trans since moved) (.refl _),
    fun client => ⟨fun error refused => ?_, fun options read isMemory => ?_,
      fun options path names result isDone => ?_⟩⟩
  · exact reached.stays_done (futures_start (run_refused refused))
  · exact reached.stays_done (futures_start (run_inMemory read isMemory))
  · have endsAt := (reached.meets atStart).ended isDone options path names
    cases isCall : calls client with
    | createDatabase url =>
        rw [isCall] at endsAt
        rintro rfl keeps stays
        exact endsAt keeps stays
    | databaseExists url =>
        rw [isCall] at names
        exact found_at_some_moment reached isCall names isDone
    | dropDatabase url =>
        rw [isCall] at endsAt
        refine ⟨?_, ?_⟩
        · rintro rfl
          exact endsAt
        · rintro error rfl
          exact endsAt

end Clients

/-! ## A database that is dropped -/

variable {files : Files}

/-- Files that are there are removed, whoever asks. -/
def obliging : Handler Request Response Files
  | .driver (.pathExists path), files => (some (files path), files)
  | .driver _, files => (none, files)
  | .removeFile file, files =>
      if files file then (some (.ok ()), Function.update files file false)
      else (some (.error ⟨true, "No such file or directory (os error 2)"⟩), files)

theorem obliging_answersAs (client : Client) :
    obliging.AnswersAs (environment Client around) client id := by
  rintro files request response after handled
  match request with
  | .driver (.pathExists path) =>
      obtain ⟨⟨⟩, rfl⟩ := Prod.mk.inj handled
      exact ⟨files, ⟨id, fun _ => rfl, rfl⟩, rfl⟩
  | .removeFile file =>
      rw [obliging] at handled
      split at handled
      next isThere =>
        obtain ⟨⟨⟩, rfl⟩ := Prod.mk.inj handled
        exact ⟨_, ⟨isThere, rfl⟩, rfl⟩
      next isAbsent =>
        obtain ⟨⟨⟩, rfl⟩ := Prod.mk.inj handled
        exact ⟨_, ⟨rfl, fun _ => by simpa using isAbsent⟩, rfl⟩

theorem alone_removeFile (file : String) :
    (removeFile file).run.alone obliging files =
      (if files file then .returned ()
        else .failed ⟨true, "No such file or directory (os error 2)"⟩,
        Function.update files file false) := by
  rw [removeFile]
  refine (Future.alone_ask _ _ files).trans ?_
  cases isThere : files file with
  | true => simp [obliging, isThere, Async.pure_apply]
  | false =>
      have same : Function.update files file false = files :=
        Function.update_eq_self_iff.mpr isThere.symm
      simp [obliging, isThere, same, Async.fail_apply]

/-- A removal that is alone leaves the other files. -/
theorem alone_removeFiles (list : List String) :
    (removeFiles list).run.alone obliging files =
      (.returned (), fun file => files file && file ∉ list) := by
  induction list generalizing files with
  | nil =>
      rw [removeFiles]
      simp [Async.pure_apply]
  | cons file rest ih =>
      have left : (fun other => Function.update files file false other && decide (other ∉ rest)) =
          fun other => files other && decide (other ∉ file :: rest) := by
        funext other
        by_cases isFile : other = file
        · simp [isFile]
        · simp [isFile]
      rw [removeFiles, Future.alone_bind, Future.alone_result, Async.bind_apply, Async.result,
        alone_removeFile]
      cases isThere : files file with
      | true => exact ih.trans (congrArg _ left)
      | false => exact ih.trans (congrArg _ left)

section Alone

variable [DecidableEq Client] {crate : UrlCrate} {process : Process} {url : Bytes}
  {options : TursoConnectOptions} {path : String}
  {system : System Client Files Request Response (Except Error (Option Bool))}

/-- A client may look for a database while the others wait. -/
theorem reaches_found (names : Names crate process url options path)
    (isFuture : system.futures client = some ((Call.databaseExists url).run crate process).run) :
    system.Reaches (environment Client around) ⟨system.world,
      Function.update system.futures client (some (.done (.ok (some (system.world path)))))⟩ := by
  have ran : ((Call.databaseExists url).run crate process).run.alone obliging system.world =
      (.ofResult (.ok (some (system.world path))), system.world) := by
    rw [run_databaseExists names]
    rfl
  obtain ⟨_, rfl, reached⟩ := Future.reaches_of_alone (obliging_answersAs client) isFuture ran
  exact reached

/-- A client may drop a database while the others wait. -/
theorem reaches_dropped (names : Names crate process url options path)
    (isFuture : system.futures client = some ((Call.dropDatabase url).run crate process).run) :
    ∃ now, system.Reaches (environment Client around)
      ⟨now, Function.update system.futures client (some (.done (.ok none)))⟩ := by
  have ran : ((Call.dropDatabase url).run crate process).run.alone obliging system.world =
      (.ofResult (.ok none), fun file =>
        system.world file && file ∉ knownDatabaseFiles path) := by
    rw [Call.run, Future.alone_bind, dropDatabase_of_names names, removeKnownDatabaseFiles,
      Async.bind_apply, alone_removeFiles]
    rfl
  obtain ⟨now, _, reached⟩ := Future.reaches_of_alone (obliging_answersAs client) isFuture ran
  exact ⟨now, reached⟩

end Alone

def appUrl : Bytes := utf8 "turso:app.db"

theorem appUrl_names :
    ∃ options, Names (PlainUrls.crate (utf8 "turso")) ⟨0, 0⟩ appUrl options "app.db" := by
  have read : (TursoConnectOptions.fromStr (PlainUrls.crate (utf8 "turso")) appUrl
      ⟨0, 0⟩).1.toOption.map (·.target) = some (.file "app.db") := by
    decide +kernel
  cases isRead : (TursoConnectOptions.fromStr (PlainUrls.crate (utf8 "turso")) appUrl ⟨0, 0⟩).1 with
  | error error =>
      rw [isRead] at read
      cases read
  | ok options =>
      rw [isRead] at read
      exact ⟨options, isRead, Option.some.inj read⟩

def lookAndDrop : Bool → Call
  | false => .databaseExists appUrl
  | true => .dropDatabase appUrl

/-- A client that looks for a database and one that drops it, when all files are there. -/
def twoClients : System Bool Files Request Response (Except Error (Option Bool)) :=
  start (PlainUrls.crate (utf8 "turso")) (fun _ => ⟨0, 0⟩) lookAndDrop fun _ => true

theorem not_mayCome_lookAndDrop (file : String) :
    ¬ MayCome (Creates (PlainUrls.crate (utf8 "turso")) (fun _ => ⟨0, 0⟩) lookAndDrop) file := by
  rintro ⟨path, ⟨client, url, options, isCall, _⟩, _⟩
  cases client <;> cases isCall

theorem dropped_database_is_gone :
    ∃ system, twoClients.Reaches (environment Bool ⟨fun _ => "", fun _ => "", fun _ => False⟩) system ∧
      system.futures false = some (.done (.ok (some true))) ∧
      system.futures true = some (.done (.ok none)) ∧
      ∀ file ∈ knownDatabaseFiles "app.db", system.world file = false := by
  obtain ⟨options, names⟩ := appUrl_names
  have isLook : twoClients.futures false = some ((Call.databaseExists appUrl).run
      (PlainUrls.crate (utf8 "turso")) ⟨0, 0⟩).run := rfl
  have looked : twoClients.Reaches (environment Bool ⟨fun _ => "", fun _ => "", fun _ => False⟩) _ :=
    reaches_found names isLook
  generalize isFutures : Function.update twoClients.futures false _ = futures at looked
  have isDrop : futures true = some ((Call.dropDatabase appUrl).run
      (PlainUrls.crate (utf8 "turso")) ⟨0, 0⟩).run := by
    rw [← isFutures]
    rfl
  have isFound : futures false = some (.done (.ok (some true))) := by
    rw [← isFutures]
    rfl
  have dropped : ∃ now, System.Reaches (environment Bool ⟨fun _ => "", fun _ => "", fun _ => False⟩)
      ⟨twoClients.world, futures⟩
        ⟨now, Function.update futures true (some (.done (.ok none)))⟩ :=
    reaches_dropped names isDrop
  obtain ⟨now, dropped⟩ := dropped
  have reached := looked.trans dropped
  have ends := (databases_come_and_go _ _ lookAndDrop _ _ reached).2 true
  refine ⟨_, reached, isFound, rfl, fun file isKnown => ?_⟩
  exact (ends.2.2 options "app.db" names _ rfl).1 rfl file isKnown (not_mayCome_lookAndDrop file)

end MigrateDatabase

end SqlxTurso
