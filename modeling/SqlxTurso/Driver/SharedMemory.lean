import SqlxTurso.Driver.Clients
import SqlxTurso.Driver.Honoured

/-!
# The shared in-memory database

Each part of a connect keeps to what the other clients rely on.  So in every order of their
steps, the clients that share an in-memory state get one database, and the others one of
their own.
-/

namespace SqlxTurso

open Library

namespace Driver

variable {Client : Type} {options : Client → TursoConnectOptions}

/-! ## What a connect meets -/

section Meets

variable [DecidableEq Client] {client : Client} {world : World Client} {α β : Type}

/-- The request does not touch the world. -/
def Request.isQuiet : Request → Bool
  | pathExists _ => true
  | pragmaUpdate _ _ _ => true
  | _ => false

theorem Outside.keeps_release (outside : Outside options client world) :
    Keeps options client world (world.release client) := by
  rw [outside.release]
  exact .refl world

/-- A future that makes quiet requests only keeps what its client relies on. -/
theorem meets_of_quiet {future : Future Request Response α} {ends : α → World Client → Prop}
    (holds : World Client → Prop)
    (stable : ∀ {before after}, Respects options client before after → Grows options before after →
      holds before → holds after)
    (outside : ∀ {world}, holds world → Outside options client world)
    (quiet : ∀ wanted, future.Issues wanted → wanted.isQuiet = true)
    (results : ∀ result, future.Gives result → ∀ {later}, holds later → ends result later)
    (held : holds world) : future.Meets (contract options) client ends world := by
  induction future generalizing world with
  | done result => exact fun later relied => results result rfl (stable relied.1 relied.2 held)
  | ask request next nextIH =>
      intro later relied
      have heldLater := stable relied.1 relied.2 held
      have isQuiet := quiet request (.inl rfl)
      refine ⟨?_, fun _ => (outside heldLater).keeps_release, fun response after answer => ?_⟩
      · cases request <;> first | exact True.intro | cases isQuiet
      · have same : after = later := by
          cases request <;> first | exact answer | cases isQuiet
        rw [same]
        refine ⟨Keeps.refl later, nextIH response ?_ ?_ heldLater⟩
        · exact fun wanted issues => quiet wanted (.inr ⟨response, issues⟩)
        · exact fun result gives => results result ⟨response, gives⟩

/-- At the end a client holds no lock, and what it got is its database. -/
def Ends (options : Client → TursoConnectOptions) (client : Client) (handle : α → Nat)
    (result : Except SqlxError α) (world : World Client) : Prop :=
  Outside options client world ∧
    ∀ value, result = .ok value → Owns options client (handle value) world

theorem Outside.ends_error {handle : α → Nat} {error : SqlxError}
    (outside : Outside options client world) :
    (Future.done (.error error)).Meets (contract options) client
      (Ends options client handle) world :=
  fun _ relied => ⟨outside.later relied.1 relied.2, nofun⟩

/-- Checks that ask whether a file exists leave a client where it was. -/
theorem validateFileTarget_meets {connecting : TursoConnectOptions} {path : String}
    (outside : Outside options client world) :
    (TursoDriver.validateFileTarget connecting path).run.Meets (contract options) client
      (fun _ => Outside options client) world := by
  refine meets_of_quiet _ (fun respects grows => (Outside.later respects grows ·)) id ?_ ?_ outside
  · intro wanted issues
    rw [TursoDriver.issues_validateFileTarget issues]
    rfl
  · exact fun _ _ _ => id

/-- Setting up a connection to its database, a client stays outside. -/
theorem applyConnectionOptions_meets (connecting : TursoConnectOptions)
    (result : TursoDriverConnection) (outside : Outside options client world)
    (owns : Owns options client result.raw.database world) :
    (do
      TursoDriver.applyConnectionOptions connecting result.raw
      return result : Driver TursoDriverConnection).run.Meets (contract options) client
        (Ends options client (·.raw.database)) world := by
  refine meets_of_quiet (fun world => Outside options client world ∧
    Owns options client result.raw.database world) ?_ ?_ ?_ ?_ ⟨outside, owns⟩
  · exact fun respects grows held => ⟨held.1.later respects grows, held.2.later grows⟩
  · exact fun held => held.1
  · intro wanted issues
    rw [Future.issues_run_bind] at issues
    rcases issues with isUpdate | ⟨_, _, isReturn⟩
    · obtain ⟨key, value, rfl⟩ := TursoDriver.issues_applyConnectionOptions isUpdate
      rfl
    · exact absurd isReturn (issues_pure _ _)
  · rintro ended gives later ⟨outsideLater, ownsLater⟩
    refine ⟨outsideLater, fun value isValue => ?_⟩
    rw [isValue, Future.gives_run_bind] at gives
    obtain ⟨_, _, isReturn⟩ := gives
    rw [gives_pure.mp isReturn]
    exact ownsLater

omit [DecidableEq Client] in
/-- A connection is one to the database that it was asked of. -/
theorem World.Connected.opens {handle : Nat} {response : Except Turso.Error Turso.Connection}
    {after : World Client} (connected : world.Connected handle response after) :
    after = world ∧ ∀ connection, id response = .ok connection → connection.database = handle := by
  cases response with
  | error error => exact ⟨connected, fun _ isOk => nomatch isOk⟩
  | ok connection =>
      refine ⟨connected.2, ?_⟩
      rintro _ ⟨⟩
      exact connected.1

/-- Connecting to its database, a client stays outside. -/
theorem connected_meets {connecting : TursoConnectOptions} {request : Request}
    {read : Response request → Except Turso.Error Turso.Connection} {handle : Nat}
    {result : Turso.Connection → TursoDriverConnection} (isResult : ∀ raw, (result raw).raw = raw)
    (permitted : ∀ world, Permits options client world request)
    (connects : ∀ {world response after}, World.Answers client world request response after →
      after = world ∧ ∀ connection, read response = .ok connection → connection.database = handle)
    (outside : Outside options client world) (owns : Owns options client handle world) :
    (do
      let connection ← attempt request read
      TursoDriver.applyConnectionOptions connecting connection
      return result connection : Driver TursoDriverConnection).run.Meets (contract options) client
        (Ends options client (·.raw.database)) world := by
  refine .bindExcept fun later relied => ?_
  have outsideLater := outside.later relied.1 relied.2
  refine ⟨permitted later, fun _ => outsideLater.keeps_release, fun response after answer => ?_⟩
  obtain ⟨rfl, isDatabase⟩ := connects answer
  refine ⟨Keeps.refl after, fun last reliedLast => ?_⟩
  have outsideLast := outsideLater.later reliedLast.1 reliedLast.2
  have ownsLast := (owns.later relied.2).later reliedLast.2
  cases connected : read response with
  | error error => exact outsideLast.ends_error
  | ok connection =>
      rw [← isDatabase connection connected] at ownsLast
      have applied := applyConnectionOptions_meets connecting (result connection) outsideLast
      rw [isResult] at applied
      exact applied ownsLast

/-- A build by a client that shares no state makes it the owner of the database. -/
theorem built_meets {request : Request} {path : String}
    {read : Response request → Except Turso.Error α} {handle : α → Nat}
    (notShared : ∀ state, ¬ shares (options client) state = true)
    (isPath : path = (options client).target.builderPath)
    (permitted : ∀ world, Permits options client world request)
    (builds : ∀ {world response after}, World.Answers client world request response after →
      World.Built client path world ((read response).map handle) after)
    (outside : Outside options client world) :
    (attempt request read).run.Meets (contract options) client (Ends options client handle)
      world := by
  intro later relied
  have outsideLater := outside.later relied.1 relied.2
  refine ⟨permitted later, fun _ => outsideLater.keeps_release, fun response after answer => ?_⟩
  have isBuilt := builds answer
  cases result : read response with
  | error error =>
      rw [result] at isBuilt
      cases isBuilt
      refine ⟨Keeps.refl later, ?_⟩
      show (Future.done ((read response).mapError mapTursoError)).Meets _ _ _ _
      rw [result]
      exact outsideLater.ends_error
  | ok database =>
      rw [result] at isBuilt
      obtain ⟨mayBuild, rfl⟩ := isBuilt
      obtain ⟨keeps, outsideAfter⟩ := outsideLater.build notShared mayBuild
      refine ⟨keeps, fun last reliedLast => ⟨outsideAfter.later reliedLast.1 reliedLast.2, ?_⟩⟩
      rw [result]
      rintro value isValue
      cases isValue
      have owns : Owns options client (handle database)
          (later.record ⟨client, path, handle database⟩) := by
        refine ⟨fun state isShared => ?_, fun _ => ?_⟩
        · exact absurd isShared (notShared state)
        · rw [isPath]
          exact .head _
      exact owns.later reliedLast.2

theorem buildDatabase_meets {path : String}
    (notShared : ∀ state, ¬ shares (options client) state = true)
    (isPath : path = (options client).target.builderPath)
    (outside : Outside options client world) :
    (TursoDriver.buildDatabase (options client) path).run.Meets (contract options) client
      (Ends options client (·.handle)) world := by
  refine built_meets notShared isPath (fun _ state isShared => ?_) (fun answer => ?_) outside
  · exact absurd isShared (notShared state)
  · rw [← TursoDriver.localBuilder_path (options client) path]
    exact answer

omit [DecidableEq Client] in
/-- A client that got what is in the slot of the state that it shares owns it. -/
theorem owns_of_slot {state : TursoMemoryState} (isShared : shares (options client) state = true)
    {database : Turso.Database} (isSlot : world.slots state = some database) :
    Owns options client database.handle world where
  shared := by
    intro other otherShared
    by_cases isState : other = state
    · rw [isState]
      exact isSlot
    · exact absurd otherShared (not_shares_of_ne isShared isState)
  own := fun notShared => absurd isShared (notShared state)

/-- Under the lock a client sees no change but its own, and it leaves the lock with the slot
settled. -/
theorem locked_meets {state : TursoMemoryState} {body : Driver Turso.Database}
    (isShared : shares (options client) state = true)
    (bodyMeets : ∀ {slot after}, Settled options client state slot after →
      body.run.Meets (contract options) client (fun result last => ∃ slot,
        Settled options client state slot last ∧
          ∀ database, result = .ok database → slot = some database) after)
    (outside : Outside options client world) :
    (locked state body).run.Meets (contract options) client (Ends options client (·.handle))
      world := by
  intro later relied
  have outsideLater := outside.later relied.1 relied.2
  refine ⟨True.intro, fun _ => outsideLater.keeps_release, fun _ after answer => ?_⟩
  obtain ⟨isFree, rfl⟩ := answer
  obtain ⟨locks, settled⟩ := outsideLater.lock isFree
  refine ⟨locks, .bind ((bodyMeets settled).imp ?_)⟩
  rintro result ended ⟨slot, settledEnd, isSlot⟩ before reliedEnd
  have settledBefore := settledEnd.later reliedEnd.1 reliedEnd.2
  obtain ⟨unlocks, outsideAfter⟩ := settledBefore.unlock
  refine ⟨(settledBefore.only state).mpr rfl, nofun, fun _ after answer => ?_⟩
  cases answer
  refine ⟨unlocks, fun last reliedLast => ⟨outsideAfter.later reliedLast.1 reliedLast.2, ?_⟩⟩
  intro database isDatabase
  have isFilled : (before.hold state none).slots state = some database :=
    settledBefore.slot.trans (isSlot database isDatabase)
  exact (owns_of_slot isShared isFilled).later reliedLast.2

/-- With the lock on an empty slot, a client that does not fail fills it. -/
theorem fill_meets {state : TursoMemoryState} {connecting : TursoConnectOptions}
    (isShared : shares (options client) state = true)
    (settled : Settled options client state none world) :
    (do
      let created ← TursoDriver.buildDatabase connecting ":memory:"
      let _ ← ask (.writeMemory state created)
      return created : Driver Turso.Database).run.Meets (contract options) client
        (fun result last => ∃ slot, Settled options client state slot last ∧
          ∀ database, result = .ok database → slot = some database) world := by
  refine .bindExcept fun later relied => ?_
  have settledLater := settled.later relied.1 relied.2
  have held : later.holders state = some client := (settledLater.only state).mpr rfl
  refine ⟨fun other otherShared => ?_, fun _ => ?_, fun database after answer => ?_⟩
  · by_cases isState : other = state
    · rw [isState]
      exact ⟨held, settledLater.slot, List.map_eq_nil_iff.mp settledLater.builds⟩
    · exact absurd otherShared (not_shares_of_ne isShared isState)
  · rw [show (environment.drops client later) = later.hold state none from settledLater.release]
    exact settledLater.unlock.1
  · cases database with
    | error error =>
        cases answer
        refine ⟨Keeps.refl later, fun last reliedLast => ?_⟩
        intro final reliedFinal
        have settledLast := settledLater.later reliedLast.1 reliedLast.2
        exact ⟨none, settledLast.later reliedFinal.1 reliedFinal.2, nofun⟩
    | ok database =>
        obtain ⟨mayBuild, rfl⟩ := answer
        obtain ⟨builds, unsaved⟩ := settledLater.build isShared mayBuild
        refine ⟨builds, fun last reliedLast => .bindExcept fun before reliedBefore => ?_⟩
        have unsavedLast := unsaved.later reliedLast.1 reliedLast.2
        have unsavedBefore := unsavedLast.later reliedBefore.1 reliedBefore.2
        obtain ⟨fills, filled⟩ := unsavedBefore.fill
        refine ⟨⟨(unsavedBefore.only state).mpr rfl, unsavedBefore.slot⟩, nofun,
          fun _ after answer => ?_⟩
        cases answer
        refine ⟨fills, fun written reliedWritten final reliedFinal => ⟨some database, ?_, ?_⟩⟩
        · have filledWritten := filled.later reliedWritten.1 reliedWritten.2
          exact filledWritten.later reliedFinal.1 reliedFinal.2
        · rintro _ ⟨⟩
          rfl

/-- A check leaves a client where it was. -/
theorem check_meets {result : Except SqlxError Unit} {next : Unit → Driver β} {handle : β → Nat}
    (outside : Outside options client world)
    (meets : (next ()).run.Meets (contract options) client (Ends options client handle) world) :
    (check result >>= next).run.Meets (contract options) client (Ends options client handle)
      world := by
  cases result with
  | error error => exact outside.ends_error
  | ok => exact meets

theorem memoryDatabase_meets (noSync : (options client).sync = none)
    (inMemory : (options client).target.isMemory = true)
    (outside : Outside options client world) :
    (TursoDriver.memoryDatabase (options client)).run.Meets (contract options) client
      (Ends options client (·.handle)) world := by
  unfold TursoDriver.memoryDatabase
  split
  next isPrivate =>
    have notShared : ∀ state, ¬ shares (options client) state = true := by
      simp [shares, isPrivate]
    have isPath : ":memory:" = (options client).target.builderPath := by
      cases isTarget : (options client).target with
      | memory name => rfl
      | file path =>
          rw [isTarget] at inMemory
          cases inMemory
    exact buildDatabase_meets notShared isPath outside
  next notPrivate =>
    have isCacheShared : (options client).cacheMode = .sharedCache := by
      cases isMode : (options client).cacheMode with
      | privateCache => exact absurd isMode notPrivate
      | sharedCache => rfl
    have isShared : shares (options client) (options client).memoryState = true := by
      simp [shares, noSync, inMemory, isCacheShared]
    refine locked_meets isShared (fun {slot after} settled => .bindExcept ?_) outside
    intro later relied
    have settledLater := settled.later relied.1 relied.2
    refine ⟨(settledLater.only _).mpr rfl, fun awaited => absurd awaited Bool.false_ne_true,
      fun read same answer => ?_⟩
    obtain ⟨isRead, rfl⟩ := answer
    rw [settledLater.slot] at isRead
    refine ⟨Keeps.refl same, fun last reliedLast => ?_⟩
    have settledLast := settledLater.later reliedLast.1 reliedLast.2
    cases isRead
    cases slot with
    | none => exact fill_meets isShared settledLast
    | some database =>
        refine fun final reliedFinal => ⟨some database, ?_, ?_⟩
        · exact settledLast.later reliedFinal.1 reliedFinal.2
        · rintro _ ⟨⟩
          rfl

theorem database_meets (noSync : (options client).sync = none)
    (outside : Outside options client world) :
    (TursoDriver.database (options client)).run.Meets (contract options) client
      (Ends options client (·.handle)) world := by
  refine check_meets outside ?_
  split
  next name isMemory =>
    exact memoryDatabase_meets noSync (by rw [isMemory]; rfl) outside
  next path isFile =>
    have notShared : ∀ state, ¬ shares (options client) state = true := by
      simp [shares, isFile, TursoDatabaseTarget.isMemory]
    refine .bindExcept ((validateFileTarget_meets outside).imp ?_)
    rintro (error | _) later outsideLater
    · exact outsideLater.ends_error
    · exact buildDatabase_meets notShared (by rw [isFile]; rfl) outsideLater

/-- The path of a synchronised database is that of the target. -/
theorem syncPath_meets {connecting : TursoConnectOptions}
    (outside : Outside options client world) :
    (TursoDriver.syncPath connecting).run.Meets (contract options) client
      (fun result later => Outside options client later ∧
        ∀ path, result = .ok path → path = connecting.target.builderPath) world := by
  refine meets_of_quiet _ (fun respects grows => (Outside.later respects grows ·)) id ?_ ?_ outside
  · intro wanted issues
    obtain ⟨path, rfl⟩ := TursoDriver.issues_syncPath issues
    rfl
  · rintro result gives later outsideLater
    refine ⟨outsideLater, fun path isPath => ?_⟩
    rw [isPath] at gives
    exact TursoDriver.gives_syncPath.mp gives

theorem connectSync_meets {sync : TursoSyncOptions} (isSync : (options client).sync = some sync)
    (outside : Outside options client world) :
    (TursoDriver.connectSync (options client) sync).run.Meets (contract options) client
      (Ends options client (·.raw.database)) world := by
  have notShared : ∀ state, ¬ shares (options client) state = true := by
    simp [shares, isSync]
  refine check_meets outside (.bindExcept ((syncPath_meets outside).imp ?_))
  rintro (error | path) later ⟨outsideLater, isPath⟩
  · exact outsideLater.ends_error
  · have meets : (attempt (.buildSync (TursoDriver.syncBuilder (options client) sync path))
        id).run.Meets (contract options) client (Ends options client (·.handle)) later := by
      refine built_meets notShared (isPath path rfl) (fun _ => True.intro) (fun answer => ?_)
        outsideLater
      rw [← TursoDriver.syncBuilder_path (options client) sync path]
      exact answer
    refine .bindExcept (meets.imp ?_)
    rintro (error | database) built ⟨outsideBuilt, owns⟩
    · exact outsideBuilt.ends_error
    · exact connected_meets (fun _ => rfl) (fun _ => True.intro) World.Connected.opens outsideBuilt
        (owns database rfl)

theorem connect_meets (outside : Outside options client world) :
    (TursoDriver.connect (options client)).run.Meets (contract options) client
      (Ends options client (·.raw.database)) world := by
  refine check_meets outside ?_
  split
  next sync isSync => exact connectSync_meets isSync outside
  next noSync =>
    refine .bindExcept ((database_meets noSync outside).imp ?_)
    rintro (error | database) built ⟨outsideBuilt, owns⟩
    · exact outsideBuilt.ends_error
    · exact connected_meets (fun _ => rfl) (fun _ => True.intro) World.Connected.opens outsideBuilt
        (owns database rfl)

end Meets

/-! ## What a connect asks for -/

/-- Is the request one for the state of an in-memory database? -/
def Request.isMemory : Request → Bool
  | lockMemory _ => true
  | readMemory _ => true
  | writeMemory _ _ => true
  | unlockMemory _ => true
  | _ => false

section Asks

variable {connecting : TursoConnectOptions} {wanted : Request} {α β : Type}

theorem not_issues_database (noSync : connecting.sync = none)
    (notShared : ∀ state, ¬ shares connecting state = true) (isMemory : wanted.isMemory = true) :
    ¬ (TursoDriver.database connecting).run.Issues wanted := by
  intro issues
  rw [TursoDriver.database, issues_check_bind] at issues
  obtain ⟨_, isLater⟩ := issues
  split at isLater
  next name inMemory =>
    unfold TursoDriver.memoryDatabase at isLater
    split at isLater
    next => cases issues_attempt.mp isLater; cases isMemory
    next notPrivate =>
      have isShared : shares connecting connecting.memoryState = true := by
        cases isMode : connecting.cacheMode with
        | privateCache => exact absurd isMode notPrivate
        | sharedCache => simp [shares, noSync, inMemory, TursoDatabaseTarget.isMemory, isMode]
      exact absurd isShared (notShared _)
  next path _ =>
    rw [Future.issues_run_bind] at isLater
    rcases isLater with isExists | ⟨_, _, isBuild⟩
    · cases TursoDriver.issues_validateFileTarget isExists; cases isMemory
    · cases issues_attempt.mp isBuild; cases isMemory

theorem not_issues_connectSync {sync : TursoSyncOptions} (isMemory : wanted.isMemory = true) :
    ¬ (TursoDriver.connectSync connecting sync).run.Issues wanted := by
  intro issues
  rw [TursoDriver.connectSync, issues_check_bind, Future.issues_run_bind] at issues
  rcases issues.2 with isPath | ⟨path, _, isLater⟩
  · obtain ⟨_, rfl⟩ := TursoDriver.issues_syncPath isPath
    cases isMemory
  · rw [Future.issues_run_bind] at isLater
    rcases isLater with isBuild | ⟨_, _, isSetup⟩
    · cases issues_attempt.mp isBuild; cases isMemory
    · rcases TursoDriver.issues_setup isSetup with rfl | ⟨_, _, _, rfl⟩ <;> cases isMemory

/-- A connect that shares no state does not touch one. -/
theorem not_issues_connect (notShared : ∀ state, ¬ shares connecting state = true)
    (isMemory : wanted.isMemory = true) :
    ¬ (TursoDriver.connect connecting).run.Issues wanted := by
  intro issues
  rw [TursoDriver.connect, issues_check_bind] at issues
  obtain ⟨_, isLater⟩ := issues
  split at isLater
  next => exact not_issues_connectSync isMemory isLater
  next noSync =>
    rw [Future.issues_run_bind] at isLater
    rcases isLater with isDatabase | ⟨_, _, isSetup⟩
    · exact not_issues_database noSync notShared isMemory isDatabase
    · rcases TursoDriver.issues_setup isSetup with rfl | ⟨_, _, _, rfl⟩ <;> cases isMemory

/-- If the slot is to be read next and is empty, a build comes after it. -/
def Rebuilds (future : Future Request Response α) : Prop :=
  ∀ state next, future = .ask (.readMemory state) next →
    ∃ builder rest, next none = .ask (.build builder) rest

theorem Rebuilds.carried {continuation : α → Future Request Response β} (request : Request)
    (next : Response request → Future Request Response α)
    (rebuilds : Rebuilds (.ask request next)) :
    Rebuilds (.ask request fun response => next response >>= continuation) := by
  rintro state _ ⟨⟩
  obtain ⟨builder, rest, isBuild⟩ := rebuilds state next rfl
  exact ⟨builder, fun response => rest response >>= continuation,
    congrArg (· >>= continuation) isBuild⟩

theorem throughout_of_not_issues {future : Future Request Response α}
    (noRead : ∀ state, ¬ future.Issues (.readMemory state)) : future.Throughout Rebuilds := by
  induction future with
  | done result => exact fun _ _ => nofun
  | ask request next nextIH =>
      refine ⟨?_, fun response => nextIH response ?_⟩
      · rintro state _ ⟨⟩
        exact absurd (.inl rfl) (noRead state)
      · exact fun state issues => noRead state (.inr ⟨response, issues⟩)

/-- Filling the slot does not read it again. -/
theorem fill_rebuilds {state : TursoMemoryState} :
    (do
      let created ← TursoDriver.buildDatabase connecting ":memory:"
      let _ ← ask (.writeMemory state created)
      return created : Driver Turso.Database).run.Throughout Rebuilds := by
  refine throughout_of_not_issues fun read issues => ?_
  rw [Future.issues_run_bind] at issues
  rcases issues with isBuild | ⟨_, _, isLater⟩
  · exact nomatch issues_attempt.mp isBuild
  · rw [Future.issues_run_bind] at isLater
    rcases isLater with isWrite | ⟨_, _, isReturn⟩
    · exact nomatch issues_ask.mp isWrite
    · exact issues_pure _ _ isReturn

theorem memoryDatabase_rebuilds :
    (TursoDriver.memoryDatabase connecting).run.Throughout Rebuilds := by
  unfold TursoDriver.memoryDatabase
  split
  next => exact throughout_of_not_issues fun state issues => nomatch issues_attempt.mp issues
  next =>
    refine ⟨fun _ _ => nofun, fun _ => .bind Rebuilds.carried ⟨?_, fun slot => ?_⟩ ?_⟩
    · rintro state _ ⟨⟩
      exact ⟨_, _, rfl⟩
    · cases slot with
      | some database => exact fun _ _ => nofun
      | none => exact fill_rebuilds
    · exact fun result => ⟨fun _ _ => nofun, fun _ _ _ => nofun⟩

theorem check_rebuilds {result : Except SqlxError Unit} {next : Unit → Driver α}
    (rebuilds : (next ()).run.Throughout Rebuilds) :
    (check result >>= next).run.Throughout Rebuilds := by
  cases result with
  | error error => exact fun _ _ => nofun
  | ok => exact rebuilds

theorem database_rebuilds : (TursoDriver.database connecting).run.Throughout Rebuilds := by
  refine check_rebuilds ?_
  split
  next => exact memoryDatabase_rebuilds
  next path _ =>
    refine throughout_of_not_issues fun state issues => ?_
    rw [Future.issues_run_bind] at issues
    rcases issues with isExists | ⟨_, _, isBuild⟩
    · cases TursoDriver.issues_validateFileTarget isExists
    · exact nomatch issues_attempt.mp isBuild

/-- Wherever a client is in its connect, it builds after it has read an empty slot. -/
theorem connect_rebuilds : (TursoDriver.connect connecting).run.Throughout Rebuilds := by
  refine check_rebuilds ?_
  split
  next => exact throughout_of_not_issues fun state => not_issues_connectSync rfl
  next =>
    refine .run_bind Rebuilds.carried (fun _ _ _ => nofun) database_rebuilds fun database => ?_
    refine throughout_of_not_issues fun state issues => ?_
    rcases TursoDriver.issues_setup issues with isConnect | ⟨_, _, _, isUpdate⟩
    · exact nomatch isConnect
    · exact nomatch isUpdate

end Asks

/-! ## Runs -/

/-- The clients that share an in-memory state have one database. -/
structure OneDatabase [DecidableEq Client] (options : Client → TursoConnectOptions)
    (state : TursoMemoryState)
    (system : System Client (World Client) Request Response
      (Except SqlxError TursoDriverConnection)) : Prop where
  /-- At most one of their builds succeeded. -/
  oneBuild : (system.world.sharedBuilds options state).length ≤ 1
  /-- What is in the slot is the database of that build. -/
  slot : ∀ database, system.world.slots state = some database →
    (system.world.sharedBuilds options state).map (·.handle) = [database.handle]
  /-- Each of them that connected got that database. -/
  connected : ∀ client connection, shares (options client) state = true →
    system.futures client = some (.done (.ok connection)) →
      system.world.slots state = some ⟨connection.raw.database⟩
  /-- While one of them builds, no other build succeeded, and the slot stays empty, however
  the build ends. -/
  building : ∀ client builder rest, shares (options client) state = true →
    system.futures client = some (.ask (.build builder) rest) →
      system.world.sharedBuilds options state = [] ∧
        ∀ next, system.Step environment next → next.world.slots state = none
  /-- The lock is held by clients only that have more to do, and were not dropped. -/
  running : ∀ client, system.world.holders state = some client →
    ∃ request rest, system.futures client = some (.ask request rest)
  /-- A client that reads an empty slot builds next. -/
  rebuilds : ∀ client next, system.futures client = some (.ask (.readMemory state) next) →
    system.world.slots state = none →
      ∃ builder rest, next (system.world.slots state) = .ask (.build builder) rest
  /-- A filled slot is not replaced. -/
  kept : ∀ next database, system.Step environment next →
    system.world.slots state = some database → next.world.slots state = some database

/-- The client has a database of its own. -/
structure OwnDatabase [DecidableEq Client] (options : Client → TursoConnectOptions)
    (client : Client)
    (system : System Client (World Client) Request Response
      (Except SqlxError TursoDriverConnection)) : Prop where
  /-- It never asks for an in-memory state. -/
  untouched : ∀ request, request.isMemory = true →
    ¬ (TursoDriver.connect (options client)).run.Issues request
  /-- What it connected to is what it built. -/
  built : ∀ connection, system.futures client = some (.done (.ok connection)) →
    ∃ build ∈ system.world.builds,
      build.client = client ∧ build.handle = connection.raw.database
  /-- No other client got the same database. -/
  alone : ∀ connection, system.futures client = some (.done (.ok connection)) →
    ∀ other, other ≠ client → ∀ otherConnection,
      system.futures other = some (.done (.ok otherConnection)) →
        otherConnection.raw.database ≠ connection.raw.database

section Runs

variable [DecidableEq Client]
  {system : System Client (World Client) Request Response
    (Except SqlxError TursoDriverConnection)}

omit [DecidableEq Client] in
theorem start_outside (client : Client) : Outside options client (start options).world where
  sound := ⟨fun _ => .inl rfl, fun _ isBuild => nomatch isBuild⟩
  free := fun _ => nofun

theorem start_meets :
    (start options).Meets (contract options) fun client =>
      Ends options client (·.raw.database) := by
  intro client future isFuture
  cases isFuture
  exact connect_meets (start_outside client)

section Reached

variable (reached : (start options).Reaches environment system)

include reached

theorem reached_meets :
    system.Meets (contract options) fun client => Ends options client (·.raw.database) :=
  reached.meets start_meets

theorem reached_sound : system.world.Sound options := by
  refine reached.invariant start_meets (fun guaranteed => ?_) ?_
  · exact guaranteed.2.sound
  · exact ⟨fun _ => .inl rfl, fun _ isBuild => nomatch isBuild⟩

/-- A step of any client respects the others, and loses nothing. -/
theorem reached_step
    {next : System Client (World Client) Request Response (Except SqlxError TursoDriverConnection)}
    (moved : system.Step environment next) :
    ∃ client, Keeps options client system.world next.world :=
  ((reached_meets reached).step moved).2

theorem reached_running {state : TursoMemoryState} {client : Client}
    (held : system.world.holders state = some client) :
    ∃ request rest, system.futures client = some (.ask request rest) := by
  cases isFuture : system.futures client with
  | none =>
      have free := reached.dropped start_meets (fun _ => nofun)
        (fun client world => ∀ state, world.holders state ≠ some client)
        World.not_holds_release
        (fun relied free state isHeld => free state ((relied.1.holders state).mp isHeld)) isFuture
      exact absurd held (free state)
  | some future =>
      cases future with
      | ask request rest => exact ⟨request, rest, rfl⟩
      | done result =>
          exact absurd held (((reached_meets reached).ended isFuture).1.free state)

/-- While a client builds, no step fills the slot. -/
theorem reached_building {state : TursoMemoryState} {client : Client} {builder : Turso.Builder}
    {rest : Response (.build builder) →
      Future Request Response (Except SqlxError TursoDriverConnection)}
    (isShared : shares (options client) state = true)
    (asks : system.futures client = some (.ask (.build builder) rest))
    {next : System Client (World Client) Request Response (Except SqlxError TursoDriverConnection)}
    (moved : system.Step environment next) : next.world.slots state = none := by
  have meets := reached_meets reached
  obtain ⟨held, isEmpty, _⟩ := meets.permits asks state isShared
  have respected : ∀ mover after, client ≠ mover → Keeps options mover system.world after →
      after.slots state = none :=
    fun mover after isOther keeps => ((keeps.1 client isOther).slots state held).trans isEmpty
  cases moved with
  | @answered mover request future asksMover response after answer =>
      by_cases isMover : client = mover
      · subst isMover
        cases asks.symm.trans asksMover
        cases response with
        | error error =>
            cases answer
            exact isEmpty
        | ok database =>
            cases answer.2
            exact isEmpty
      · obtain ⟨_, _, answered⟩ := meets mover _ asksMover _ ((contract options).rely_refl mover _)
        exact respected mover after isMover (answered response after answer).1
  | @dropped mover request future asksMover awaits =>
      by_cases isMover : client = mover
      · exact isEmpty
      · obtain ⟨_, droppable, _⟩ := meets mover _ asksMover _ ((contract options).rely_refl mover _)
        exact respected mover _ isMover (droppable awaits)

theorem reached_oneDatabase (state : TursoMemoryState) : OneDatabase options state system := by
  have sound := reached_sound reached
  have meets := reached_meets reached
  have isOne : (system.world.sharedBuilds options state).length ≤ 1 := by
    rw [← List.length_map (·.handle)]
    rcases sound.slots state with saved | ⟨_, _, _, _, unsaved⟩
    · rw [saved]
      cases system.world.slots state <;> simp
    · rw [unsaved]
      rfl
  refine ⟨isOne, ?_, ?_, ?_, ?_, ?_, ?_⟩
  · intro database isFilled
    rcases sound.slots state with saved | ⟨isEmpty, _⟩
    · rw [saved, isFilled]
      rfl
    · cases isEmpty.symm.trans isFilled
  · intro client connection isShared isDone
    exact ((meets.ended isDone).2 connection rfl).shared state isShared
  · intro client builder rest isShared asks
    obtain ⟨_, _, noBuild⟩ := meets.permits asks state isShared
    exact ⟨noBuild, fun next moved => reached_building reached isShared asks moved⟩
  · exact fun client held => reached_running reached held
  · intro client next asks isEmpty
    have atStart : ∀ client future, (start options).futures client = some future →
        future.Throughout Rebuilds := by
      intro client future isFuture
      cases isFuture
      exact connect_rebuilds
    rw [isEmpty]
    exact (reached.throughout atStart asks).here state next rfl
  · intro next database moved isFilled
    obtain ⟨_, keeps⟩ := reached_step reached moved
    exact keeps.2.slots state database isFilled

/-- What a client connected to was built, by the client or for a state that it shares. -/
theorem reached_built {client : Client} {connection : TursoDriverConnection}
    (isDone : system.futures client = some (.done (.ok connection))) :
    ∃ build ∈ system.world.builds, build.handle = connection.raw.database ∧
      (build.client = client ∨ ∃ state, shares (options build.client) state = true) := by
  have owns := ((reached_meets reached).ended isDone).2 connection rfl
  by_cases sharing : ∃ state, shares (options client) state = true
  · obtain ⟨state, isShared⟩ := sharing
    have isSlot := (reached_oneDatabase reached state).slot _ (owns.shared state isShared)
    have isMapped : connection.raw.database ∈
        (system.world.sharedBuilds options state).map (·.handle) := by
      rw [isSlot]
      exact .head _
    obtain ⟨build, isBuild, isHandle⟩ := List.mem_map.mp isMapped
    obtain ⟨isThere, buildShares⟩ := List.mem_filter.mp isBuild
    exact ⟨build, isThere, isHandle, .inr ⟨state, buildShares⟩⟩
  · exact ⟨_, owns.own fun state isShared => sharing ⟨state, isShared⟩, rfl, .inl rfl⟩

theorem reached_ownDatabase {client : Client}
    (inMemory : (options client).target.isMemory = true)
    (notShared : ∀ state, ¬ shares (options client) state = true) :
    OwnDatabase options client system := by
  have own : ∀ connection, system.futures client = some (.done (.ok connection)) →
      ⟨client, ":memory:", connection.raw.database⟩ ∈ system.world.builds := by
    intro connection isDone
    have built := (((reached_meets reached).ended isDone).2 connection rfl).own notShared
    cases isTarget : (options client).target with
    | memory name =>
        rw [isTarget] at built
        exact built
    | file path =>
        rw [isTarget] at inMemory
        cases inMemory
  refine ⟨?_, ?_, ?_⟩
  · exact fun request isMemory => not_issues_connect notShared isMemory
  · exact fun connection isDone => ⟨_, own connection isDone, rfl, rfl⟩
  · intro connection isDone other isOther otherConnection otherDone same
    obtain ⟨build, isBuild, isHandle, isBuilder⟩ := reached_built reached otherDone
    have isClient : client = build.client :=
      (reached_sound reached).owners _ (own connection isDone) _ isBuild
        (same.symm.trans isHandle.symm) rfl
    rcases isBuilder with isSelf | ⟨state, isShared⟩
    · exact isOther (isSelf.symm.trans isClient.symm)
    · rw [← isClient] at isShared
      exact notShared state isShared

end Reached

end Runs

/-- In every order of steps of any number of clients, however their builds end and wherever
their futures are dropped: the clients that share an in-memory state have one database, and
an in-memory client that does not share its state, for its cache is private or it has sync
settings, has one of its own. -/
theorem opens_share_one_database [DecidableEq Client] (options : Client → TursoConnectOptions)
    {system : System Client (World Client) Request Response
      (Except SqlxError TursoDriverConnection)}
    (reached : (start options).Reaches environment system) :
    (∀ state, OneDatabase options state system) ∧
      ∀ client, (options client).target.isMemory = true →
        ((options client).cacheMode = .privateCache ∨ (options client).sync.isSome = true) →
          OwnDatabase options client system := by
  refine ⟨reached_oneDatabase reached, fun client inMemory notSharing => ?_⟩
  refine reached_ownDatabase reached inMemory fun state => ?_
  rcases notSharing with isPrivate | isSync
  · simp [shares, isPrivate]
  · obtain ⟨sync, hasSync⟩ := Option.isSome_iff_exists.mp isSync
    simp [shares, hasSync]

/-- Two clients connect with the first options, and one of them has filled the slot. -/
theorem first_build_is_shared :
    ∃ system : System Bool (World Bool) Request Response _,
      system.world.slots firstOptions.memoryState = some ⟨7⟩ ∧
        OneDatabase (fun _ => firstOptions) firstOptions.memoryState system := by
  have started : (start fun _ : Bool => firstOptions).Reaches environment (start fun _ => firstOptions) :=
    .start
  have asksLock : (start fun _ : Bool => firstOptions).futures true =
      some (.ask (.lockMemory firstOptions.memoryState) _) := rfl
  obtain ⟨_, locked, asksRead, _⟩ := started.answered asksLock () _ ⟨rfl, rfl⟩
  obtain ⟨_, read, asksBuild, _⟩ := locked.answered asksRead none _ ⟨rfl, rfl⟩
  obtain ⟨_, built, asksWrite, _⟩ := read.answered asksBuild (.ok ⟨7⟩) _ ⟨nofun, rfl⟩
  obtain ⟨_, written, _, _⟩ := built.answered asksWrite () _ rfl
  exact ⟨_, rfl, (opens_share_one_database _ written).1 _⟩

/-- The first options with sync settings. -/
def sharedSyncOptions : TursoConnectOptions :=
  firstOptions.withSyncOptions (.new "libsql://db.example")

/-- Two clients with the same options in memory, a shared cache and sync settings build a
database each. -/
theorem sync_clients_share_nothing :
    sharedSyncOptions.target.isMemory = true ∧ sharedSyncOptions.cacheMode = .sharedCache ∧
      ¬ ∀ system : System Bool (World Bool) Request Response _,
        (start fun _ => sharedSyncOptions).Reaches environment system →
          system.world.builds.length ≤ 1 := by
  refine ⟨rfl, rfl, fun atMostOne => ?_⟩
  have started : (start fun _ : Bool => sharedSyncOptions).Reaches environment
      (start fun _ => sharedSyncOptions) := .start
  have asksBuild : ∀ client : Bool, (start fun _ => sharedSyncOptions).futures client =
      some (.ask (.buildSync (TursoDriver.syncBuilder sharedSyncOptions
        (.new "libsql://db.example") ":memory:")) _) := fun _ => rfl
  obtain ⟨_, first, _, others⟩ := started.answered (asksBuild true) (.ok ⟨7⟩) _ ⟨nofun, rfl⟩
  have asksSecond := (others false nofun).trans (asksBuild false)
  have isNew : ∀ path, ((start fun _ : Bool => sharedSyncOptions).world.record
      ⟨true, ":memory:", 7⟩).MayBuild path 8 := by
    intro path build isBuild same
    cases List.mem_singleton.mp isBuild
    cases same
  obtain ⟨_, second, _, _⟩ := first.answered asksSecond (.ok ⟨8⟩) _ ⟨isNew _, rfl⟩
  exact absurd (atMostOne _ second) (Nat.not_succ_le_self 1)

end Driver

end SqlxTurso
