import SqlxTurso.Driver
import SqlxTurso.Options.Restored

/-!
# Requested storage options

What the driver asks the engine to build, on both paths, and which of the storage options
that are set the engine's builder is told of.
-/

namespace SqlxTurso

open Library

namespace Driver

variable {α β : Type}

/-! ## The requests of the parts -/

@[simp] theorem issues_check (result : Except SqlxError α) (wanted : Request) :
    ¬ (check result).run.Issues wanted := id

/-- A checked sequence goes on only if the check passes. -/
theorem issues_check_bind {result : Except SqlxError Unit} {next : Unit → Driver β}
    {wanted : Request} :
    (check result >>= next).run.Issues wanted ↔
      result = .ok () ∧ (next ()).run.Issues wanted := by
  rw [Future.issues_run_bind]
  constructor
  · rintro (isCheck | ⟨_, gives, isLater⟩)
    · exact absurd isCheck (issues_check result wanted)
    · exact ⟨gives.symm, isLater⟩
  · rintro ⟨isOk, isLater⟩
    exact .inr ⟨(), isOk.symm, isLater⟩

@[simp] theorem issues_pure (value : α) (wanted : Request) :
    ¬ (pure value : Driver α).run.Issues wanted := id

@[simp] theorem gives_pure {value wanted : α} :
    (pure value : Driver α).run.Gives (.ok wanted) ↔ wanted = value := Except.ok.injEq _ _ ▸ Iff.rfl

@[simp] theorem issues_ask {request wanted : Request} :
    (ask request).run.Issues wanted ↔ wanted = request := by
  simp [ask, ExceptT.run, ExceptT.mk]

@[simp] theorem gives_ask {request : Request} (value : Response request) :
    (ask request).run.Gives (.ok value) := ⟨value, rfl⟩

@[simp] theorem issues_attempt {request wanted : Request}
    {read : Response request → Except Turso.Error α} :
    (attempt request read).run.Issues wanted ↔ wanted = request := by
  simp [attempt, ExceptT.run, ExceptT.mk]

/-- A body under the lock asks for nothing more than the lock. -/
theorem issues_locked {state : TursoMemoryState} {body : Driver α} {wanted : Request}
    (notLock : wanted ≠ .lockMemory state) (notUnlock : wanted ≠ .unlockMemory state) :
    (locked state body).run.Issues wanted ↔ body.run.Issues wanted := by
  simp only [locked, ExceptT.run, ExceptT.mk, Future.issues_ask, notLock, false_or,
    Future.issues_bind, notUnlock, Future.issues_done, exists_false, or_false, and_false]
  exact exists_const Unit

/-- Does the request hand a builder to the engine? -/
def Request.isBuild : Request → Bool
  | build _ => true
  | buildSync _ => true
  | _ => false

end Driver

/-! ## What is built -/

namespace TursoDriver

open Driver

variable {options : TursoConnectOptions} {wanted : Request}

theorem issues_validateFileTarget {path : String}
    (issues : (validateFileTarget options path).run.Issues wanted) :
    wanted = .pathExists path := by
  unfold validateFileTarget at issues
  split at issues
  · exact absurd issues (issues_pure _ _)
  · rw [Future.issues_run_bind] at issues
    rcases issues with isAsked | ⟨found, _, isLater⟩
    · exact issues_ask.mp isAsked
    · split at isLater
      · exact absurd isLater (issues_pure _ _)
      · exact absurd isLater (issues_check _ _)

/-- A file that is to exist may do so. -/
theorem gives_validateFileTarget (path : String) :
    (validateFileTarget options path).run.Gives (.ok ()) := by
  unfold validateFileTarget
  split
  · exact gives_pure.mpr rfl
  · rw [Future.gives_run_bind]
    exact ⟨true, gives_ask _, gives_pure.mpr rfl⟩

theorem issues_applyPragmas {connection : Turso.Connection}
    {pragmas : List (String × Option String)}
    (issues : (applyPragmas connection pragmas).run.Issues wanted) :
    ∃ key value, wanted = .pragmaUpdate connection key value := by
  induction pragmas with
  | nil => exact absurd issues (issues_pure _ _)
  | cons pragma rest ih =>
      rcases pragma with ⟨key, _ | value⟩
      · exact ih issues
      · rw [applyPragmas, Future.issues_run_bind] at issues
        rcases issues with isUpdate | ⟨_, _, isLater⟩
        · exact ⟨key, value, issues_attempt.mp isUpdate⟩
        · exact ih isLater

theorem issues_applyConnectionOptions {connection : Turso.Connection}
    (issues : (applyConnectionOptions options connection).run.Issues wanted) :
    ∃ key value, wanted = .pragmaUpdate connection key value := by
  rw [applyConnectionOptions, Future.issues_run_bind] at issues
  rcases issues with isUpdate | ⟨_, _, isLater⟩
  · exact ⟨_, _, issues_attempt.mp isUpdate⟩
  · exact issues_applyPragmas isLater

/-- Setting up a connection asks the engine to connect, and to change settings. -/
theorem issues_setup {connected : Request}
    {read : Response connected → Except Turso.Error Turso.Connection}
    {result : Turso.Connection → TursoDriverConnection}
    (issues : (do
      let connection ← attempt connected read
      applyConnectionOptions options connection
      return result connection : Driver TursoDriverConnection).run.Issues wanted) :
    wanted = connected ∨ ∃ connection key value, wanted = .pragmaUpdate connection key value := by
  rw [Future.issues_run_bind] at issues
  rcases issues with isConnect | ⟨connection, _, isLater⟩
  · exact .inl (issues_attempt.mp isConnect)
  · rw [Future.issues_run_bind] at isLater
    rcases isLater with isUpdate | ⟨_, _, isReturn⟩
    · exact .inr ⟨connection, issues_applyConnectionOptions isUpdate⟩
    · exact absurd isReturn (issues_pure _ _)

theorem issues_memoryDatabase (isBuild : wanted.isBuild = true) :
    (memoryDatabase options).run.Issues wanted ↔
      wanted = .build (localBuilder options ":memory:") := by
  unfold memoryDatabase
  split
  · exact issues_attempt
  · have notState : ∀ request, request.isBuild = false → wanted ≠ request := by
      rintro request isOther rfl
      exact Bool.false_ne_true (isOther.symm.trans isBuild)
    rw [issues_locked (notState _ rfl) (notState _ rfl), Future.issues_run_bind]
    constructor
    · rintro (isRead | ⟨slot, _, isLater⟩)
      · exact absurd (issues_ask.mp isRead) (notState _ rfl)
      · cases slot with
        | some database => exact absurd isLater (issues_pure _ _)
        | none =>
            rw [Future.issues_run_bind] at isLater
            rcases isLater with isBuilt | ⟨created, _, isWrite⟩
            · exact issues_attempt.mp isBuilt
            · rw [Future.issues_run_bind] at isWrite
              rcases isWrite with isWrite | ⟨_, _, isReturn⟩
              · exact absurd (issues_ask.mp isWrite) (notState _ rfl)
              · exact absurd isReturn (issues_pure _ _)
    · intro isLocal
      refine .inr ⟨none, gives_ask _, ?_⟩
      rw [Future.issues_run_bind]
      exact .inl (issues_attempt.mpr isLocal)

theorem issues_database (isBuild : wanted.isBuild = true) :
    (database options).run.Issues wanted ↔
      validateOpenSupport options = .ok () ∧
        wanted = .build (localBuilder options options.target.builderPath) := by
  rw [database, issues_check_bind]
  refine and_congr_right fun _ => ?_
  constructor
  · intro isLater
    split at isLater
    next isMemory =>
      rw [isMemory]
      exact (issues_memoryDatabase isBuild).mp isLater
    next path isFile =>
      rw [isFile]
      rw [Future.issues_run_bind] at isLater
      rcases isLater with isExists | ⟨_, _, isBuilt⟩
      · rw [issues_validateFileTarget isExists] at isBuild
        cases isBuild
      · exact issues_attempt.mp isBuilt
  · intro isLocal
    split
    next isMemory =>
      rw [isMemory] at isLocal
      exact (issues_memoryDatabase isBuild).mpr isLocal
    next path isFile =>
      rw [isFile] at isLocal
      rw [Future.issues_run_bind]
      exact .inr ⟨(), gives_validateFileTarget path, issues_attempt.mpr isLocal⟩

theorem issues_syncPath (issues : (syncPath options).run.Issues wanted) :
    ∃ path, wanted = .pathExists path := by
  unfold syncPath at issues
  split at issues
  · exact absurd issues (issues_pure _ _)
  next path _ =>
    rw [Future.issues_run_bind] at issues
    rcases issues with isExists | ⟨_, _, isReturn⟩
    · exact ⟨path, issues_validateFileTarget isExists⟩
    · exact absurd isReturn (issues_pure _ _)

theorem gives_syncPath {path : String} :
    (syncPath options).run.Gives (.ok path) ↔ path = options.target.builderPath := by
  unfold syncPath
  split
  next isMemory => rw [isMemory]; exact gives_pure
  next file isFile =>
    rw [isFile, Future.gives_run_bind]
    constructor
    · rintro ⟨_, _, isReturn⟩
      exact gives_pure.mp isReturn
    · intro isFilePath
      exact ⟨(), gives_validateFileTarget file, gives_pure.mpr isFilePath⟩

theorem issues_connectSync {sync : TursoSyncOptions} (isBuild : wanted.isBuild = true) :
    (connectSync options sync).run.Issues wanted ↔
      validateSyncSupport options = .ok () ∧
        wanted = .buildSync (syncBuilder options sync options.target.builderPath) := by
  rw [connectSync, issues_check_bind]
  refine and_congr_right fun _ => ?_
  rw [Future.issues_run_bind]
  constructor
  · intro isLater
    rcases isLater with isPath | ⟨path, isGiven, isLater⟩
    · obtain ⟨file, rfl⟩ := issues_syncPath isPath
      cases isBuild
    · rw [← gives_syncPath.mp isGiven]
      rw [Future.issues_run_bind] at isLater
      rcases isLater with isBuilt | ⟨database, _, isSetup⟩
      · exact issues_attempt.mp isBuilt
      · rcases issues_setup isSetup with rfl | ⟨_, _, _, rfl⟩ <;> cases isBuild
  · intro isSync
    refine .inr ⟨_, gives_syncPath.mpr rfl, ?_⟩
    rw [Future.issues_run_bind]
    exact .inl (issues_attempt.mpr isSync)

/-- Without sync settings the driver builds the local database, if the checks pass. -/
theorem issues_connect_local (noSync : options.sync = none) (isBuild : wanted.isBuild = true) :
    (connect options).run.Issues wanted ↔
      validatePragmas options = .ok () ∧ validateOpenSupport options = .ok () ∧
        wanted = .build (localBuilder options options.target.builderPath) := by
  rw [connect, issues_check_bind]
  refine and_congr_right fun _ => ?_
  simp only [noSync]
  rw [Future.issues_run_bind, issues_database isBuild]
  constructor
  · rintro (isBuilt | ⟨database, _, isSetup⟩)
    · exact isBuilt
    · rcases issues_setup isSetup with rfl | ⟨_, _, _, rfl⟩ <;> cases isBuild
  · exact .inl

/-- With sync settings it builds the synchronised database, if the checks pass. -/
theorem issues_connect_sync {sync : TursoSyncOptions} (isSync : options.sync = some sync)
    (isBuild : wanted.isBuild = true) :
    (connect options).run.Issues wanted ↔
      validatePragmas options = .ok () ∧ validateSyncSupport options = .ok () ∧
        wanted = .buildSync (syncBuilder options sync options.target.builderPath) := by
  rw [connect, issues_check_bind]
  refine and_congr_right fun _ => ?_
  simp only [isSync]
  exact issues_connectSync isBuild

end TursoDriver

/-! ## What the builders are told -/

namespace Turso

variable {wanted other : BuilderCall}

@[simp] theorem Builder.mem_call {builder : Builder} :
    wanted ∈ (builder.call other).calls ↔ wanted ∈ builder.calls ∨ wanted = other := by
  simp [Builder.call]

@[simp] theorem Builder.mem_experimental {builder : Builder}
    {features : TursoExperimentalFeatures} {feature : TursoExperimentalFeature} :
    wanted ∈ (builder.experimental features feature).calls ↔
      wanted ∈ builder.calls ∨ wanted = .experimental feature (features.isEnabled feature) :=
  Builder.mem_call

@[simp] theorem Sync.Builder.mem_call {builder : Sync.Builder} :
    wanted ∈ (builder.call other).calls ↔ wanted ∈ builder.calls ∨ wanted = other := by
  simp [Sync.Builder.call]

@[simp] theorem Sync.Builder.mem_callWith {α : Type} {builder : Sync.Builder} {value : Option α}
    {call : α → BuilderCall} :
    wanted ∈ (builder.callWith value call).calls ↔
      wanted ∈ builder.calls ∨ ∃ set, value = some set ∧ wanted = call set := by
  cases value with
  | none => simp [Sync.Builder.callWith]
  | some set => simp [Sync.Builder.callWith]

end Turso

namespace TursoDriver

open Driver

/-- Each storage option that is set is among the calls on a builder. -/
structure HandedOver (options : TursoConnectOptions) (calls : List Turso.BuilderCall) :
    Prop where
  encryption : ∀ encryption, options.encryption = some encryption →
    .experimentalEncryption true ∈ calls ∧ .withEncryption encryption.toTurso ∈ calls
  vfs : ∀ vfs, options.vfs = some vfs → .withIo vfs ∈ calls
  customIo : ∀ io, options.customIo = some io → .withIoImpl io ∈ calls
  features : ∀ feature, options.experimentalFeatures.isEnabled feature = true →
    .experimental feature true ∈ calls

/-- Some run of `connect` has the engine build a database with these calls. -/
def Builds (options : TursoConnectOptions) (calls : List Turso.BuilderCall) : Prop :=
  (∃ path, (connect options).run.Issues (.build ⟨path, calls⟩)) ∨
    ∃ path, (connect options).run.Issues (.buildSync ⟨path, calls⟩)

/-- The local path tells the engine of every storage option. -/
theorem localBuilder_handedOver {options : TursoConnectOptions}
    (oneIo : options.vfs = none ∨ options.customIo = none) (path : String) :
    HandedOver options (localBuilder options path).calls where
  encryption := by
    intro encryption isSet
    simp [localBuilder, isSet]
  vfs := by
    intro vfs isSet
    have noIo : options.customIo = none := oneIo.resolve_left (by simp [isSet])
    cases encrypted : options.encryption <;> simp [localBuilder, isSet, noIo, encrypted]
  customIo := by
    intro io isSet
    cases encrypted : options.encryption <;> simp [localBuilder, isSet, encrypted]
  features := by
    intro feature isEnabled
    cases feature <;> simp [localBuilder, isEnabled]

/-- The calls of the synchronised path. -/
theorem mem_syncBuilder {options : TursoConnectOptions} {sync : TursoSyncOptions} {path : String}
    {wanted : Turso.BuilderCall} :
    wanted ∈ (syncBuilder options sync path).calls ↔
      wanted = .withRemoteUrl sync.remoteUrl ∨
      (∃ token, sync.authToken = some token ∧ wanted = .withAuthToken token) ∨
      (∃ name, sync.clientName = some name ∧ wanted = .withClientName name) ∨
      (∃ timeout, sync.longPollTimeout = some timeout ∧ wanted = .withLongPollTimeout timeout) ∨
      wanted = .bootstrapIfEmpty sync.bootstrapIfEmpty ∨
      wanted = .experimental .indexMethod
        (options.experimentalFeatures.isEnabled .indexMethod) := by
  simp [syncBuilder, Turso.Sync.Builder.newRemote, or_assoc]

/-- The synchronised path tells the engine of no storage option but the index methods. -/
theorem syncBuilder_handedOver_iff {options : TursoConnectOptions} {sync : TursoSyncOptions}
    {path : String} :
    HandedOver options (syncBuilder options sync path).calls ↔
      options.encryption = none ∧ options.vfs = none ∧ options.customIo = none ∧
        ∀ feature, options.experimentalFeatures.isEnabled feature = true →
          feature = .indexMethod := by
  constructor
  · intro handedOver
    refine ⟨?_, ?_, ?_, ?_⟩
    · refine Option.eq_none_iff_forall_ne_some.mpr fun encryption isSet => ?_
      simpa [mem_syncBuilder] using (handedOver.encryption encryption isSet).2
    · refine Option.eq_none_iff_forall_ne_some.mpr fun vfs isSet => ?_
      simpa [mem_syncBuilder] using handedOver.vfs vfs isSet
    · refine Option.eq_none_iff_forall_ne_some.mpr fun io isSet => ?_
      simpa [mem_syncBuilder] using handedOver.customIo io isSet
    · intro feature isEnabled
      have isCall := handedOver.features feature isEnabled
      simp only [mem_syncBuilder, reduceCtorEq, and_false, exists_false, false_or,
        Turso.BuilderCall.experimental.injEq] at isCall
      exact isCall.1
  · rintro ⟨noEncryption, noVfs, noIo, onlyIndex⟩
    refine ⟨?_, ?_, ?_, ?_⟩
    · exact fun encryption isSet => nomatch noEncryption.symm.trans isSet
    · exact fun vfs isSet => nomatch noVfs.symm.trans isSet
    · exact fun io isSet => nomatch noIo.symm.trans isSet
    · intro feature isEnabled
      cases onlyIndex feature isEnabled
      simp [mem_syncBuilder, isEnabled]

/-! ## Which options are honoured -/

/-- The checks refuse to open a synchronised database with the options. -/
def RefusedBySync (options : TursoConnectOptions) : Prop :=
  options.pragmas.any setsAutovacuum = true ∨ options.openMode = .readOnly ∨
    options.immutable = true ∨ options.customIo.isSome = true

theorem validatePragmas_eq_ok_iff {options : TursoConnectOptions} :
    validatePragmas options = .ok () ↔ ¬ options.pragmas.any setsAutovacuum = true := by
  unfold validatePragmas
  split
  next isSet => exact iff_of_false nofun (not_not.mpr isSet)
  next notSet => exact iff_of_true rfl notSet

theorem validateSyncSupport_eq_ok_iff {options : TursoConnectOptions} :
    validateSyncSupport options = .ok () ↔
      ¬ (options.openMode = .readOnly ∨ options.immutable = true ∨
        options.customIo.isSome = true) := by
  unfold validateSyncSupport
  split
  next isReadOnly => simp [isReadOnly]
  split
  next isImmutable => simp [isImmutable]
  split
  next isCustom => simp [isCustom]
  next notReadOnly notImmutable notCustom => simp [notReadOnly, notImmutable, notCustom]

/-- The only options that a synchronised database is built with are those that its checks
pass. -/
theorem builds_sync_iff {options : TursoConnectOptions} {sync : TursoSyncOptions}
    (isSync : options.sync = some sync) (calls : List Turso.BuilderCall) :
    Builds options calls ↔
      ¬ RefusedBySync options ∧
        calls = (syncBuilder options sync options.target.builderPath).calls := by
  have passes : validatePragmas options = .ok () ∧ validateSyncSupport options = .ok () ↔
      ¬ RefusedBySync options := by
    rw [validatePragmas_eq_ok_iff, validateSyncSupport_eq_ok_iff, ← not_or, RefusedBySync]
  rw [← passes, Builds]
  constructor
  · rintro (⟨path, isBuild⟩ | ⟨path, isBuild⟩)
    · rw [issues_connect_sync isSync rfl] at isBuild
      exact nomatch isBuild.2.2
    · rw [issues_connect_sync isSync rfl] at isBuild
      obtain ⟨pragmasPass, syncPasses, isBuilder⟩ := isBuild
      exact ⟨⟨pragmasPass, syncPasses⟩,
        congrArg Turso.Sync.Builder.calls (Driver.Request.buildSync.inj isBuilder)⟩
  · rintro ⟨⟨pragmasPass, syncPasses⟩, rfl⟩
    exact .inr ⟨_, (issues_connect_sync isSync rfl).mpr ⟨pragmasPass, syncPasses, rfl⟩⟩

theorem handedOver_of_local {options : TursoConnectOptions} (noSync : options.sync = none)
    (oneIo : options.vfs = none ∨ options.customIo = none) {calls : List Turso.BuilderCall}
    (builds : Builds options calls) : HandedOver options calls := by
  rcases builds with ⟨path, isBuild⟩ | ⟨path, isBuild⟩
  · rw [issues_connect_local noSync rfl] at isBuild
    have isLocal : calls = _ := congrArg Turso.Builder.calls (Driver.Request.build.inj isBuild.2.2)
    rw [isLocal]
    exact localBuilder_handedOver oneIo _
  · rw [issues_connect_local noSync rfl] at isBuild
    exact nomatch isBuild.2.2

/-- Whatever options a process comes by: each storage option that is set is handed to the
engine in every build, exactly if there are no sync settings, or they are refused, or the
only storage option that is set is the one for index methods. -/
theorem storage_options_are_honoured_iff (crate : UrlCrate) {start : Process} {family : Family}
    (reached : family.Reaches crate start) :
    ∀ options ∈ family.members,
      (∀ calls, Builds options calls → HandedOver options calls) ↔
        options.sync = none ∨ RefusedBySync options ∨
          (options.encryption = none ∧ options.vfs = none ∧
            ∀ feature, options.experimentalFeatures.isEnabled feature = true →
              feature = .indexMethod) := by
  intro options isMember
  have oneIo := (reached.members_hold TursoConnectOptions.wellFormed_keep options isMember).oneIo
  cases isSync : options.sync with
  | none =>
      refine iff_of_true (fun calls builds => ?_) (.inl rfl)
      exact handedOver_of_local isSync oneIo builds
  | some sync =>
      simp only [builds_sync_iff isSync, reduceCtorEq, false_or]
      constructor
      · intro honoured
        by_cases refused : RefusedBySync options
        · exact .inl refused
        · obtain ⟨noEncryption, noVfs, _, onlyIndex⟩ :=
            syncBuilder_handedOver_iff.mp (honoured _ ⟨refused, rfl⟩)
          exact .inr ⟨noEncryption, noVfs, onlyIndex⟩
      · rintro (refused | ⟨noEncryption, noVfs, onlyIndex⟩) _ ⟨notRefused, rfl⟩
        · exact absurd refused notRefused
        · refine syncBuilder_handedOver_iff.mpr ⟨noEncryption, noVfs, ?_, onlyIndex⟩
          cases isIo : options.customIo with
          | none => rfl
          | some io => exact absurd (.inr (.inr (.inr (by rw [isIo]; rfl)))) notRefused

/-- Settings for the encryption of a database. -/
def sampleEncryption : TursoEncryptionOptions :=
  ⟨"aegis256", "b1bb", by decide, by decide, by decide, by decide⟩

/-- Default options with encryption. -/
def encryptedOptions : TursoConnectOptions := firstOptions.encryptionOptions sampleEncryption

theorem encryption_is_handed_over :
    HandedOver encryptedOptions (localBuilder encryptedOptions ":memory:").calls := by
  have reached : Family.Reaches (PlainUrls.crate (utf8 "turso")) ⟨0, 0⟩
      ⟨⟨1, 1⟩, [encryptedOptions, firstOptions]⟩ :=
    .step (.step .start .default) (.built (.head _) (.encryptionOptions sampleEncryption))
  refine (storage_options_are_honoured_iff _ reached _ (.head _)).mpr (.inl rfl) _ ?_
  refine .inl ⟨":memory:", (issues_connect_local rfl rfl).mpr ?_⟩
  exact ⟨by decide, by decide, rfl⟩

/-- The same options with sync settings. -/
def encryptedSyncOptions : TursoConnectOptions :=
  encryptedOptions.withSyncOptions (.new "libsql://db.example")

/-- They build a database in plain text. -/
theorem encryption_is_dropped :
    ¬ ∀ calls, Builds encryptedSyncOptions calls → HandedOver encryptedSyncOptions calls := by
  intro honoured
  have builds : Builds encryptedSyncOptions
      (syncBuilder encryptedSyncOptions (.new "libsql://db.example") ":memory:").calls :=
    (builds_sync_iff rfl _).mpr ⟨by unfold RefusedBySync; decide, rfl⟩
  exact nomatch (syncBuilder_handedOver_iff.mp (honoured _ builds)).1

end TursoDriver

end SqlxTurso
