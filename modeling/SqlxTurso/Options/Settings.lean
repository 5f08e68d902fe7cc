import SqlxTurso.Options.ConnectionUrl

/-!
# Query settings

A query parameter is read into a setting first, which depends on nothing but the
parameter, and the setting is applied to the options then, which never fails.
-/

namespace SqlxTurso

open Library

inductive QueryMode where
  | readOnly
  | readWrite
  | createIfMissing
  | memory
  deriving DecidableEq, Repr

/-- What a query parameter asks for. -/
inductive QuerySetting where
  | mode (mode : QueryMode)
  | cache (sharedCache : Bool)
  | immutable (flag : Bool)
  | vfs (name : String)
  | encryptionCipher (cipher : String)
  | encryptionHexkey (hexkey : String)
  | journalMode (value : String)
  | experimental (features : List TursoExperimentalFeature)
  | syncRemoteUrl (remoteUrl : String)
  | syncAuthToken (authToken : String)
  | syncClientName (clientName : String)
  | syncLongPollTimeout (timeout : Duration)
  | syncBootstrapIfEmpty (bootstrapIfEmpty : Bool)
  deriving DecidableEq, Repr

namespace QuerySetting

def key : QuerySetting → String
  | mode _ => "mode"
  | cache _ => "cache"
  | immutable _ => "immutable"
  | vfs _ => "vfs"
  | encryptionCipher _ => "encryption_cipher"
  | encryptionHexkey _ => "encryption_hexkey"
  | journalMode _ => "journal_mode"
  | experimental _ => "experimental"
  | syncRemoteUrl _ => "sync_remote_url"
  | syncAuthToken _ => "sync_auth_token"
  | syncClientName _ => "sync_client_name"
  | syncLongPollTimeout _ => "sync_long_poll_timeout_ms"
  | syncBootstrapIfEmpty _ => "sync_bootstrap_if_empty"

def readBool (name value : String) : Except SqlxError Bool :=
  match value with
  | "true" | "1" => .ok true
  | "false" | "0" => .ok false
  | _ => .error (unknownValue value name)

def readTimeout (value : String) : Except SqlxError QuerySetting :=
  match parseU64 value with
  | .ok millis => .ok (syncLongPollTimeout (.fromMillis millis))
  | .error kind => .error (.config (.parseInt kind))

/-- The setting of a query parameter. -/
def read : String × String → Except SqlxError QuerySetting
  | ("mode", value) =>
      match value with
      | "ro" => .ok (mode .readOnly)
      | "rw" => .ok (mode .readWrite)
      | "rwc" => .ok (mode .createIfMissing)
      | "memory" => .ok (mode .memory)
      | _ => .error (unknownValue value "mode")
  | ("cache", value) =>
      match value with
      | "private" => .ok (cache false)
      | "shared" => .ok (cache true)
      | _ => .error (unknownValue value "cache")
  | ("immutable", value) => (readBool "immutable" value).map immutable
  | ("vfs", value) => .ok (vfs value)
  | ("encryption_cipher", value) => .ok (encryptionCipher value)
  | ("encryption_hexkey", value) => .ok (encryptionHexkey value)
  | ("journal_mode", value) =>
      if eqIgnoreAsciiCase (normalizedPragmaValue value) "mvcc".toList then
        .ok (journalMode "'mvcc'")
      else .ok (journalMode value)
  | ("auto_vacuum", _) => .error unsupportedAutovacuum
  | ("experimental", value) =>
      ((featureNames value).mapM parseExperimentalFeature).map experimental
  | ("sync_remote_url", value) => .ok (syncRemoteUrl value)
  | ("sync_auth_token", value) => .ok (syncAuthToken value)
  | ("sync_client_name", value) => .ok (syncClientName value)
  | ("sync_long_poll_timeout_ms", value) => readTimeout value
  | ("sync_bootstrap_if_empty", value) =>
      (readBool "sync_bootstrap_if_empty" value).map syncBootstrapIfEmpty
  | (key, _) =>
      .error (configError
        ("unknown query parameter `" ++ key ++ "` while parsing Turso connection URL"))

/-- What a setting other than memory mode changes. -/
def change (state : QueryState) : QuerySetting → QueryState
  | mode .readOnly => state.withOptions (state.options.readOnly true)
  | mode .createIfMissing => state.withOptions (state.options.createIfMissing true)
  | mode _ => state
  | cache sharedCache => state.withOptions (state.options.sharedCache sharedCache)
  | immutable flag => state.withOptions (state.options.withImmutable flag)
  | vfs name => state.withOptions (state.options.withVfs name)
  | encryptionCipher cipher => { state with encryptionCipher := some cipher }
  | encryptionHexkey hexkey => { state with encryptionHexkey := some hexkey }
  | journalMode value => state.withOptions (state.options.pragma "journal_mode" (some value))
  | experimental features =>
      state.withOptions (features.foldl (·.experimentalFeature · true) state.options)
  | syncRemoteUrl remoteUrl => state.withSync (.new remoteUrl)
  | syncAuthToken authToken => state.withSync (state.syncOrDefault.withAuthToken authToken)
  | syncClientName clientName => state.withSync (state.syncOrDefault.withClientName clientName)
  | syncLongPollTimeout timeout =>
      state.withSync (state.syncOrDefault.withLongPollTimeout timeout)
  | syncBootstrapIfEmpty bootstrapIfEmpty =>
      state.withSync (state.syncOrDefault.withBootstrapIfEmpty bootstrapIfEmpty)

/-- Apply a setting.  Memory mode draws a new in-memory target from the process. -/
def apply (state : QueryState) (setting : QuerySetting) : StateM Process QueryState :=
  if setting = mode .memory then do
    let options ← state.options.inMemory true
    return state.withOptions options
  else return setting.change state

end QuerySetting

/-- A computation that does not fail. -/
def Fallible.ofState {α : Type} (action : StateM Process α) : Fallible α :=
  ExceptT.mk (action.map .ok)

namespace QuerySetting

theorem readBool_unknown {name value : String} (notTrue : value = "true" → False)
    (notOne : value = "1" → False) (notFalse : value = "false" → False)
    (notZero : value = "0" → False) : readBool name value = .error (unknownValue value name) := by
  simp only [readBool]

theorem parseBool_eq (name value : String) :
    parseBool name value = .ofExcept (readBool name value) := by
  unfold parseBool
  split
  next => rfl
  next => rfl
  next => rfl
  next => rfl
  next notTrue notOne notFalse notZero =>
    rw [readBool_unknown notTrue notOne notFalse notZero]
    rfl

theorem foldlM_applyFeature_eq (names : List String) (state : QueryState) :
    names.foldlM applyFeature state =
      (names.mapM parseExperimentalFeature).map fun features =>
        (experimental features).change state := by
  induction names generalizing state with
  | nil =>
      rw [List.mapM_nil]
      rfl
  | cons name names ih =>
      rw [List.foldlM_cons, List.mapM_cons, applyFeature]
      cases parsed : parseExperimentalFeature name with
      | error error => rfl
      | ok feature =>
          show names.foldlM applyFeature _ = _
          rw [ih]
          cases names.mapM parseExperimentalFeature <;> rfl

theorem read_mode_unknown {value : String} (notRo : value = "ro" → False)
    (notRw : value = "rw" → False) (notRwc : value = "rwc" → False)
    (notMemory : value = "memory" → False) :
    read ("mode", value) = .error (unknownValue value "mode") := by
  simp only [read]

theorem read_cache_unknown {value : String} (notPrivate : value = "private" → False)
    (notShared : value = "shared" → False) :
    read ("cache", value) = .error (unknownValue value "cache") := by
  simp only [read]

/-- One turn of the loop reads its parameter and applies the setting. -/
theorem applyQueryParam_eq (state : QueryState) (pair : String × String) :
    applyQueryParam state pair =
      (Fallible.ofExcept (read pair) >>= fun setting =>
        Fallible.ofState (setting.apply state)) := by
  unfold applyQueryParam
  split
  next value =>
    split
    next => rfl
    next => rfl
    next => rfl
    next => rfl
    next notRo notRw notRwc notMemory =>
      rw [read_mode_unknown notRo notRw notRwc notMemory]
      rfl
  next value =>
    split
    next => rfl
    next => rfl
    next notPrivate notShared =>
      rw [read_cache_unknown notPrivate notShared]
      rfl
  next value =>
    rw [parseBool_eq]
    show _ = Fallible.ofExcept ((readBool "immutable" value).map immutable) >>= _
    cases readBool "immutable" value <;> rfl
  next => rfl
  next => rfl
  next => rfl
  next value =>
    show _ = Fallible.ofExcept (if _ then _ else _) >>= _
    split
    · rfl
    · rfl
  next => rfl
  next value =>
    rw [foldlM_applyFeature_eq]
    show _ = Fallible.ofExcept
      (((featureNames value).mapM parseExperimentalFeature).map experimental) >>= _
    cases (featureNames value).mapM parseExperimentalFeature <;> rfl
  next => rfl
  next => rfl
  next => rfl
  next value =>
    show _ = Fallible.ofExcept (readTimeout value) >>= _
    unfold readTimeout
    cases parseU64 value <;> rfl
  next value =>
    rw [parseBool_eq]
    show _ = Fallible.ofExcept
      ((readBool "sync_bootstrap_if_empty" value).map syncBootstrapIfEmpty) >>= _
    cases readBool "sync_bootstrap_if_empty" value <;> rfl
  next key _ _ _ _ _ _ _ _ _ _ _ _ _ _ _ =>
    simp only [read]
    rfl

/-- A setting other than memory mode keeps the target and its state. -/
theorem change_target (state : QueryState) (setting : QuerySetting) :
    (setting.change state).options.target = state.options.target ∧
      (setting.change state).options.memoryState = state.options.memoryState := by
  cases setting with
  | mode mode => cases mode <;> exact ⟨rfl, rfl⟩
  | experimental features =>
      show (features.foldl _ state.options).target = _ ∧ _
      have kept : ∀ options : TursoConnectOptions,
          (features.foldl (·.experimentalFeature · true) options).target = options.target ∧
            (features.foldl (·.experimentalFeature · true) options).memoryState =
              options.memoryState := by
        induction features with
        | nil => exact fun _ => ⟨rfl, rfl⟩
        | cons feature features ih => exact fun options => ih (options.experimentalFeature feature true)
      exact kept state.options
  | _ => exact ⟨rfl, rfl⟩

/-! ## All settings of a query -/

/-- The settings of a query, read one after the other. -/
def readAll (pairs : List (String × String)) : Except SqlxError (List QuerySetting) :=
  pairs.mapM read

/-- Apply settings one after the other. -/
def applyAll (state : QueryState) (settings : List QuerySetting) : StateM Process QueryState :=
  settings.foldlM apply state

/-- What the loop over the parameters returns does not depend on the order in which
reading and applying alternate. -/
theorem foldlM_applyQueryParam_result (pairs : List (String × String)) (state : QueryState)
    (process : Process) :
    (pairs.foldlM applyQueryParam state process).1 =
      (readAll pairs).map fun settings => (applyAll state settings process).1 := by
  induction pairs generalizing state process with
  | nil =>
      rw [readAll, List.mapM_nil]
      rfl
  | cons pair pairs ih =>
      rw [List.foldlM_cons, applyQueryParam_eq, readAll, List.mapM_cons]
      cases parsed : read pair with
      | error error => rfl
      | ok setting =>
          show (pairs.foldlM applyQueryParam (setting.apply state process).1
            (setting.apply state process).2).1 = _
          rw [ih, readAll]
          cases pairs.mapM read <;> rfl

end QuerySetting

theorem finishEncryption_options {state : QueryState} {options : TursoConnectOptions}
    (finished : finishEncryption state = .ok options) :
    ∃ encryption, options = { state.options with encryption } := by
  unfold finishEncryption at finished
  split at finished
  next cipher hexkey _ _ =>
    cases checked : TursoEncryptionOptions.new cipher hexkey with
    | error error =>
        rw [checked] at finished
        cases finished
    | ok encryption =>
        rw [checked] at finished
        cases finished
        exact ⟨some encryption, rfl⟩
  next => cases finished
  next => cases finished
  next =>
    cases finished
    exact ⟨_, rfl⟩

theorem finishSync_options {sync : Option TursoSyncOptions} {start options : TursoConnectOptions}
    (finished : finishSync sync start = .ok options) :
    ∃ sync, options = { start with sync } := by
  unfold finishSync at finished
  split at finished
  next sync =>
    split at finished
    · cases finished
    · cases finished
      exact ⟨some sync, rfl⟩
  next =>
    cases finished
    exact ⟨_, rfl⟩

/-- Both checks after the loop pass, the encryption first. -/
theorem finishQuery_eq_ok {state : QueryState} {options : TursoConnectOptions}
    (finished : finishQuery state = .ok options) :
    ∃ between, finishEncryption state = .ok between ∧
      finishSync state.sync between = .ok options := by
  rw [finishQuery] at finished
  cases encrypted : finishEncryption state with
  | error error =>
      rw [encrypted] at finished
      cases finished
  | ok between =>
      rw [encrypted] at finished
      exact ⟨between, rfl, finished⟩

/-- After the loop nothing is set but the encryption and the sync settings. -/
theorem finishQuery_options {state : QueryState} {options : TursoConnectOptions}
    (finished : finishQuery state = .ok options) :
    ∃ encryption sync, options = { state.options with encryption, sync } := by
  obtain ⟨between, encrypted, finished⟩ := finishQuery_eq_ok finished
  obtain ⟨encryption, rfl⟩ := finishEncryption_options encrypted
  obtain ⟨sync, rfl⟩ := finishSync_options finished
  exact ⟨encryption, sync, rfl⟩

/-! ## What the parameters keep -/

section Kept

variable {holds : TursoConnectOptions → Prop}

theorem foldlM_applyQueryParam_keeps
    (kept : ∀ (setting : QuerySetting) (state : QueryState) (process : Process),
      holds state.options → holds (setting.apply state process).1.options)
    (pairs : List (String × String)) {state : QueryState} (held : holds state.options) :
    (pairs.foldlM applyQueryParam state).Ensures fun after => holds after.options := by
  induction pairs generalizing state with
  | nil => exact .pure held
  | cons pair pairs ih =>
      rw [List.foldlM_cons, QuerySetting.applyQueryParam_eq]
      have applied : ∀ setting : QuerySetting,
          (Fallible.ofState (setting.apply state)).Ensures fun after => holds after.options := by
        rintro setting process after next ⟨⟩
        exact kept setting state process held
      have turned := (Fallible.Ensures.trivial (.ofExcept (QuerySetting.read pair))).bind
        fun setting _ => applied setting
      exact turned.bind fun after heldAfter => ih heldAfter

/-- What each setting keeps, and the end of a query too, the parameters of a URL keep. -/
theorem TursoConnectOptions.applyQueryParams_keeps {crate : UrlCrate}
    (kept : ∀ (setting : QuerySetting) (state : QueryState) (process : Process),
      holds state.options → holds (setting.apply state process).1.options)
    (finished : ∀ options encryption sync, holds options →
      holds { options with encryption, sync })
    {options : TursoConnectOptions} (held : holds options) (params : Bytes) :
    (options.applyQueryParams crate params).Ensures holds := by
  have atStart : holds options.queryState.options := held
  refine (foldlM_applyQueryParam_keeps kept _ atStart).bind fun state heldAfter => ?_
  refine .ofExcept fun after isFinished => ?_
  obtain ⟨encryption, sync, rfl⟩ := finishQuery_options isFinished
  exact finished _ encryption sync heldAfter

end Kept

/-! ## The parts of a URL -/

namespace TursoConnectOptions

variable (crate : UrlCrate)

/-- The options for the database part of a URL. -/
def forDatabase (database : Bytes) : Fallible TursoConnectOptions := do
  let options ← default
  if database = [] then return options.filename ""
  else if database = utf8 ":memory:" then options.inMemory true
  else
    match decodeUtf8 (crate.percentDecode database) with
    | some path => return options.filename path
    | none => refuse (.config .utf8)

/-- The options after the parameters of a URL, if it has any. -/
def withParams (params : Option Bytes) (options : TursoConnectOptions) :
    Fallible TursoConnectOptions :=
  match params with
  | some params => options.applyQueryParams crate params
  | none => return options

theorem fromDbAndParams_parts (database : Bytes) (params : Option Bytes) :
    fromDbAndParams crate database params =
      (forDatabase crate database >>= withParams crate params) := by
  rw [fromDbAndParams, forDatabase]
  by_cases isEmpty : database = []
  · simp only [if_pos isEmpty]
    rfl
  by_cases isMemory : database = utf8 ":memory:"
  · simp only [if_neg isEmpty, if_pos isMemory]
    rfl
  simp only [if_neg isEmpty, if_neg isMemory]
  cases decodeUtf8 (crate.percentDecode database) <;> rfl

end TursoConnectOptions

end SqlxTurso
