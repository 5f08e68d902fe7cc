import SqlxTurso.Library.Collect
import SqlxTurso.Library.PlainUrls
import SqlxTurso.Library.Reordering
import SqlxTurso.Options.Settings

/-!
# The order of query parameters

Most parameters of a URL may change places.  Memory mode overwrites the cache mode, and
the remote URL of the sync settings overwrites all other sync settings, so what is written
before them is lost.
-/

namespace SqlxTurso

open Library

/-! ## Options without an identity -/

/-- The target without the name of an in-memory database. -/
def TursoDatabaseTarget.forget : TursoDatabaseTarget → TursoDatabaseTarget
  | memory _ => memory ""
  | file path => file path

theorem TursoDatabaseTarget.eq_file_of_forget {target : TursoDatabaseTarget} {path : String}
    (isFile : target.forget = .file path) : target = .file path := by
  cases target with
  | memory name => cases isFile
  | file other => exact isFile

/-- The options without what is drawn from the process. -/
def TursoConnectOptions.forget (options : TursoConnectOptions) : TursoConnectOptions :=
  { options with target := options.target.forget, memoryState := ⟨0⟩ }

def QueryState.forget (state : QueryState) : QueryState :=
  state.withOptions state.options.forget

namespace QuerySetting

/-- What a setting does to options without an identity. -/
def changeForgotten (state : QueryState) : QuerySetting → QueryState
  | mode .memory =>
      state.withOptions
        { state.options with
          target := .memory ""
          memoryState := ⟨0⟩
          cacheMode := .sharedCache }
  | setting => setting.change state

theorem experimental_eq (features : List TursoExperimentalFeature)
    (options : TursoConnectOptions) :
    features.foldl (·.experimentalFeature · true) options =
      { options with
        experimentalFeatures := features.foldl (·.set · true) options.experimentalFeatures } := by
  induction features generalizing options with
  | nil => rfl
  | cons feature features ih => exact ih (options.experimentalFeature feature true)

theorem changeForgotten_experimental (state : QueryState)
    (features : List TursoExperimentalFeature) :
    (experimental features).changeForgotten state =
      state.withOptions { state.options with
        experimentalFeatures :=
          features.foldl (·.set · true) state.options.experimentalFeatures } :=
  congrArg state.withOptions (experimental_eq features state.options)

theorem apply_forget (state : QueryState) (setting : QuerySetting) (process : Process) :
    (setting.apply state process).1.forget = setting.changeForgotten state.forget := by
  unfold apply
  split
  next isMemory =>
    subst isMemory
    rfl
  next notMemory =>
    cases setting with
    | mode mode =>
        cases mode with
        | memory => exact absurd rfl notMemory
        | _ => rfl
    | experimental features =>
        rw [changeForgotten_experimental]
        show QueryState.forget (state.withOptions _) = _
        rw [experimental_eq]
        rfl
    | _ => rfl

theorem applyAll_forget (settings : List QuerySetting) (state : QueryState) (process : Process) :
    (applyAll state settings process).1.forget =
      settings.foldl changeForgotten state.forget := by
  induction settings generalizing state process with
  | nil => rfl
  | cons setting settings ih =>
      rw [List.foldl_cons, ← apply_forget state setting process]
      exact ih _ _

/-! ## Settings that may not change places -/

/-- The second setting is lost when the first one comes after it. -/
inductive Loses : QuerySetting → QuerySetting → Prop where
  | cache : Loses (mode .memory) (cache false)
  | authToken (remoteUrl authToken : String) :
      Loses (syncRemoteUrl remoteUrl) (syncAuthToken authToken)
  | clientName (remoteUrl clientName : String) :
      Loses (syncRemoteUrl remoteUrl) (syncClientName clientName)
  | timeout (remoteUrl : String) (timeout : Duration) :
      Loses (syncRemoteUrl remoteUrl) (syncLongPollTimeout timeout)
  | bootstrap (remoteUrl : String) :
      Loses (syncRemoteUrl remoteUrl) (syncBootstrapIfEmpty false)

section Commuting

variable (state : QueryState)

theorem mode_comm {queryMode : QueryMode} {other : QuerySetting}
    (differ : other.key ≠ "mode") (keeps : ¬Loses (mode queryMode) other) :
    other.changeForgotten ((mode queryMode).changeForgotten state) =
      (mode queryMode).changeForgotten (other.changeForgotten state) := by
  cases other with
  | mode _ => exact absurd rfl differ
  | cache sharedCache =>
      cases queryMode with
      | memory =>
          cases sharedCache with
          | false => exact absurd .cache keeps
          | true => rfl
      | _ => rfl
  | experimental features =>
      rw [changeForgotten_experimental, changeForgotten_experimental]
      cases queryMode <;> rfl
  | _ => cases queryMode <;> rfl

theorem experimental_comm {features : List TursoExperimentalFeature} {other : QuerySetting}
    (differ : other.key ≠ "experimental") :
    other.changeForgotten ((experimental features).changeForgotten state) =
      (experimental features).changeForgotten (other.changeForgotten state) := by
  rw [changeForgotten_experimental, changeForgotten_experimental]
  cases other with
  | mode queryMode => cases queryMode <;> rfl
  | experimental _ => exact absurd rfl differ
  | _ => rfl

theorem syncRemoteUrl_comm {remoteUrl : String} {other : QuerySetting}
    (differ : other.key ≠ "sync_remote_url") (keeps : ¬Loses (syncRemoteUrl remoteUrl) other) :
    other.changeForgotten ((syncRemoteUrl remoteUrl).changeForgotten state) =
      (syncRemoteUrl remoteUrl).changeForgotten (other.changeForgotten state) := by
  cases other with
  | mode queryMode => cases queryMode <;> rfl
  | syncRemoteUrl _ => exact absurd rfl differ
  | syncAuthToken authToken => exact absurd (.authToken _ _) keeps
  | syncClientName clientName => exact absurd (.clientName _ _) keeps
  | syncLongPollTimeout timeout => exact absurd (.timeout _ _) keeps
  | syncBootstrapIfEmpty bootstrapIfEmpty =>
      cases bootstrapIfEmpty with
      | false => exact absurd (.bootstrap _) keeps
      | true => rfl
  | _ => rfl

/-- Settings with different keys commute unless one of them loses the other. -/
theorem changeForgotten_comm {first second : QuerySetting} (differ : first.key ≠ second.key)
    (keepsSecond : ¬Loses first second) (keepsFirst : ¬Loses second first) :
    second.changeForgotten (first.changeForgotten state) =
      first.changeForgotten (second.changeForgotten state) := by
  cases first with
  | mode _ => exact mode_comm state differ.symm keepsSecond
  | experimental _ => exact experimental_comm state differ.symm
  | syncRemoteUrl _ => exact syncRemoteUrl_comm state differ.symm keepsSecond
  | _ =>
      cases second with
      | mode _ => exact (mode_comm state differ keepsFirst).symm
      | experimental _ => exact (experimental_comm state differ).symm
      | syncRemoteUrl _ => exact (syncRemoteUrl_comm state differ keepsFirst).symm
      | _ => first | rfl | exact absurd rfl differ

end Commuting

theorem readBool_eq_ok {name value : String} {make : Bool → QuerySetting}
    {setting : QuerySetting} (isRead : (readBool name value).map make = .ok setting) :
    ∃ flag, setting = make flag := by
  cases result : readBool name value with
  | error error =>
      rw [result] at isRead
      cases isRead
  | ok flag =>
      rw [result] at isRead
      cases isRead
      exact ⟨flag, rfl⟩

/-- A setting has the key of the parameter that it was read from. -/
theorem read_key {pair : String × String} {setting : QuerySetting}
    (isRead : read pair = .ok setting) : setting.key = pair.1 := by
  unfold read at isRead
  split at isRead
  next => split at isRead <;> cases isRead <;> rfl
  next => split at isRead <;> cases isRead <;> rfl
  next =>
    obtain ⟨flag, rfl⟩ := readBool_eq_ok isRead
    rfl
  next => cases isRead; rfl
  next => cases isRead; rfl
  next => cases isRead; rfl
  next => split at isRead <;> cases isRead <;> rfl
  next => cases isRead
  next value =>
    cases features : (featureNames value).mapM parseExperimentalFeature with
    | error error =>
        rw [features] at isRead
        cases isRead
    | ok features' =>
        rw [features] at isRead
        cases isRead
        rfl
  next => cases isRead; rfl
  next => cases isRead; rfl
  next => cases isRead; rfl
  next value =>
    unfold readTimeout at isRead
    split at isRead
    · cases isRead
      rfl
    · cases isRead
  next =>
    obtain ⟨flag, rfl⟩ := readBool_eq_ok isRead
    rfl
  next => cases isRead

/-! ## The turns of the loop -/

/-- What a parameter does to options without an identity, if it can be read. -/
def turn (state : QueryState) (pair : String × String) : QueryState :=
  match read pair with
  | .ok setting => setting.changeForgotten state
  | .error _ => state

theorem turn_eq {pair : String × String} {setting : QuerySetting}
    (isRead : read pair = .ok setting) (state : QueryState) :
    turn state pair = setting.changeForgotten state := by
  rw [turn, isRead]

theorem foldl_turn {pairs : List (String × String)} {settings : List QuerySetting}
    (allRead : readAll pairs = .ok settings) (state : QueryState) :
    settings.foldl changeForgotten state = pairs.foldl turn state := by
  rw [readAll, mapM_eq_ok_iff] at allRead
  induction allRead generalizing state with
  | nil => rfl
  | cons isRead _ ih => rw [List.foldl_cons, List.foldl_cons, turn_eq isRead, ih]

/-- A part of the state that no setting with another key writes. -/
theorem turn_keeps {γ : Type} {project : QueryState → γ} {keys : List String}
    (keeps : ∀ (state : QueryState) (setting : QuerySetting), setting.key ∉ keys →
      project (setting.changeForgotten state) = project state)
    {pair : String × String} (otherKey : pair.1 ∉ keys) (state : QueryState) :
    project (turn state pair) = project state := by
  cases isRead : read pair with
  | ok setting =>
      rw [turn_eq isRead]
      exact keeps state setting (read_key isRead ▸ otherKey)
  | error error => rw [turn, isRead]

section Parts

variable (state : QueryState) (setting : QuerySetting)

theorem keeps_encryptionCipher (otherKey : setting.key ∉ ["encryption_cipher"]) :
    (setting.changeForgotten state).encryptionCipher = state.encryptionCipher := by
  cases setting with
  | mode queryMode => cases queryMode <;> rfl
  | _ => first | rfl | exact absurd (by simp [key]) otherKey

theorem keeps_encryptionHexkey (otherKey : setting.key ∉ ["encryption_hexkey"]) :
    (setting.changeForgotten state).encryptionHexkey = state.encryptionHexkey := by
  cases setting with
  | mode queryMode => cases queryMode <;> rfl
  | _ => first | rfl | exact absurd (by simp [key]) otherKey

theorem keeps_remoteUrl (otherKey : setting.key ∉ ["sync_remote_url"]) :
    (setting.changeForgotten state).syncOrDefault.remoteUrl = state.syncOrDefault.remoteUrl := by
  cases setting with
  | mode queryMode => cases queryMode <;> rfl
  | _ => first | rfl | exact absurd (by simp [key]) otherKey

def syncKeys : List String :=
  ["sync_remote_url", "sync_auth_token", "sync_client_name", "sync_long_poll_timeout_ms",
    "sync_bootstrap_if_empty"]

theorem keeps_sync (otherKey : setting.key ∉ syncKeys) :
    (setting.changeForgotten state).sync = state.sync := by
  cases setting with
  | mode queryMode => cases queryMode <;> rfl
  | _ => first | rfl | exact absurd (by simp [key, syncKeys]) otherKey

theorem keeps_cacheMode (otherKey : setting.key ∉ ["mode", "cache"]) :
    (setting.changeForgotten state).options.cacheMode = state.options.cacheMode := by
  cases setting with
  | experimental features => rw [changeForgotten_experimental]; rfl
  | _ => first | rfl | exact absurd (by simp [key]) otherKey

theorem keeps_authToken (otherKey : setting.key ∉ ["sync_remote_url", "sync_auth_token"]) :
    (setting.changeForgotten state).syncOrDefault.authToken = state.syncOrDefault.authToken := by
  cases setting with
  | mode queryMode => cases queryMode <;> rfl
  | _ => first | rfl | exact absurd (by simp [key]) otherKey

theorem keeps_clientName (otherKey : setting.key ∉ ["sync_remote_url", "sync_client_name"]) :
    (setting.changeForgotten state).syncOrDefault.clientName =
      state.syncOrDefault.clientName := by
  cases setting with
  | mode queryMode => cases queryMode <;> rfl
  | _ => first | rfl | exact absurd (by simp [key]) otherKey

theorem keeps_longPollTimeout
    (otherKey : setting.key ∉ ["sync_remote_url", "sync_long_poll_timeout_ms"]) :
    (setting.changeForgotten state).syncOrDefault.longPollTimeout =
      state.syncOrDefault.longPollTimeout := by
  cases setting with
  | mode queryMode => cases queryMode <;> rfl
  | _ => first | rfl | exact absurd (by simp [key]) otherKey

theorem keeps_bootstrapIfEmpty
    (otherKey : setting.key ∉ ["sync_remote_url", "sync_bootstrap_if_empty"]) :
    (setting.changeForgotten state).syncOrDefault.bootstrapIfEmpty =
      state.syncOrDefault.bootstrapIfEmpty := by
  cases setting with
  | mode queryMode => cases queryMode <;> rfl
  | _ => first | rfl | exact absurd (by simp [key]) otherKey

end Parts

end QuerySetting

/-! ## What is read from a URL -/

/-- The parts of a URL: the text of the database, and the parameters if it has any. -/
def urlParts (url : Bytes) : Option (Bytes × Option Bytes) :=
  match (url.dropPrefix? (utf8 "turso://")).or (url.dropPrefix? (utf8 "turso:")) with
  | none => none
  | some url =>
      some (url.takeWhile (· != question),
        match url.dropWhile (· != question) with
        | [] => none
        | _ :: params => some params)

section Parsing

variable {crate : UrlCrate}

theorem fromStr_of_urlParts {url database : Bytes} {params : Option Bytes}
    (parts : urlParts url = some (database, params)) :
    TursoConnectOptions.fromStr crate url =
      TursoConnectOptions.fromDbAndParams crate database params := by
  unfold urlParts at parts
  unfold TursoConnectOptions.fromStr
  cases stripped : (url.dropPrefix? (utf8 "turso://")).or (url.dropPrefix? (utf8 "turso:")) with
  | none =>
      simp only [stripped] at parts
      cases parts
  | some rest =>
      simp only [stripped] at parts ⊢
      cases parts
      rfl

/-- The default options without their identity. -/
def blankOptions : TursoConnectOptions := (TursoConnectOptions.default ⟨0, 0⟩).1.forget

/-- The options for a database without their identity. -/
def startOptions (crate : UrlCrate) (database : Bytes) : Except SqlxError TursoConnectOptions :=
  if database = [] then .ok (blankOptions.filename "")
  else if database = utf8 ":memory:" then .ok blankOptions
  else
    match decodeUtf8 (crate.percentDecode database) with
    | some path => .ok (blankOptions.filename path)
    | none => .error (.config .utf8)

theorem forDatabase_forget (database : Bytes) (process : Process) :
    (TursoConnectOptions.forDatabase crate database process).1.map TursoConnectOptions.forget =
      startOptions crate database := by
  unfold TursoConnectOptions.forDatabase startOptions
  by_cases isEmpty : database = []
  · simp only [if_pos isEmpty]
    rfl
  by_cases isMemory : database = utf8 ":memory:"
  · simp only [if_neg isEmpty, if_pos isMemory]
    rfl
  simp only [if_neg isEmpty, if_neg isMemory]
  cases decodeUtf8 (crate.percentDecode database) <;> rfl

theorem finishSync_forget (sync : Option TursoSyncOptions) (options : TursoConnectOptions) :
    (finishSync sync options).map TursoConnectOptions.forget =
      finishSync sync options.forget := by
  cases sync with
  | none => rfl
  | some sync =>
      unfold finishSync
      by_cases noRemote : sync.remoteUrl = ""
      · simp only [if_pos noRemote]
        rfl
      · simp only [if_neg noRemote]
        rfl

theorem finishEncryption_forget (state : QueryState) :
    (finishEncryption state).map TursoConnectOptions.forget =
      finishEncryption state.forget := by
  rcases state with ⟨options, cipher, hexkey, sync⟩
  cases cipher with
  | none => cases hexkey <;> rfl
  | some cipher =>
      cases hexkey with
      | none => rfl
      | some hexkey =>
          simp only [finishEncryption, QueryState.forget, QueryState.withOptions]
          cases TursoEncryptionOptions.new cipher hexkey <;> rfl

theorem finishQuery_forget (state : QueryState) :
    (finishQuery state).map TursoConnectOptions.forget = finishQuery state.forget := by
  rw [finishQuery, finishQuery, ← finishEncryption_forget]
  cases finishEncryption state with
  | error error => rfl
  | ok options => exact finishSync_forget state.sync options

/-- What the parameters make of the options for a database. -/
def parsedOptions (crate : UrlCrate) (database : Bytes) (pairs : List (String × String)) :
    Except SqlxError TursoConnectOptions := do
  let start ← startOptions crate database
  let _ ← QuerySetting.readAll pairs
  finishQuery (pairs.foldl QuerySetting.turn start.queryState)

/-- Apart from their identity, options with parameters do not depend on the process. -/
theorem applyQueryParams_forget (options : TursoConnectOptions) (params : Bytes)
    (process : Process) :
    (options.applyQueryParams crate params process).1.map TursoConnectOptions.forget = (do
      let _ ← QuerySetting.readAll (crate.parsePairs params)
      finishQuery ((crate.parsePairs params).foldl QuerySetting.turn options.forget.queryState)) := by
  rw [TursoConnectOptions.applyQueryParams, Fallible.run_bind]
  have looped := QuerySetting.foldlM_applyQueryParam_result (crate.parsePairs params)
    options.queryState process
  rcases ran : (crate.parsePairs params).foldlM applyQueryParam options.queryState process with
    ⟨result, later⟩
  rw [ran] at looped
  cases allRead : QuerySetting.readAll (crate.parsePairs params) with
  | error error =>
      rw [allRead] at looped
      cases looped
      rfl
  | ok settings =>
      rw [allRead] at looped
      cases looped
      have turned : (QuerySetting.applyAll options.queryState settings process).1.forget =
          (crate.parsePairs params).foldl QuerySetting.turn options.forget.queryState :=
        (QuerySetting.applyAll_forget settings _ process).trans
          (QuerySetting.foldl_turn allRead _)
      show (finishQuery (QuerySetting.applyAll options.queryState settings process).1).map _ = _
      rw [finishQuery_forget, turned]
      rfl

/-- Apart from their identity, the options do not depend on the process. -/
theorem fromDbAndParams_forget (database params : Bytes) (process : Process) :
    (TursoConnectOptions.fromDbAndParams crate database (some params) process).1.map
        TursoConnectOptions.forget =
      parsedOptions crate database (crate.parsePairs params) := by
  rw [TursoConnectOptions.fromDbAndParams_parts, Fallible.run_bind, parsedOptions,
    ← forDatabase_forget database process]
  rcases TursoConnectOptions.forDatabase crate database process with ⟨_ | start, after⟩
  · rfl
  · exact applyQueryParams_forget start params after

end Parsing

/-! ## Accepted queries -/

/-- Both encryption settings are given and pass their checks, or none is given. -/
def EncryptionGiven (pairs : List (String × String)) : Prop :=
  (∃ cipher hexkey encryption, ("encryption_cipher", cipher) ∈ pairs ∧
      ("encryption_hexkey", hexkey) ∈ pairs ∧
      TursoEncryptionOptions.new cipher hexkey = .ok encryption) ∨
    ∀ pair ∈ pairs, pair.1 ≠ "encryption_cipher" ∧ pair.1 ≠ "encryption_hexkey"

/-- A remote URL is given, or no sync setting is. -/
def SyncGiven (pairs : List (String × String)) : Prop :=
  (∃ remoteUrl, ("sync_remote_url", remoteUrl) ∈ pairs ∧ remoteUrl ≠ "") ∨
    ∀ pair ∈ pairs, pair.1 ∉ QuerySetting.syncKeys

/-- The parameters for a database are accepted. -/
structure Accepted (crate : UrlCrate) (database : Bytes) (pairs : List (String × String)) :
    Prop where
  database : database = [] ∨ database = utf8 ":memory:" ∨
    (decodeUtf8 (crate.percentDecode database)).isSome = true
  read : ∀ pair ∈ pairs, ∃ setting, QuerySetting.read pair = .ok setting
  encryption : EncryptionGiven pairs
  sync : SyncGiven pairs

theorem Accepted.of_perm {crate : UrlCrate} {database : Bytes}
    {first second : List (String × String)} (accepted : Accepted crate database first)
    (permuted : first.Perm second) : Accepted crate database second where
  database := accepted.database
  read pair isMember := accepted.read pair (permuted.symm.subset isMember)
  encryption := by
    rcases accepted.encryption with ⟨cipher, hexkey, encryption, isCipher, isHexkey, passes⟩ | none
    · exact .inl ⟨cipher, hexkey, encryption, permuted.subset isCipher,
        permuted.subset isHexkey, passes⟩
    · exact .inr fun pair isMember => none pair (permuted.symm.subset isMember)
  sync := by
    rcases accepted.sync with ⟨remoteUrl, isRemote, notEmpty⟩ | none
    · exact .inl ⟨remoteUrl, permuted.subset isRemote, notEmpty⟩
    · exact .inr fun pair isMember => none pair (permuted.symm.subset isMember)

section Final

open QuerySetting

variable {pairs : List (String × String)}

/-- A setting that no other key writes is found in the end. -/
theorem final_of_mem {γ : Type} (project : QueryState → γ) {key value : String} {written : γ}
    (unique : (pairs.map Prod.fst).Nodup)
    (keeps : ∀ (state : QueryState) (setting : QuerySetting), setting.key ∉ [key] →
      project (setting.changeForgotten state) = project state)
    (isMember : (key, value) ∈ pairs)
    (writes : ∀ state, project (turn state (key, value)) = written) (state : QueryState) :
    project (pairs.foldl turn state) = written := by
  refine foldl_single project unique isMember writes (fun other _ otherKey => ?_) state
  exact turn_keeps keeps (by simpa using otherKey)

theorem final_of_not_mem {γ : Type} (project : QueryState → γ) {keys : List String}
    (keeps : ∀ (state : QueryState) (setting : QuerySetting), setting.key ∉ keys →
      project (setting.changeForgotten state) = project state)
    (noKey : ∀ pair ∈ pairs, pair.1 ∉ keys) (state : QueryState) :
    project (pairs.foldl turn state) = project state :=
  foldl_kept (fun pair isMember => turn_keeps keeps (noKey pair isMember)) state

/-- An optional setting is there in the end exactly when a parameter gives it. -/
theorem final_eq_some_iff {project : QueryState → Option String} {key : String}
    (unique : (pairs.map Prod.fst).Nodup)
    (keeps : ∀ (state : QueryState) (setting : QuerySetting), setting.key ∉ [key] →
      project (setting.changeForgotten state) = project state)
    (writes : ∀ state value, project (turn state (key, value)) = some value)
    {state : QueryState} (unset : project state = none) (value : String) :
    project (pairs.foldl turn state) = some value ↔ (key, value) ∈ pairs := by
  constructor
  · intro isSome
    by_cases given : ∃ other, (key, other) ∈ pairs
    · obtain ⟨other, isOther⟩ := given
      have isValue := final_of_mem project unique keeps isOther (fun state => writes state other) state
      rw [isValue] at isSome
      exact Option.some.inj isSome ▸ isOther
    · have isNone : project (pairs.foldl turn state) = project state := by
        refine final_of_not_mem project keeps (fun pair isMember sameKey => given ⟨pair.2, ?_⟩) state
        rw [← List.mem_singleton.mp sameKey]
        exact isMember
      rw [isNone, unset] at isSome
      cases isSome
  · intro isMember
    exact final_of_mem project unique keeps isMember (fun state => writes state value) state

theorem final_eq_none_iff {project : QueryState → Option String} {key : String}
    (unique : (pairs.map Prod.fst).Nodup)
    (keeps : ∀ (state : QueryState) (setting : QuerySetting), setting.key ∉ [key] →
      project (setting.changeForgotten state) = project state)
    (writes : ∀ state value, project (turn state (key, value)) = some value)
    {state : QueryState} (unset : project state = none) :
    project (pairs.foldl turn state) = none ↔ ∀ pair ∈ pairs, pair.1 ≠ key := by
  rw [Option.eq_none_iff_forall_ne_some]
  simp only [Ne, final_eq_some_iff unique keeps writes unset]
  constructor
  · rintro noValue ⟨key, value⟩ isMember rfl
    exact noValue value isMember
  · intro noKey value isMember
    exact noKey _ isMember rfl

/-- Sync settings are there once a parameter for them has been read. -/
theorem turn_sync_isSome {pair : String × String} {setting : QuerySetting}
    (isRead : read pair = .ok setting) (state : QueryState) :
    (turn state pair).sync.isSome = (state.sync.isSome || decide (pair.1 ∈ syncKeys)) := by
  rw [turn_eq isRead, ← read_key isRead]
  by_cases isSync : setting.key ∈ syncKeys
  · rw [decide_eq_true isSync, Bool.or_true]
    cases setting with
    | syncRemoteUrl _ => rfl
    | syncAuthToken _ => rfl
    | syncClientName _ => rfl
    | syncLongPollTimeout _ => rfl
    | syncBootstrapIfEmpty _ => rfl
    | _ => exact absurd isSync (by simp [key, syncKeys])
  · rw [decide_eq_false isSync, Bool.or_false, keeps_sync state setting isSync]

theorem final_sync_isSome (allRead : ∀ pair ∈ pairs, ∃ setting, read pair = .ok setting)
    (state : QueryState) :
    (pairs.foldl turn state).sync.isSome =
      (state.sync.isSome || pairs.any fun pair => decide (pair.1 ∈ syncKeys)) := by
  refine foldl_any (fun state : QueryState => state.sync.isSome) pairs ?_ state
  intro pair isMember state
  obtain ⟨setting, isRead⟩ := allRead pair isMember
  exact turn_sync_isSome isRead state

end Final

theorem finishSync_isOk_iff (sync : Option TursoSyncOptions) (options : TursoConnectOptions) :
    (∃ finished, finishSync sync options = .ok finished) ↔
      ∀ settings, sync = some settings → settings.remoteUrl ≠ "" := by
  cases sync with
  | none => exact iff_of_true ⟨_, rfl⟩ fun settings isSome => nomatch isSome
  | some settings =>
      unfold finishSync
      by_cases noRemote : settings.remoteUrl = ""
      · simp [noRemote]
      · simp [noRemote]

theorem finishEncryption_isOk_iff (state : QueryState) :
    (∃ options, finishEncryption state = .ok options) ↔
      ((∃ cipher hexkey encryption, state.encryptionCipher = some cipher ∧
          state.encryptionHexkey = some hexkey ∧
          TursoEncryptionOptions.new cipher hexkey = .ok encryption) ∨
        (state.encryptionCipher = none ∧ state.encryptionHexkey = none)) := by
  rcases state with ⟨options, cipher, hexkey, sync⟩
  cases cipher with
  | none => cases hexkey <;> simp [finishEncryption]
  | some cipher =>
      cases hexkey with
      | none => simp [finishEncryption]
      | some hexkey =>
          simp only [finishEncryption]
          cases checked : TursoEncryptionOptions.new cipher hexkey <;>
            simp [Except.map, checked]

/-- The checks after the loop. -/
theorem finishQuery_isOk_iff (state : QueryState) :
    (∃ options, finishQuery state = .ok options) ↔
      ((∃ cipher hexkey encryption, state.encryptionCipher = some cipher ∧
          state.encryptionHexkey = some hexkey ∧
          TursoEncryptionOptions.new cipher hexkey = .ok encryption) ∨
        (state.encryptionCipher = none ∧ state.encryptionHexkey = none)) ∧
      ∀ sync, state.sync = some sync → sync.remoteUrl ≠ "" := by
  rw [← finishEncryption_isOk_iff, finishQuery]
  cases finishEncryption state with
  | error error =>
      constructor
      · rintro ⟨_, isOk⟩
        cases isOk
      · rintro ⟨⟨_, isOk⟩, _⟩
        cases isOk
  | ok options =>
      show (∃ finished, finishSync state.sync options = .ok finished) ↔ _
      rw [finishSync_isOk_iff]
      exact ⟨fun remote => ⟨⟨_, rfl⟩, remote⟩, fun both => both.2⟩

/-- Options for a database differ from the default ones in their target. -/
theorem startOptions_blank {crate : UrlCrate} {database : Bytes} {start : TursoConnectOptions}
    (isStart : startOptions crate database = .ok start) :
    ∃ target cacheMode, start = { blankOptions with target, cacheMode } := by
  unfold startOptions at isStart
  split at isStart
  · cases isStart
    exact ⟨_, _, rfl⟩
  split at isStart
  · cases isStart
    exact ⟨_, _, rfl⟩
  split at isStart
  · cases isStart
    exact ⟨_, _, rfl⟩
  · cases isStart

theorem startOptions_unset {crate : UrlCrate} {database : Bytes} {start : TursoConnectOptions}
    (isStart : startOptions crate database = .ok start) :
    start.queryState = ⟨start, none, none, none⟩ := by
  obtain ⟨target, cacheMode, rfl⟩ := startOptions_blank isStart
  rfl

theorem startOptions_isOk_iff {crate : UrlCrate} {database : Bytes} :
    (∃ start, startOptions crate database = .ok start) ↔
      database = [] ∨ database = utf8 ":memory:" ∨
        (decodeUtf8 (crate.percentDecode database)).isSome = true := by
  unfold startOptions
  by_cases isEmpty : database = []
  · simp [isEmpty]
  by_cases isMemory : database = utf8 ":memory:"
  · simp only [if_neg isEmpty, if_pos isMemory]
    exact iff_of_true ⟨_, rfl⟩ (.inr (.inl isMemory))
  simp only [if_neg isEmpty, if_neg isMemory]
  cases decodeUtf8 (crate.percentDecode database) <;> simp [isEmpty, isMemory]

theorem readAll_isOk_iff {pairs : List (String × String)} :
    (∃ settings, QuerySetting.readAll pairs = .ok settings) ↔
      ∀ pair ∈ pairs, ∃ setting, QuerySetting.read pair = .ok setting := by
  simp only [QuerySetting.readAll, mapM_eq_ok_iff, exists_forall₂_iff]

section Finish

open QuerySetting

variable {pairs : List (String × String)} {start : TursoConnectOptions}
  (unique : (pairs.map Prod.fst).Nodup)

include unique

theorem encryptionGiven_iff :
    ((∃ cipher hexkey encryption,
        (pairs.foldl turn ⟨start, none, none, none⟩).encryptionCipher = some cipher ∧
        (pairs.foldl turn ⟨start, none, none, none⟩).encryptionHexkey = some hexkey ∧
        TursoEncryptionOptions.new cipher hexkey = .ok encryption) ∨
      ((pairs.foldl turn ⟨start, none, none, none⟩).encryptionCipher = none ∧
        (pairs.foldl turn ⟨start, none, none, none⟩).encryptionHexkey = none)) ↔
      EncryptionGiven pairs := by
  have noCipher : (⟨start, none, none, none⟩ : QueryState).encryptionCipher = none := rfl
  have noHexkey : (⟨start, none, none, none⟩ : QueryState).encryptionHexkey = none := rfl
  have cipherSome := final_eq_some_iff unique keeps_encryptionCipher (fun _ _ => rfl) noCipher
  have hexkeySome := final_eq_some_iff unique keeps_encryptionHexkey (fun _ _ => rfl) noHexkey
  have cipherNone := final_eq_none_iff unique keeps_encryptionCipher (fun _ _ => rfl) noCipher
  have hexkeyNone := final_eq_none_iff unique keeps_encryptionHexkey (fun _ _ => rfl) noHexkey
  simp only [EncryptionGiven, cipherSome, hexkeySome, cipherNone, hexkeyNone, ← forall_and]

/-- The remote URL that is there in the end. -/
theorem final_remoteUrl {remoteUrl : String} (isRemote : ("sync_remote_url", remoteUrl) ∈ pairs)
    (state : QueryState) :
    (pairs.foldl turn state).syncOrDefault.remoteUrl = remoteUrl := by
  exact final_of_mem (·.syncOrDefault.remoteUrl) unique keeps_remoteUrl isRemote
    (fun _ => rfl) state

/-- With any sync setting, a remote URL has to be there in the end. -/
theorem syncGiven_iff_remoteUrl (given : ∃ pair ∈ pairs, pair.1 ∈ syncKeys) {state : QueryState}
    (unset : state.syncOrDefault.remoteUrl = "") :
    SyncGiven pairs ↔ (pairs.foldl turn state).syncOrDefault.remoteUrl ≠ "" := by
  have isGiven : SyncGiven pairs ↔
      ∃ remoteUrl, ("sync_remote_url", remoteUrl) ∈ pairs ∧ remoteUrl ≠ "" := by
    apply or_iff_left
    intro noSync
    obtain ⟨pair, isMember, isSyncKey⟩ := given
    exact noSync pair isMember isSyncKey
  rw [isGiven]
  constructor
  · rintro ⟨remoteUrl, isRemote, notEmpty⟩
    rw [final_remoteUrl unique isRemote]
    exact notEmpty
  · intro notEmpty
    by_contra noRemote
    apply notEmpty
    by_cases hasRemote : ∃ remoteUrl, ("sync_remote_url", remoteUrl) ∈ pairs
    · obtain ⟨remoteUrl, isRemote⟩ := hasRemote
      rw [final_remoteUrl unique isRemote]
      by_contra isFull
      exact noRemote ⟨remoteUrl, isRemote, isFull⟩
    · rw [final_of_not_mem (·.syncOrDefault.remoteUrl) keeps_remoteUrl, unset]
      intro pair isMember sameKey
      apply hasRemote
      rw [← List.mem_singleton.mp sameKey]
      exact ⟨pair.2, isMember⟩

theorem syncGiven_iff (allRead : ∀ pair ∈ pairs, ∃ setting, read pair = .ok setting) :
    (∀ sync, (pairs.foldl turn ⟨start, none, none, none⟩).sync = some sync →
      sync.remoteUrl ≠ "") ↔ SyncGiven pairs := by
  have isSome := final_sync_isSome allRead ⟨start, none, none, none⟩
  rw [Option.isSome_none, Bool.false_or] at isSome
  by_cases given : ∃ pair ∈ pairs, pair.1 ∈ syncKeys
  · have isGiven : (pairs.any fun pair => decide (pair.1 ∈ syncKeys)) = true := by
      simpa using given
    obtain ⟨sync, isSync⟩ := Option.isSome_iff_exists.mp (isSome.trans isGiven)
    have unset : (⟨start, none, none, none⟩ : QueryState).syncOrDefault.remoteUrl = "" := rfl
    rw [syncGiven_iff_remoteUrl unique given unset, QueryState.syncOrDefault, isSync]
    constructor
    · intro each
      exact each sync rfl
    · rintro notEmpty _ ⟨⟩
      exact notEmpty
  · have noSync : (pairs.foldl turn ⟨start, none, none, none⟩).sync = none := by
      refine final_of_not_mem QueryState.sync keeps_sync (fun pair isMember sameKey => given ?_) _
      exact ⟨pair, isMember, sameKey⟩
    refine iff_of_true (fun sync isSync => ?_) (.inr fun pair isMember sameKey => given ?_)
    · rw [noSync] at isSync
      cases isSync
    · exact ⟨pair, isMember, sameKey⟩

end Finish

/-- Parameters for a database give options exactly when they are accepted. -/
theorem parsedOptions_isOk_iff {crate : UrlCrate} {database : Bytes}
    {pairs : List (String × String)} (unique : (pairs.map Prod.fst).Nodup) :
    (∃ options, parsedOptions crate database pairs = .ok options) ↔
      Accepted crate database pairs := by
  have accepts : Accepted crate database pairs ↔
      (∃ start, startOptions crate database = .ok start) ∧
        (∃ settings, QuerySetting.readAll pairs = .ok settings) ∧
        EncryptionGiven pairs ∧ SyncGiven pairs := by
    rw [startOptions_isOk_iff, readAll_isOk_iff]
    exact ⟨fun accepted => ⟨accepted.database, accepted.read, accepted.encryption, accepted.sync⟩,
      fun ⟨database, read, encryption, sync⟩ => ⟨database, read, encryption, sync⟩⟩
  rw [accepts, parsedOptions]
  cases isStart : startOptions crate database with
  | error error =>
      constructor
      · rintro ⟨_, isOk⟩
        cases isOk
      · rintro ⟨⟨_, isOk⟩, _⟩
        cases isOk
  | ok start =>
      cases allRead : QuerySetting.readAll pairs with
      | error error =>
          constructor
          · rintro ⟨_, isOk⟩
            cases isOk
          · rintro ⟨_, ⟨_, isOk⟩, _⟩
            cases isOk
      | ok settings =>
          show (∃ options, finishQuery (pairs.foldl QuerySetting.turn start.queryState) =
            .ok options) ↔ _
          rw [finishQuery_isOk_iff, startOptions_unset isStart, encryptionGiven_iff unique,
            syncGiven_iff unique (readAll_isOk_iff.mp ⟨settings, allRead⟩)]
          simp

/-! ## The order that matters -/

/-- Parameters that lose others stand in the same order, and the remote URL stands before
the token. -/
structure KeepsOrder (first second : List (String × String)) : Prop where
  sameOrder : ∀ loses lost loser lostSetting, QuerySetting.read loses = .ok loser →
    QuerySetting.read lost = .ok lostSetting → QuerySetting.Loses loser lostSetting →
    ([loses, lost].Sublist first ↔ [loses, lost].Sublist second)
  tokenLast : ∀ remoteUrl authToken, ("sync_remote_url", remoteUrl) ∈ first →
    ("sync_auth_token", authToken) ∈ first →
    [("sync_remote_url", remoteUrl), ("sync_auth_token", authToken)].Sublist first

section Ordered

open QuerySetting

variable {first second : List (String × String)}

/-- Parameters in an order that matters to none of them do the same. -/
theorem foldl_turn_eq (unique : (first.map Prod.fst).Nodup) (permuted : first.Perm second)
    (keepsOrder : KeepsOrder first second) (state : QueryState) :
    first.foldl turn state = second.foldl turn state := by
  have secondUnique : second.Nodup := (permuted.nodup_iff).mp (List.Nodup.of_map _ unique)
  refine foldl_eq_of_perm permuted (fun one other inFirst inSecond state => ?_) state
  cases oneRead : read one with
  | error error => simp only [turn, oneRead]
  | ok setting =>
      cases otherRead : read other with
      | error error => simp only [turn, otherRead]
      | ok otherSetting =>
          have differ : setting.key ≠ otherSetting.key := by
            rw [read_key oneRead, read_key otherRead]
            have inKeys := (inFirst.map Prod.fst).nodup unique
            simpa using inKeys
          simp only [turn_eq oneRead, turn_eq otherRead]
          refine changeForgotten_comm state differ (fun loses => ?_) (fun loses => ?_)
          · have swapped := (keepsOrder.sameOrder _ _ _ _ oneRead otherRead loses).mp inFirst
            exact not_pair_sublist secondUnique inSecond swapped
          · have swapped := (keepsOrder.sameOrder _ _ _ _ otherRead oneRead loses).mpr inSecond
            exact not_pair_sublist (List.Nodup.of_map _ unique) inFirst swapped

/-- The later of two parameters writes what no other parameter writes. -/
theorem final_of_order {γ : Type} (project : QueryState → γ)
    {pairs : List (String × String)} {earlier later : String × String} {written : γ}
    {keys : List String} (unique : (pairs.map Prod.fst).Nodup)
    (inOrder : [earlier, later].Sublist pairs)
    (keeps : ∀ (state : QueryState) (setting : QuerySetting), setting.key ∉ keys →
      project (setting.changeForgotten state) = project state)
    (covers : ∀ key ∈ keys, key = earlier.1 ∨ key = later.1)
    (writes : ∀ state, project (turn state later) = written) (state : QueryState) :
    project (pairs.foldl turn state) = written := by
  refine foldl_later project unique inOrder writes (fun other _ notEarlier notLater => ?_) state
  refine turn_keeps keeps fun isKey => ?_
  rcases covers _ isKey with isEarlier | isLater
  · exact notEarlier isEarlier
  · exact notLater isLater

/-- Two parameters that write different things show their order. -/
theorem swapped_differs_at {γ : Type} (project : QueryState → γ)
    (firstUnique : (first.map Prod.fst).Nodup) (secondUnique : (second.map Prod.fst).Nodup)
    {one other : String × String} {setting otherSetting : QuerySetting}
    (oneRead : read one = .ok setting) (otherRead : read other = .ok otherSetting)
    (inFirst : [one, other].Sublist first) (inSecond : [other, one].Sublist second)
    (keeps : ∀ (state : QueryState) (changed : QuerySetting),
      changed.key ∉ [setting.key, otherSetting.key] →
        project (changed.changeForgotten state) = project state)
    {written otherWritten : γ}
    (writes : ∀ state, project (setting.changeForgotten state) = written)
    (otherWrites : ∀ state, project (otherSetting.changeForgotten state) = otherWritten)
    (differ : otherWritten ≠ written) (state : QueryState) :
    project (first.foldl turn state) ≠ project (second.foldl turn state) := by
  rw [read_key oneRead, read_key otherRead] at keeps
  have isLater : project (first.foldl turn state) = otherWritten := by
    refine final_of_order project firstUnique inFirst keeps (by simp) (fun state => ?_) state
    rw [turn_eq otherRead, otherWrites]
  have isEarlier : project (second.foldl turn state) = written := by
    refine final_of_order project secondUnique inSecond keeps (by simp) (fun state => ?_) state
    rw [turn_eq oneRead, writes]
  rw [isLater, isEarlier]
  exact differ

/-- Where a parameter loses another, their order shows in the settings. -/
theorem swapped_differs (firstUnique : (first.map Prod.fst).Nodup)
    (secondUnique : (second.map Prod.fst).Nodup) {loses lost : String × String}
    {loser lostSetting : QuerySetting} (losesRead : read loses = .ok loser)
    (lostRead : read lost = .ok lostSetting) (isLost : Loses loser lostSetting)
    (inFirst : [loses, lost].Sublist first) (inSecond : [lost, loses].Sublist second)
    (state : QueryState) :
    (first.foldl turn state).options.cacheMode ≠ (second.foldl turn state).options.cacheMode ∨
      (first.foldl turn state).syncOrDefault ≠ (second.foldl turn state).syncOrDefault := by
  have sync : ∀ {γ : Type} (part : TursoSyncOptions → γ),
      part (first.foldl turn state).syncOrDefault ≠
        part (second.foldl turn state).syncOrDefault →
      (first.foldl turn state).syncOrDefault ≠ (second.foldl turn state).syncOrDefault :=
    fun part differ same => differ (congrArg part same)
  cases isLost with
  | cache =>
      exact .inl (swapped_differs_at (·.options.cacheMode) firstUnique secondUnique losesRead
        lostRead inFirst inSecond keeps_cacheMode (fun _ => rfl) (fun _ => rfl)
        TursoCacheMode.noConfusion state)
  | authToken remoteUrl authToken =>
      exact .inr (sync TursoSyncOptions.authToken (swapped_differs_at
        (·.syncOrDefault.authToken) firstUnique secondUnique losesRead lostRead inFirst inSecond
        keeps_authToken (fun _ => rfl) (fun _ => rfl) (Option.some_ne_none _) state))
  | clientName remoteUrl clientName =>
      exact .inr (sync TursoSyncOptions.clientName (swapped_differs_at
        (·.syncOrDefault.clientName) firstUnique secondUnique losesRead lostRead inFirst inSecond
        keeps_clientName (fun _ => rfl) (fun _ => rfl) (Option.some_ne_none _) state))
  | timeout remoteUrl timeout =>
      exact .inr (sync TursoSyncOptions.longPollTimeout (swapped_differs_at
        (·.syncOrDefault.longPollTimeout) firstUnique secondUnique losesRead lostRead inFirst
        inSecond keeps_longPollTimeout (fun _ => rfl) (fun _ => rfl)
        (Option.some_ne_none _) state))
  | bootstrap remoteUrl =>
      exact .inr (sync TursoSyncOptions.bootstrapIfEmpty (swapped_differs_at
        (·.syncOrDefault.bootstrapIfEmpty) firstUnique secondUnique losesRead lostRead inFirst
        inSecond keeps_bootstrapIfEmpty (fun _ => rfl) (fun _ => rfl) Bool.false_ne_true state))

end Ordered

/-! ## The options of two URLs -/

/-- The settings that a URL gives are the same, apart from the name of an in-memory
database. -/
structure SameSettings (first second : TursoConnectOptions) : Prop where
  target : first.target.forget = second.target.forget
  openMode : first.openMode = second.openMode
  cacheMode : first.cacheMode = second.cacheMode
  immutable : first.immutable = second.immutable
  vfs : first.vfs = second.vfs
  encryption : first.encryption = second.encryption
  experimentalFeatures : first.experimentalFeatures = second.experimentalFeatures
  pragmas : first.pragmas = second.pragmas
  sync : first.sync = second.sync

theorem SameSettings.of_forget {first second : TursoConnectOptions}
    (same : first.forget = second.forget) : SameSettings first second where
  target := congrArg (·.target) same
  openMode := congrArg (·.openMode) same
  cacheMode := congrArg (·.cacheMode) same
  immutable := congrArg (·.immutable) same
  vfs := congrArg (·.vfs) same
  encryption := congrArg (·.encryption) same
  experimentalFeatures := congrArg (·.experimentalFeatures) same
  pragmas := congrArg (·.pragmas) same
  sync := congrArg (·.sync) same

def TokenKept (authToken : String) (options : TursoConnectOptions) : Prop :=
  ∃ sync, options.sync = some sync ∧ sync.authToken = some authToken

/-- Two URLs are accepted both or refused both, their settings are the same, and they keep
the token among the parameters. -/
def SameMeaning (crate : UrlCrate) (first second : Bytes) (pairs : List (String × String)) :
    Prop :=
  ∀ process other : Process,
    ((∃ options, (TursoConnectOptions.fromStr crate first process).1 = .ok options) ↔
      ∃ options, (TursoConnectOptions.fromStr crate second other).1 = .ok options) ∧
    ∀ options otherOptions,
      (TursoConnectOptions.fromStr crate first process).1 = .ok options →
        (TursoConnectOptions.fromStr crate second other).1 = .ok otherOptions →
          SameSettings options otherOptions ∧
            ∀ authToken, ("sync_auth_token", authToken) ∈ pairs →
              TokenKept authToken options ∧ TokenKept authToken otherOptions

theorem finishQuery_sync {state : QueryState} {options : TursoConnectOptions}
    (finished : finishQuery state = .ok options) {sync : TursoSyncOptions}
    (isSync : state.sync = some sync) : options.sync = some sync := by
  obtain ⟨between, -, finished⟩ := finishQuery_eq_ok finished
  rw [isSync] at finished
  unfold finishSync at finished
  dsimp only at finished
  split at finished
  · cases finished
  · cases finished
    rfl

section Meaning

open QuerySetting

variable {crate : UrlCrate} {url database params : Bytes}

theorem fromStr_forget (parts : urlParts url = some (database, some params)) (process : Process) :
    (TursoConnectOptions.fromStr crate url process).1.map TursoConnectOptions.forget =
      parsedOptions crate database (crate.parsePairs params) := by
  rw [fromStr_of_urlParts parts]
  exact fromDbAndParams_forget database params process

theorem parsed_of_fromStr (parts : urlParts url = some (database, some params))
    {process : Process} {options : TursoConnectOptions}
    (isOk : (TursoConnectOptions.fromStr crate url process).1 = .ok options) :
    parsedOptions crate database (crate.parsePairs params) = .ok options.forget := by
  rw [← fromStr_forget parts process, isOk]
  rfl

theorem fromStr_isOk_iff (parts : urlParts url = some (database, some params))
    (process : Process) :
    (∃ options, (TursoConnectOptions.fromStr crate url process).1 = .ok options) ↔
      ∃ options, parsedOptions crate database (crate.parsePairs params) = .ok options := by
  rw [← fromStr_forget parts process]
  cases (TursoConnectOptions.fromStr crate url process).1 with
  | error error =>
      constructor
      · rintro ⟨_, isOk⟩
        cases isOk
      · rintro ⟨_, isOk⟩
        cases isOk
  | ok options => exact iff_of_true ⟨_, rfl⟩ ⟨_, rfl⟩

theorem fromStr_isOk_iff_accepted (parts : urlParts url = some (database, some params))
    (unique : ((crate.parsePairs params).map Prod.fst).Nodup) (process : Process) :
    (∃ options, (TursoConnectOptions.fromStr crate url process).1 = .ok options) ↔
      Accepted crate database (crate.parsePairs params) :=
  (fromStr_isOk_iff parts process).trans (parsedOptions_isOk_iff unique)

/-- Every parameter is read, and the options for a database are those of the last state. -/
theorem parsedOptions_eq_ok {pairs : List (String × String)} {options : TursoConnectOptions}
    (parsed : parsedOptions crate database pairs = .ok options) :
    ∃ start, startOptions crate database = .ok start ∧
      (∀ pair ∈ pairs, ∃ setting, read pair = .ok setting) ∧
      finishQuery (pairs.foldl turn ⟨start, none, none, none⟩) = .ok options := by
  rw [parsedOptions] at parsed
  cases isStart : startOptions crate database with
  | error error =>
      rw [isStart] at parsed
      cases parsed
  | ok start =>
      rw [isStart] at parsed
      cases allRead : readAll pairs with
      | error error =>
          rw [allRead] at parsed
          cases parsed
      | ok settings =>
          rw [allRead] at parsed
          refine ⟨start, rfl, readAll_isOk_iff.mp ⟨settings, allRead⟩, ?_⟩
          rw [← startOptions_unset isStart]
          exact parsed

end Meaning

section Shown

open QuerySetting

variable {crate : UrlCrate} {database : Bytes} {pairs first second : List (String × String)}
  {start options otherOptions : TursoConnectOptions}

/-- With a remote URL the sync settings are those of the last state. -/
theorem sync_of_finished (allRead : ∀ pair ∈ pairs, ∃ setting, read pair = .ok setting)
    {remoteUrl : String} (isRemote : ("sync_remote_url", remoteUrl) ∈ pairs)
    {state : QueryState} (finished : finishQuery (pairs.foldl turn state) = .ok options) :
    options.sync = some (pairs.foldl turn state).syncOrDefault := by
  have isSome : (pairs.foldl turn state).sync.isSome = true := by
    rw [final_sync_isSome allRead, List.any_eq_true.mpr ⟨_, isRemote, rfl⟩, Bool.or_true]
  obtain ⟨sync, isSync⟩ := Option.isSome_iff_exists.mp isSome
  rw [finishQuery_sync finished isSync, QueryState.syncOrDefault, isSync]
  rfl

/-- The token is kept exactly when it stands after the remote URL. -/
theorem authToken_iff (unique : (pairs.map Prod.fst).Nodup) {remoteUrl authToken : String}
    (isRemote : ("sync_remote_url", remoteUrl) ∈ pairs)
    (isToken : ("sync_auth_token", authToken) ∈ pairs) (state : QueryState) :
    (pairs.foldl turn state).syncOrDefault.authToken = some authToken ↔
      [("sync_remote_url", remoteUrl), ("sync_auth_token", authToken)].Sublist pairs := by
  have covers : ∀ key ∈ ["sync_remote_url", "sync_auth_token"],
      key = "sync_remote_url" ∨ key = "sync_auth_token" := by decide
  constructor
  · intro kept
    refine (pair_sublist_or isRemote isToken (by simp)).resolve_right fun swapped => ?_
    have isNone := final_of_order (·.syncOrDefault.authToken) unique swapped keeps_authToken
      (fun key isKey => (covers key isKey).symm) (fun _ => rfl) state
    rw [isNone] at kept
    cases kept
  · intro inOrder
    exact final_of_order (·.syncOrDefault.authToken) unique inOrder keeps_authToken covers
      (fun _ => rfl) state

/-- A token after the remote URL is kept. -/
theorem tokenKept_of_order (unique : (pairs.map Prod.fst).Nodup)
    (accepted : Accepted crate database pairs) {state : QueryState}
    (finished : finishQuery (pairs.foldl turn state) = .ok options) {authToken : String}
    (isToken : ("sync_auth_token", authToken) ∈ pairs)
    (tokenLast : ∀ remoteUrl, ("sync_remote_url", remoteUrl) ∈ pairs →
      [("sync_remote_url", remoteUrl), ("sync_auth_token", authToken)].Sublist pairs) :
    TokenKept authToken options := by
  rcases accepted.sync with ⟨remoteUrl, isRemote, _⟩ | noSync
  · exact ⟨_, sync_of_finished accepted.read isRemote finished,
      (authToken_iff unique isRemote isToken state).mpr (tokenLast remoteUrl isRemote)⟩
  · exact absurd (by simp [syncKeys]) (noSync _ isToken)

/-- Options with the same sync settings come from states with the same sync settings. -/
theorem syncOrDefault_eq (permuted : first.Perm second) (accepted : Accepted crate database first)
    (finished : finishQuery (first.foldl turn ⟨start, none, none, none⟩) = .ok options)
    (otherFinished : finishQuery (second.foldl turn ⟨start, none, none, none⟩) =
      .ok otherOptions) (same : options.sync = otherOptions.sync) :
    (first.foldl turn ⟨start, none, none, none⟩).syncOrDefault =
      (second.foldl turn ⟨start, none, none, none⟩).syncOrDefault := by
  rcases accepted.sync with ⟨remoteUrl, isRemote, _⟩ | noSync
  · rw [sync_of_finished accepted.read isRemote finished,
      sync_of_finished (accepted.of_perm permuted).read (permuted.subset isRemote)
        otherFinished] at same
    exact Option.some.inj same
  · have noneFirst := final_of_not_mem QueryState.sync keeps_sync noSync
      ⟨start, none, none, none⟩
    have noneSecond := final_of_not_mem QueryState.sync keeps_sync
      (fun pair isMember => noSync pair (permuted.symm.subset isMember))
      ⟨start, none, none, none⟩
    rw [QueryState.syncOrDefault, QueryState.syncOrDefault, noneFirst, noneSecond]

theorem cacheMode_eq (finished : finishQuery (first.foldl turn ⟨start, none, none, none⟩) =
      .ok options)
    (otherFinished : finishQuery (second.foldl turn ⟨start, none, none, none⟩) =
      .ok otherOptions) (same : options.cacheMode = otherOptions.cacheMode) :
    (first.foldl turn ⟨start, none, none, none⟩).options.cacheMode =
      (second.foldl turn ⟨start, none, none, none⟩).options.cacheMode := by
  obtain ⟨_, _, rfl⟩ := finishQuery_options finished
  obtain ⟨_, _, rfl⟩ := finishQuery_options otherFinished
  exact same

/-- Where the settings are the same, no parameter that loses another changed its side. -/
theorem pair_sublist_of_same (unique : (first.map Prod.fst).Nodup)
    (permuted : first.Perm second) {loses lost : String × String}
    {loser lostSetting : QuerySetting} (losesRead : read loses = .ok loser)
    (lostRead : read lost = .ok lostSetting) (isLost : Loses loser lostSetting)
    {state : QueryState}
    (sameCache : (first.foldl turn state).options.cacheMode =
      (second.foldl turn state).options.cacheMode)
    (sameSync : (first.foldl turn state).syncOrDefault = (second.foldl turn state).syncOrDefault)
    (inFirst : [loses, lost].Sublist first) : [loses, lost].Sublist second := by
  have differ : loses ≠ lost := by
    have nodup := inFirst.nodup (List.Nodup.of_map _ unique)
    simpa using nodup
  refine (pair_sublist_or (permuted.subset (inFirst.subset (.head _)))
    (permuted.subset (inFirst.subset (.tail _ (.head _)))) differ).resolve_right fun swapped => ?_
  have secondUnique : (second.map Prod.fst).Nodup := (permuted.map Prod.fst).nodup_iff.mp unique
  rcases swapped_differs unique secondUnique losesRead lostRead isLost inFirst swapped state with
    cacheDiffers | syncDiffers
  · exact cacheDiffers sameCache
  · exact syncDiffers sameSync

end Shown

/-- Two URLs for a database whose parameters are permutations of each other mean the same
exactly when their parameters are refused, or stand in the same order wherever one of them
loses another, with the remote URL before the token. -/
theorem parameter_order_is_irrelevant_iff (crate : UrlCrate)
    {first second database firstParams secondParams : Bytes}
    (firstParts : urlParts first = some (database, some firstParams))
    (secondParts : urlParts second = some (database, some secondParams))
    (permuted : (crate.parsePairs firstParams).Perm (crate.parsePairs secondParams))
    (unique : ((crate.parsePairs firstParams).map Prod.fst).Nodup) :
    SameMeaning crate first second (crate.parsePairs firstParams) ↔
      (Accepted crate database (crate.parsePairs firstParams) →
        KeepsOrder (crate.parsePairs firstParams) (crate.parsePairs secondParams)) := by
  have secondUnique := (permuted.map Prod.fst).nodup_iff.mp unique
  have firstOk := fromStr_isOk_iff_accepted firstParts unique
  have secondOk := fromStr_isOk_iff_accepted secondParts secondUnique
  constructor
  · intro sameMeaning accepted
    obtain ⟨options, isOk⟩ := (firstOk ⟨0, 0⟩).mpr accepted
    obtain ⟨other, otherOk⟩ := (secondOk ⟨0, 0⟩).mpr (accepted.of_perm permuted)
    obtain ⟨same, kept⟩ := (sameMeaning ⟨0, 0⟩ ⟨0, 0⟩).2 options other isOk otherOk
    obtain ⟨start, isStart, -, finished⟩ := parsedOptions_eq_ok (parsed_of_fromStr firstParts isOk)
    obtain ⟨otherStart, otherIsStart, -, otherFinished⟩ :=
      parsedOptions_eq_ok (parsed_of_fromStr secondParts otherOk)
    cases isStart.symm.trans otherIsStart
    have sameCache := cacheMode_eq finished otherFinished same.cacheMode
    have sameSync := syncOrDefault_eq permuted accepted finished otherFinished same.sync
    refine ⟨fun loses lost loser lostSetting losesRead lostRead isLost => ⟨?_, ?_⟩, ?_⟩
    · exact pair_sublist_of_same unique permuted losesRead lostRead isLost sameCache sameSync
    · exact pair_sublist_of_same secondUnique permuted.symm losesRead lostRead isLost
        sameCache.symm sameSync.symm
    · intro remoteUrl authToken isRemote isToken
      obtain ⟨sync, isSync, isKept⟩ := (kept authToken isToken).1
      have final := sync_of_finished accepted.read isRemote finished
      cases Option.some.inj (isSync.symm.trans final)
      exact (authToken_iff unique isRemote isToken _).mp isKept
  · intro keepsOrder process other
    have bothOk := (firstOk process).trans
      ((⟨fun accepted => accepted.of_perm permuted, fun accepted =>
        accepted.of_perm permuted.symm⟩ : _ ↔ _).trans (secondOk other).symm)
    refine ⟨bothOk, fun options otherOptions isOk otherOk => ?_⟩
    have accepted := (firstOk process).mp ⟨options, isOk⟩
    have order := keepsOrder accepted
    obtain ⟨start, isStart, -, finished⟩ := parsedOptions_eq_ok (parsed_of_fromStr firstParts isOk)
    obtain ⟨otherStart, otherIsStart, -, otherFinished⟩ :=
      parsedOptions_eq_ok (parsed_of_fromStr secondParts otherOk)
    cases isStart.symm.trans otherIsStart
    have sameResult : options.forget = otherOptions.forget := by
      rw [foldl_turn_eq unique permuted order] at finished
      exact Except.ok.inj (finished.symm.trans otherFinished)
    refine ⟨.of_forget sameResult, fun authToken isToken => ⟨?_, ?_⟩⟩
    · exact tokenKept_of_order unique accepted finished isToken fun remoteUrl isRemote =>
        order.tokenLast remoteUrl authToken isRemote isToken
    · refine tokenKept_of_order secondUnique (accepted.of_perm permuted) otherFinished
        (permuted.subset isToken) fun remoteUrl isRemote => ?_
      exact (order.sameOrder _ _ _ _ rfl rfl (.authToken remoteUrl authToken)).mp
        (order.tokenLast remoteUrl authToken (permuted.symm.subset isRemote) isToken)

/-! ## Two queries -/

def readOnlyUrl : Bytes := utf8 "turso:app.db?mode=ro&cache=shared"

def swappedReadOnlyUrl : Bytes := utf8 "turso://app.db?cache=shared&mode=ro"

theorem read_only_url_may_be_swapped :
    SameMeaning (PlainUrls.crate (utf8 "turso")) readOnlyUrl swappedReadOnlyUrl
      [("mode", "ro"), ("cache", "shared")] := by
  have firstPairs : (PlainUrls.crate (utf8 "turso")).parsePairs (utf8 "mode=ro&cache=shared") =
      [("mode", "ro"), ("cache", "shared")] := by decide +kernel
  have secondPairs : (PlainUrls.crate (utf8 "turso")).parsePairs (utf8 "cache=shared&mode=ro") =
      [("cache", "shared"), ("mode", "ro")] := by decide +kernel
  have firstParts : urlParts readOnlyUrl =
      some (utf8 "app.db", some (utf8 "mode=ro&cache=shared")) := by decide +kernel
  have secondParts : urlParts swappedReadOnlyUrl =
      some (utf8 "app.db", some (utf8 "cache=shared&mode=ro")) := by decide +kernel
  rw [← firstPairs]
  refine (parameter_order_is_irrelevant_iff _ firstParts secondParts ?_ ?_).mpr fun _ => ?_
  · rw [firstPairs, secondPairs]
    exact List.Perm.swap _ _ _
  · rw [firstPairs]
    decide
  · rw [firstPairs, secondPairs]
    -- neither parameter loses another one
    have noLoser : ∀ pairs : List (String × String),
        pairs ⊆ [("mode", "ro"), ("cache", "shared")] → ∀ loses lost loser lostSetting,
          QuerySetting.read loses = .ok loser → QuerySetting.Loses loser lostSetting →
            ¬[loses, lost].Sublist pairs := by
      intro pairs within loses lost loser lostSetting isRead isLost inPairs
      have isMember := within (inPairs.subset (.head _))
      rcases List.mem_cons.mp isMember with rfl | isMember
      · cases isRead
        cases isLost
      · cases List.mem_singleton.mp isMember
        cases isRead
        cases isLost
    refine ⟨fun loses lost loser lostSetting isRead _ isLost => ?_, ?_⟩
    · exact iff_of_false (noLoser _ (List.Subset.refl _) _ _ _ _ isRead isLost)
        (noLoser _ (by simp) _ _ _ _ isRead isLost)
    · intro remoteUrl authToken isRemote
      simp at isRemote

/-- The token of this URL is lost. -/
def tokenFirstUrl : Bytes := utf8 "turso:app.db?sync_auth_token=t&sync_remote_url=u"

def tokenLastUrl : Bytes := utf8 "turso:app.db?sync_remote_url=u&sync_auth_token=t"

theorem token_is_dropped :
    urlParts tokenFirstUrl = some (utf8 "app.db",
        some (utf8 "sync_auth_token=t&sync_remote_url=u")) ∧
      urlParts tokenLastUrl = some (utf8 "app.db",
        some (utf8 "sync_remote_url=u&sync_auth_token=t")) ∧
      (PlainUrls.crate (utf8 "turso")).parsePairs (utf8 "sync_auth_token=t&sync_remote_url=u") =
        [("sync_auth_token", "t"), ("sync_remote_url", "u")] ∧
      (PlainUrls.crate (utf8 "turso")).parsePairs (utf8 "sync_remote_url=u&sync_auth_token=t") =
        [("sync_remote_url", "u"), ("sync_auth_token", "t")] ∧
      ¬SameMeaning (PlainUrls.crate (utf8 "turso")) tokenFirstUrl tokenLastUrl
        [("sync_auth_token", "t"), ("sync_remote_url", "u")] := by
  refine ⟨by decide +kernel, by decide +kernel, by decide +kernel, by decide +kernel, ?_⟩
  intro sameMeaning
  have firstRead : (TursoConnectOptions.fromStr (PlainUrls.crate (utf8 "turso")) tokenFirstUrl
      ⟨0, 0⟩).1.map (fun options => options.sync.map (·.authToken)) = .ok (some none) := by
    decide +kernel
  obtain ⟨accepts, same⟩ := sameMeaning ⟨0, 0⟩ ⟨0, 0⟩
  cases first : (TursoConnectOptions.fromStr (PlainUrls.crate (utf8 "turso")) tokenFirstUrl
      ⟨0, 0⟩).1 with
  | error error =>
      rw [first] at firstRead
      cases firstRead
  | ok options =>
      obtain ⟨other, second⟩ := accepts.mp ⟨options, first⟩
      obtain ⟨sync, isSync, isToken⟩ := ((same options other first second).2 "t" (.head _)).1
      rw [first] at firstRead
      have noToken : options.sync.map (·.authToken) = some none := Except.ok.inj firstRead
      rw [isSync, Option.map_some, isToken] at noToken
      cases noToken

end SqlxTurso
