import SqlxTurso.Options.ConnectionUrl

/-!
# The parameters of a connection URL

The parameters that options are written with are read back into the options they
came from.  Each group of parameters has one lemma that says what its turns of
the loop make of the variables; the last results put them together.
-/

namespace SqlxTurso

open Library

section Numbers

theorem le_ofDigitChars (digits : List Char) (number : Nat) :
    number ≤ Nat.ofDigitChars 10 digits number := by
  induction digits generalizing number with
  | nil => simp
  | cons digit digits ih =>
      rw [Nat.ofDigitChars_cons]
      have := ih (10 * number + (digit.toNat - '0'.toNat))
      omega

/-- Digits are read as the number they write, when it is a 64-bit number. -/
theorem foldlM_pushDigit (digits : List Char) (isDigits : ∀ digit ∈ digits, digit.isDigit = true)
    {number : Nat} (small : number < 2 ^ 64) :
    digits.foldlM pushDigit number =
      if Nat.ofDigitChars 10 digits number < 2 ^ 64 then
        .ok (Nat.ofDigitChars 10 digits number)
      else .error .posOverflow := by
  induction digits generalizing number with
  | nil =>
      rw [Nat.ofDigitChars_nil, if_pos small]
      rfl
  | cons digit digits ih =>
      rw [List.forall_mem_cons] at isDigits
      rw [List.foldlM_cons, pushDigit, if_pos isDigits.1, Nat.ofDigitChars_cons]
      by_cases fits : 10 * number + (digit.toNat - '0'.toNat) < 2 ^ 64
      · rw [if_pos fits]
        exact ih isDigits.2 fits
      · have := le_ofDigitChars digits (10 * number + (digit.toNat - '0'.toNat))
        rw [if_neg fits, if_neg (by omega)]
        rfl

/-- A number that was written is read back, unless it has more than 64 bits. -/
theorem parseU64_repr (number : Nat) :
    parseU64 number.repr =
      if number < 2 ^ 64 then .ok number else .error .posOverflow := by
  have digits : number.repr.toList = Nat.toDigits 10 number := Nat.toList_repr
  have isDigits : ∀ digit ∈ Nat.toDigits 10 number, digit.isDigit = true :=
    fun digit isIn => Nat.isDigit_of_mem_toDigits (by decide) (by decide) isIn
  have read := foldlM_pushDigit _ isDigits (by decide : 0 < 2 ^ 64)
  rw [Nat.ofDigitChars_ten_toDigits] at read
  rw [parseU64, digits]
  have notEmpty : Nat.toDigits 10 number ≠ [] := Nat.toDigits_ne_nil
  match Nat.toDigits 10 number, notEmpty, isDigits, read with
  | [], notEmpty, _, _ => exact absurd rfl notEmpty
  | digit :: rest, _, isDigits, read =>
      have notPlus : digit ≠ '+' := by
        rintro rfl
        exact absurd (isDigits '+' (by simp)) (by decide)
      split
      next isNil => cases isNil
      next isPlus => exact absurd (List.cons.inj isPlus).1 notPlus
      next isPlus => exact absurd (List.cons.inj isPlus).1 notPlus
      next => exact read

end Numbers

section Features

open TursoExperimentalFeatures

/-- Names are found again between the commas. -/
theorem featureNames_intercalate {names : List String}
    (noComma : ∀ name ∈ names, ',' ∉ name.toList) (notEmpty : ∀ name ∈ names, name ≠ "") :
    featureNames (",".intercalate names) = names := by
  rw [featureNames, String.toList_intercalate]
  match names, noComma, notEmpty with
  | [], _, _ => rfl
  | name :: others, noComma, notEmpty =>
      have split : ([','].intercalate ((name :: others).map String.toList)).splitOn ',' =
          (name :: others).map String.toList :=
        List.splitOn_intercalate ',' (by simpa using noComma) (by simp)
      have filled : ((name :: others).map String.toList).filter (· ≠ []) =
          (name :: others).map String.toList := by
        rw [List.filter_eq_self]
        intro text isText
        obtain ⟨other, isOther, rfl⟩ := List.mem_map.mp isText
        simpa using notEmpty other isOther
      have commas : ",".toList = [','] := by decide
      rw [commas, split, filled, List.map_map]
      simp

theorem featureNames_toQueryValue (features : TursoExperimentalFeatures) :
    featureNames features.toQueryValue = queryNames.filterMap fun (feature, value) =>
      if features.isEnabled feature then some value else none := by
  have known : ∀ name ∈ queryNames.map (·.2), ',' ∉ name.toList ∧ name ≠ "" := by decide
  have written : ∀ name ∈ queryNames.filterMap fun (feature, value) =>
      if features.isEnabled feature then some value else none, name ∈ queryNames.map (·.2) := by
    intro name isWritten
    obtain ⟨⟨feature, value⟩, isKnown, isName⟩ := List.mem_filterMap.mp isWritten
    simp only [Option.ite_none_right_eq_some, Option.some.injEq] at isName
    exact List.mem_map.mpr ⟨_, isKnown, isName.2⟩
  rw [toQueryValue]
  exact featureNames_intercalate (fun name isWritten => (known name (written name isWritten)).1)
    (fun name isWritten => (known name (written name isWritten)).2)

/-- Every name of a feature is read as that feature. -/
theorem parse_queryNames : ∀ entry ∈ queryNames,
    parseExperimentalFeature entry.2 = .ok entry.1 := by
  decide

/-- The features that are written are set one by one. -/
theorem foldlM_applyFeature (features : TursoExperimentalFeatures)
    (names : List (TursoExperimentalFeature × String))
    (known : ∀ entry ∈ names, parseExperimentalFeature entry.2 = .ok entry.1)
    (state : QueryState) :
    (names.filterMap fun (feature, value) =>
        if features.isEnabled feature then some value else none).foldlM applyFeature state =
      .ok (state.withOptions { state.options with
        experimentalFeatures := names.foldl (fun set entry =>
          if features.isEnabled entry.1 then set.set entry.1 true else set)
            state.options.experimentalFeatures }) := by
  induction names generalizing state with
  | nil => rfl
  | cons entry names ih =>
      rw [List.forall_mem_cons] at known
      rcases entry with ⟨feature, value⟩
      cases enabled : features.isEnabled feature with
      | true =>
          simp only [List.filterMap_cons, enabled, ↓reduceIte, List.foldlM_cons,
            List.foldl_cons, applyFeature, known.1]
          exact ih known.2 _
      | false =>
          rw [List.filterMap_cons_none (by simp [enabled]), ih known.2 state]
          simp [enabled]

theorem isEnabled_injective {first second : TursoExperimentalFeatures}
    (same : ∀ feature, first.isEnabled feature = second.isEnabled feature) : first = second := by
  rcases first with ⟨_, _, _, _, _, _, _, _⟩
  rcases second with ⟨_, _, _, _, _, _, _, _⟩
  simp only [mk.injEq]
  exact ⟨same .attach, same .customTypes, same .generatedColumns, same .indexMethod,
    same .materializedViews, same .multiprocessWal, same .vacuum, same .withoutRowid⟩

theorem isEnabled_foldl (features set : TursoExperimentalFeatures)
    (names : List (TursoExperimentalFeature × String)) (feature : TursoExperimentalFeature) :
    (names.foldl (fun set entry =>
        if features.isEnabled entry.1 then set.set entry.1 true else set) set).isEnabled feature =
      (set.isEnabled feature ||
        (names.any (·.1 = feature) && features.isEnabled feature)) := by
  induction names generalizing set with
  | nil => simp
  | cons entry names ih =>
      rw [List.foldl_cons, ih, List.any_cons]
      by_cases same : entry.1 = feature
      · subst same
        cases features.isEnabled entry.1 <;> simp
      · have other : feature ≠ entry.1 := fun equal => same equal.symm
        split <;> simp [same, other]

/-- Setting the enabled features on a set without any gives the features. -/
theorem foldl_queryNames (features : TursoExperimentalFeatures) :
    queryNames.foldl (fun set entry =>
      if features.isEnabled entry.1 then set.set entry.1 true else set) {} = features := by
  refine isEnabled_injective fun feature => ?_
  have all : queryNames.any (·.1 = feature) = true := by cases feature <;> decide
  have none : isEnabled {} feature = false := by cases feature <;> rfl
  rw [isEnabled_foldl, none, all]
  simp

end Features

namespace TursoSyncOptions

/-- Settings as a URL holds them: the timeout in whole milliseconds. -/
def inMillis (sync : TursoSyncOptions) : TursoSyncOptions :=
  { sync with longPollTimeout := sync.longPollTimeout.map fun timeout =>
      .fromMillis timeout.asMillis }

/-- Settings that are accepted when they are read back. -/
structure Readable (sync : TursoSyncOptions) : Prop where
  remoteUrl : sync.remoteUrl ≠ ""
  timeout : ∀ timeout ∈ sync.longPollTimeout, timeout.asMillis < 2 ^ 64

end TursoSyncOptions

namespace TursoConnectOptions

section Turns

variable (state : QueryState)

theorem fold_mode (mode : TursoOpenMode) (path : String)
    (unset : state.options.openMode = .readWrite) :
    applyQueryParam state ("mode", mode.urlMode (.file path)) =
      pure (state.withOptions { state.options with openMode := mode }) := by
  cases mode with
  | readWrite =>
      have same : state.withOptions { state.options with openMode := .readWrite } = state := by
        rw [← unset]
        rfl
      rw [same]
      rfl
  | createIfMissing => rfl
  | readOnly => rfl

theorem fold_cache (mode : TursoCacheMode) :
    applyQueryParam state ("cache", mode.urlValue) =
      pure (state.withOptions { state.options with cacheMode := mode }) := by
  cases mode <;> rfl

theorem fold_immutable (immutable : Bool) (unset : state.options.immutable = false) :
    (if immutable then [("immutable", "true")] else []).foldlM applyQueryParam state =
      pure (state.withOptions { state.options with immutable }) := by
  cases immutable with
  | true => rfl
  | false =>
      have same : state.withOptions { state.options with immutable := false } = state := by
        rw [← unset]
        rfl
      rw [same]
      rfl

theorem fold_vfs (vfs : Option String) (unset : state.options.vfs = none)
    (noIo : state.options.customIo = none) :
    (vfs.map (("vfs", ·))).toList.foldlM applyQueryParam state =
      pure (state.withOptions { state.options with vfs }) := by
  cases vfs with
  | some name =>
      have same : state.options.withVfs name = { state.options with vfs := some name } := by
        rw [withVfs, ← noIo]
      rw [← same]
      rfl
  | none =>
      have same : state.withOptions { state.options with vfs := none } = state := by
        rw [← unset]
        rfl
      rw [same]
      rfl

theorem fold_encryption (encryption : Option TursoEncryptionOptions)
    (noCipher : state.encryptionCipher = none) (noHexkey : state.encryptionHexkey = none) :
    ((encryption.map encryptionPairs).getD []).foldlM applyQueryParam state =
      pure { state with
        encryptionCipher := encryption.map (·.cipher)
        encryptionHexkey := encryption.map (·.hexkey) } := by
  cases encryption with
  | some encryption => rfl
  | none =>
      rcases state with ⟨options, cipher, hexkey, sync⟩
      subst noCipher noHexkey
      rfl

theorem fold_timeout (longPollTimeout : Option Duration) :
    (longPollTimeout.map fun timeout =>
        ("sync_long_poll_timeout_ms", toString timeout.asMillis)).toList.foldlM
      applyQueryParam state =
      if ∀ timeout ∈ longPollTimeout, timeout.asMillis < 2 ^ 64 then
        pure (match longPollTimeout with
          | some timeout => state.withSync
              (state.syncOrDefault.withLongPollTimeout (.fromMillis timeout.asMillis))
          | none => state)
      else refuse (.config (.parseInt .posOverflow)) := by
  cases longPollTimeout with
  | none => rfl
  | some timeout =>
      simp only [Option.mem_some_iff, forall_eq', Option.map_some, Option.toList_some,
        List.foldlM_cons, List.foldlM_nil, bind_pure, applyQueryParam,
        show toString timeout.asMillis = timeout.asMillis.repr from rfl, parseU64_repr]
      by_cases fits : timeout.asMillis < 2 ^ 64
      · simp only [fits, ↓reduceIte]
      · simp only [fits, ↓reduceIte]

/-- The sync settings are read back, unless the timeout is too long. -/
theorem fold_sync (sync : TursoSyncOptions) :
    (syncPairs sync).foldlM applyQueryParam state =
      if ∀ timeout ∈ sync.longPollTimeout, timeout.asMillis < 2 ^ 64 then
        pure (state.withSync sync.inMillis)
      else refuse (.config (.parseInt .posOverflow)) := by
  rcases sync with ⟨remoteUrl, authToken, clientName, longPollTimeout, bootstrapIfEmpty⟩
  have texts : ([("sync_remote_url", remoteUrl)] ++
      (authToken.map (("sync_auth_token", ·))).toList ++
      (clientName.map (("sync_client_name", ·))).toList).foldlM applyQueryParam state =
        pure (state.withSync { remoteUrl, authToken, clientName }) := by
    cases authToken <;> cases clientName <;> rfl
  rw [syncPairs, List.foldlM_append, List.foldlM_append, texts, pure_bind, fold_timeout]
  split
  · cases longPollTimeout <;> cases bootstrapIfEmpty <;> rfl
  · rfl

theorem fold_experimental (features : TursoExperimentalFeatures)
    (unset : state.options.experimentalFeatures = {}) :
    (experimentalPairs features).foldlM applyQueryParam state =
      pure (state.withOptions { state.options with experimentalFeatures := features }) := by
  have read := foldlM_applyFeature features _ parse_queryNames state
  rw [unset, foldl_queryNames, ← featureNames_toQueryValue] at read
  rw [experimentalPairs]
  split
  next noName =>
      have none : featureNames "" = [] := by decide
      rw [noName, none] at read
      exact congrArg pure (Except.ok.inj read)
  next =>
      have turn : applyQueryParam state ("experimental", features.toQueryValue) =
          Fallible.ofExcept ((featureNames features.toQueryValue).foldlM applyFeature state) :=
        rfl
      rw [List.foldlM_cons, turn, read]
      rfl

theorem fold_sync_option (settings : Option TursoSyncOptions) (unset : state.sync = none) :
    ((settings.map syncPairs).getD []).foldlM applyQueryParam state =
      if ∀ sync ∈ settings, ∀ timeout ∈ sync.longPollTimeout, timeout.asMillis < 2 ^ 64 then
        pure { state with sync := settings.map TursoSyncOptions.inMillis }
      else refuse (.config (.parseInt .posOverflow)) := by
  cases settings with
  | some sync =>
      simp only [Option.mem_some_iff, forall_eq']
      exact fold_sync state sync
  | none =>
      rcases state with ⟨options, cipher, hexkey, sync⟩
      subst unset
      rfl

end Turns

/-- Options that no parameter has been applied to. -/
structure Unset (base : TursoConnectOptions) : Prop where
  openMode : base.openMode = .readWrite
  immutable : base.immutable = false
  vfs : base.vfs = none
  customIo : base.customIo = none
  encryption : base.encryption = none
  sync : base.sync = none
  experimentalFeatures : base.experimentalFeatures = {}

/-- Options with everything that a URL holds of other options. -/
def restored (options base : TursoConnectOptions) : TursoConnectOptions :=
  { base with
    openMode := options.openMode
    cacheMode := options.cacheMode
    immutable := options.immutable
    vfs := options.vfs
    encryption := options.encryption
    sync := options.sync.map TursoSyncOptions.inMillis
    experimentalFeatures := options.experimentalFeatures }

/-- The variables of the loop after all parameters of the options. -/
theorem foldlM_queryPairs {options base : TursoConnectOptions} {path : String}
    (isFile : options.target = .file path) (unset : base.Unset) :
    options.queryPairs.foldlM applyQueryParam base.queryState =
      if ∀ sync ∈ options.sync, ∀ timeout ∈ sync.longPollTimeout, timeout.asMillis < 2 ^ 64 then
        pure
          { options := { options.restored base with encryption := none, sync := none }
            encryptionCipher := options.encryption.map (·.cipher)
            encryptionHexkey := options.encryption.map (·.hexkey)
            sync := options.sync.map TursoSyncOptions.inMillis }
      else refuse (.config (.parseInt .posOverflow)) := by
  obtain ⟨target, openMode, cacheMode, immutable, busyTimeout, capacity, vfs, customIo,
    encryption, sync, features, pragmas, memoryState⟩ := base
  rcases unset with ⟨rfl, rfl, rfl, rfl, rfl, rfl, rfl⟩
  simp only [queryPairs, isFile, List.foldlM_append, List.foldlM_cons, List.foldlM_nil,
    bind_pure, queryState, Option.map_none]
  rw [fold_mode _ _ _ rfl, pure_bind, fold_cache, pure_bind, fold_immutable _ _ rfl, pure_bind,
    fold_vfs _ _ rfl rfl, pure_bind, fold_encryption _ _ rfl rfl, pure_bind,
    fold_sync_option _ _ rfl]
  split
  · exact fold_experimental _ _ rfl
  · rfl

/-- Options whose sync settings, if any, are accepted when they are read back. -/
def SyncReadable (options : TursoConnectOptions) : Prop :=
  ∀ sync ∈ options.sync, sync.Readable

/-- What is set after the loop: the encryption settings passed their checks once,
and only a missing remote URL is refused. -/
theorem finishQuery_eq (options : TursoConnectOptions)
    (encryption : Option TursoEncryptionOptions) (sync : Option TursoSyncOptions) :
    finishQuery ⟨{ options with encryption := none, sync := none },
        encryption.map (·.cipher), encryption.map (·.hexkey), sync⟩ =
      if ∃ settings ∈ sync, settings.remoteUrl = "" then
        .error (configError "`sync_remote_url` must be provided when sync options are used")
      else .ok { options with encryption, sync } := by
  have checked : finishEncryption ⟨{ options with encryption := none, sync := none },
      encryption.map (·.cipher), encryption.map (·.hexkey), sync⟩ =
        .ok { options with encryption, sync := none } := by
    cases encryption with
    | none => rfl
    | some encryption =>
        simp only [finishEncryption, Option.map_some, TursoEncryptionOptions.new_self]
        rfl
  rw [finishQuery, checked]
  cases sync with
  | none => simp [finishSync, bind, Except.bind]
  | some settings => simp [finishSync, bind, Except.bind, withSyncOptions]

/-- The parameters that options were written with restore them; options with sync
settings that are not readable are refused. -/
theorem applyQueryParams_queryPairs {crate : UrlCrate} {options base : TursoConnectOptions}
    {path : String} {params : Bytes} (isFile : options.target = .file path)
    (unset : base.Unset) (pairs : crate.parsePairs params = options.queryPairs) :
    (options.SyncReadable → base.applyQueryParams crate params = pure (options.restored base)) ∧
      (¬ options.SyncReadable → ∃ error, base.applyQueryParams crate params = refuse error) := by
  have turns := foldlM_queryPairs isFile unset
  have finished := finishQuery_eq (options.restored base) options.encryption
    (options.sync.map TursoSyncOptions.inMillis)
  rw [applyQueryParams, pairs, turns]
  by_cases fits : ∀ sync ∈ options.sync, ∀ timeout ∈ sync.longPollTimeout,
      timeout.asMillis < 2 ^ 64
  · rw [if_pos fits, pure_bind, finished]
    by_cases remote : ∃ settings ∈ options.sync.map TursoSyncOptions.inMillis,
        settings.remoteUrl = ""
    · rw [if_pos remote]
      refine ⟨fun readable => ?_, fun _ => ⟨_, rfl⟩⟩
      rcases remote with ⟨_, isSync, noRemote⟩
      obtain ⟨sync, isOption, rfl⟩ := Option.map_eq_some_iff.mp isSync
      exact absurd noRemote (readable sync isOption).remoteUrl
    · rw [if_neg remote]
      refine ⟨fun _ => rfl, fun unreadable => absurd (fun sync isSync => ?_) unreadable⟩
      exact ⟨fun noRemote => remote ⟨_, Option.mem_map_of_mem _ isSync, noRemote⟩,
        fits sync isSync⟩
  · rw [if_neg fits]
    exact ⟨fun readable => absurd (fun sync isSync => (readable sync isSync).timeout) fits,
      fun _ => ⟨_, rfl⟩⟩

end TursoConnectOptions

end SqlxTurso
