import SqlxTurso.Options.Identity
import SqlxTurso.Options.Order

/-!
# Well-formed options

What holds of all options that a URL and any number of builder calls give.  The pragma
list keeps the default names in front and no name twice, and the last setting of the
journal mode decides whether it is multi-version.
-/

namespace SqlxTurso

open Library

/-- Is the value `mvcc`, up to case and the quotes around it? -/
def isMvccValue (value : String) : Bool :=
  eqIgnoreAsciiCase (normalizedPragmaValue value) "mvcc".toList

namespace TursoConnectOptions

/-- The value of the first setting with the name. -/
def pragmaValue (options : TursoConnectOptions) (name : String) : Option String :=
  (options.pragmas.find? (·.1 == name)).bind (·.2)

def getMvcc (options : TursoConnectOptions) : Bool :=
  (options.pragmaValue "journal_mode").any isMvccValue

theorem getMvcc_congr {options other : TursoConnectOptions}
    (samePragmas : options.pragmas = other.pragmas) : options.getMvcc = other.getMvcc := by
  rw [getMvcc, getMvcc, pragmaValue, pragmaValue, samePragmas]

/-- Options as every URL and every builder call leaves them. -/
structure WellFormed (options : TursoConnectOptions) : Prop where
  uniqueNames : (options.pragmas.map Prod.fst).Nodup
  defaultNames : defaultPragmas.map Prod.fst <+: options.pragmas.map Prod.fst
  oneIo : options.vfs = none ∨ options.customIo = none
  encryption : ∀ encryption ∈ options.encryption,
    encryption.cipher ≠ "" ∧ encryption.hexkey ≠ "" ∧ encryption.hexkey.utf8ByteSize % 2 = 0 ∧
      encryption.hexkey.toList.all isAsciiHexdigit = true

/-! ## The pragma list -/

section Pragmas

variable (key : String) (value : Option String) (list : List (String × Option String))

/-- A setting with a new name is added at the end, and no name is removed. -/
theorem map_fst_setPragma :
    (setPragma key value list).map Prod.fst =
      if key ∈ list.map Prod.fst then list.map Prod.fst else list.map Prod.fst ++ [key] := by
  induction list with
  | nil => rfl
  | cons entry list ih =>
      rcases entry with ⟨name, existing⟩
      rw [setPragma]
      by_cases same : name = key
      · simp [same]
      · have other : key ≠ name := fun equal => same equal.symm
        rw [if_neg same, List.map_cons, ih]
        simp only [List.map_cons, List.mem_cons, other, false_or]
        split
        · rfl
        · rfl

theorem find?_setPragma (name : String) :
    (setPragma key value list).find? (·.1 == name) =
      if name = key then some (key, value) else list.find? (·.1 == name) := by
  induction list with
  | nil =>
      by_cases same : name = key
      · simp [setPragma, same]
      · have other : key ≠ name := fun equal => same equal.symm
        simp [setPragma, same, other]
  | cons entry list ih =>
      rcases entry with ⟨first, existing⟩
      rw [setPragma]
      by_cases isFirst : first = key
      · subst isFirst
        by_cases same : name = first
        · simp [same]
        · have other : first ≠ name := fun equal => same equal.symm
          simp [same, other]
      · rw [if_neg isFirst, List.find?_cons, List.find?_cons, ih]
        by_cases same : name = key
        · subst same
          rw [beq_eq_false_iff_ne.mpr isFirst, if_pos rfl]
        · simp only [if_neg same]

variable {key value list} in
theorem mem_setPragma {entry : String × Option String}
    (isMember : entry ∈ setPragma key value list) : entry = (key, value) ∨ entry ∈ list := by
  induction list with
  | nil => exact .inl (List.mem_singleton.mp isMember)
  | cons first list ih =>
      rcases first with ⟨name, existing⟩
      rw [setPragma] at isMember
      split at isMember
      next same =>
        rcases List.mem_cons.mp isMember with isNew | wasMember
        · exact .inl (same ▸ isNew)
        · exact .inr (.tail _ wasMember)
      next =>
        rcases List.mem_cons.mp isMember with isFirst | isLater
        · exact .inr (isFirst ▸ .head _)
        · exact (ih isLater).imp_right (.tail _)

theorem pragmaValue_pragma (options : TursoConnectOptions) (name : String) :
    (options.pragma key value).pragmaValue name =
      if name = key then value else options.pragmaValue name := by
  rw [pragmaValue, pragma, find?_setPragma]
  split
  · rfl
  · rfl

end Pragmas

/-- A pragma keeps the names in front, and every name unique. -/
theorem WellFormed.pragma {options : TursoConnectOptions} (wellFormed : options.WellFormed)
    (key : String) (value : Option String) : (options.pragma key value).WellFormed where
  uniqueNames := by
    rw [TursoConnectOptions.pragma, map_fst_setPragma]
    split
    next => exact wellFormed.uniqueNames
    next isNew =>
      rw [List.nodup_append]
      refine ⟨wellFormed.uniqueNames, List.nodup_singleton key, ?_⟩
      intro name isName other isKey same
      rw [List.mem_singleton] at isKey
      exact isNew (isKey ▸ same ▸ isName)
  defaultNames := by
    rw [TursoConnectOptions.pragma, map_fst_setPragma]
    split
    · exact wellFormed.defaultNames
    · exact wellFormed.defaultNames.trans (List.prefix_append _ _)
  oneIo := wellFormed.oneIo
  encryption := wellFormed.encryption

/-- The settings of an encryption have passed the checks they are made with. -/
theorem encryption_checked (encryption : TursoEncryptionOptions) :
    encryption.cipher ≠ "" ∧ encryption.hexkey ≠ "" ∧ encryption.hexkey.utf8ByteSize % 2 = 0 ∧
      encryption.hexkey.toList.all isAsciiHexdigit = true :=
  ⟨encryption.cipher_ne, encryption.hexkey_ne, encryption.hexkey_even, encryption.hexkey_digits⟩

/-- Only the pragmas and the two IO backends can go wrong. -/
theorem WellFormed.of_same {options other : TursoConnectOptions} (wellFormed : options.WellFormed)
    (samePragmas : other.pragmas = options.pragmas) (oneIo : other.vfs = none ∨ other.customIo = none) :
    other.WellFormed where
  uniqueNames := samePragmas ▸ wellFormed.uniqueNames
  defaultNames := samePragmas ▸ wellFormed.defaultNames
  oneIo := oneIo
  encryption := fun encryption _ => encryption_checked encryption

theorem inMemory_keeps (options : TursoConnectOptions) (flag : Bool) (process : Process) :
    (options.inMemory flag process).1.pragmas = options.pragmas ∧
      (options.inMemory flag process).1.vfs = options.vfs ∧
      (options.inMemory flag process).1.customIo = options.customIo := by
  cases flag with
  | true => exact ⟨rfl, rfl, rfl⟩
  | false =>
      simp only [inMemory, Bool.false_eq_true, ↓reduceIte]
      split
      · exact ⟨rfl, rfl, rfl⟩
      · exact ⟨rfl, rfl, rfl⟩

theorem wellFormed_keep : Builder.Keep WellFormed where
  default := fun process =>
    { uniqueNames := (by decide : (defaultPragmas.map Prod.fst).Nodup)
      defaultNames := List.prefix_refl _
      oneIo := .inl rfl
      encryption := fun encryption _ => encryption_checked encryption }
  built := by
    intro builder options process wellFormed
    cases builder with
    | inMemory flag =>
        obtain ⟨samePragmas, sameVfs, sameIo⟩ := inMemory_keeps options flag process
        have oneIo : (options.inMemory flag process).1.vfs = none ∨
            (options.inMemory flag process).1.customIo = none := by
          rw [sameVfs, sameIo]
          exact wellFormed.oneIo
        exact wellFormed.of_same samePragmas oneIo
    | vfs name => exact wellFormed.of_same rfl (.inr rfl)
    | customIo io => exact wellFormed.of_same rfl (.inl rfl)
    | clearCustomIo => exact wellFormed.of_same rfl (.inr rfl)
    | mvcc enabled =>
        cases enabled with
        | true => exact wellFormed.pragma "journal_mode" (some "'mvcc'")
        | false => exact wellFormed.pragma "journal_mode" none
    | pragma key value => exact wellFormed.pragma key value
    | _ => exact wellFormed.of_same rfl wellFormed.oneIo
  finished := fun options encryption sync wellFormed => wellFormed.of_same rfl wellFormed.oneIo

end TursoConnectOptions

/-! ## What is read from a URL -/

/-- The parameters of a URL. -/
def urlPairs (crate : UrlCrate) (url : Bytes) : List (String × String) :=
  match urlParts url with
  | some (_, some params) => crate.parsePairs params
  | _ => []

section Parsed

open QuerySetting

variable {crate : UrlCrate}

/-- The options of an accepted URL, without their identity, are those of the last state of
the loop. -/
theorem finish_of_fromStr {url : Bytes} {process : Process} {options : TursoConnectOptions}
    (isOk : (TursoConnectOptions.fromStr crate url process).1 = .ok options) :
    (∀ pair ∈ urlPairs crate url, ∃ setting, read pair = .ok setting) ∧
      ∃ database params start, urlParts url = some (database, params) ∧
        startOptions crate database = .ok start ∧
        finishQuery ((urlPairs crate url).foldl turn ⟨start, none, none, none⟩) =
          .ok options.forget := by
  rcases parts : urlParts url with _ | ⟨database, _ | params⟩
  · have refused : TursoConnectOptions.fromStr crate url =
        refuse (configError "Turso URLs must use the `turso:` scheme") := by
      unfold urlParts at parts
      unfold TursoConnectOptions.fromStr
      cases stripped : (url.dropPrefix? (utf8 "turso://")).or
          (url.dropPrefix? (utf8 "turso:")) with
      | none => rfl
      | some rest =>
          simp only [stripped] at parts
          cases parts
    rw [refused] at isOk
    cases isOk
  · have noPairs : urlPairs crate url = [] := by rw [urlPairs, parts]
    rw [noPairs]
    refine ⟨fun pair isMember => absurd isMember List.not_mem_nil, database, none,
      options.forget, rfl, ?_, rfl⟩
    rw [fromStr_of_urlParts parts, TursoConnectOptions.fromDbAndParams_parts,
      Fallible.run_bind] at isOk
    rw [← forDatabase_forget database process]
    rcases ran : TursoConnectOptions.forDatabase crate database process with ⟨_ | start, after⟩
    · rw [ran] at isOk
      cases isOk
    · rw [ran] at isOk
      cases isOk
      rfl
  · have isPairs : urlPairs crate url = crate.parsePairs params := by rw [urlPairs, parts]
    have parsed := parsed_of_fromStr parts isOk
    rw [isPairs]
    obtain ⟨start, isStart, allRead, finished⟩ := parsedOptions_eq_ok parsed
    exact ⟨allRead, database, params, start, rfl, isStart, finished⟩

/-- No parameter sets the encryption or the sync settings before the end of the loop. -/
theorem turn_unset (state : QueryState) (pair : String × String) :
    (turn state pair).options.encryption = state.options.encryption ∧
      (turn state pair).options.sync = state.options.sync := by
  rw [turn]
  split
  next setting _ =>
    cases setting with
    | mode queryMode => cases queryMode <;> exact ⟨rfl, rfl⟩
    | experimental features =>
        rw [changeForgotten_experimental]
        exact ⟨rfl, rfl⟩
    | _ => exact ⟨rfl, rfl⟩
  next => exact ⟨rfl, rfl⟩

/-- An encryption setting is there once a parameter for it has been read. -/
theorem turn_encryption {pair : String × String} {setting : QuerySetting}
    (isRead : read pair = .ok setting) (state : QueryState) :
    (turn state pair).encryptionCipher.isSome =
        (state.encryptionCipher.isSome || decide (pair.1 = "encryption_cipher")) ∧
      (turn state pair).encryptionHexkey.isSome =
        (state.encryptionHexkey.isSome || decide (pair.1 = "encryption_hexkey")) := by
  rw [turn_eq isRead, ← read_key isRead]
  cases setting with
  | mode queryMode => cases queryMode <;> simp [changeForgotten, change, QueryState.withOptions, key]
  | _ => simp [changeForgotten, change, QueryState.withOptions, QueryState.withSync, key]

theorem final_encryption {pairs : List (String × String)}
    (allRead : ∀ pair ∈ pairs, ∃ setting, read pair = .ok setting)
    (start : TursoConnectOptions) :
    ((pairs.foldl turn ⟨start, none, none, none⟩).encryptionCipher.isSome = true ↔
        ∃ cipher, ("encryption_cipher", cipher) ∈ pairs) ∧
      ((pairs.foldl turn ⟨start, none, none, none⟩).encryptionHexkey.isSome = true ↔
        ∃ hexkey, ("encryption_hexkey", hexkey) ∈ pairs) := by
  have cipher := foldl_any (fun state : QueryState => state.encryptionCipher.isSome) pairs
    (fun pair isMember state =>
      (turn_encryption (allRead pair isMember).choose_spec state).1) ⟨start, none, none, none⟩
  have hexkey := foldl_any (fun state : QueryState => state.encryptionHexkey.isSome) pairs
    (fun pair isMember state =>
      (turn_encryption (allRead pair isMember).choose_spec state).2) ⟨start, none, none, none⟩
  rw [cipher, hexkey]
  simp

/-- After the loop the encryption is set when both settings for it are there. -/
theorem finishQuery_encryption {state : QueryState} {options : TursoConnectOptions}
    (finished : finishQuery state = .ok options) (unset : state.options.encryption = none) :
    options.encryption.isSome =
      (state.encryptionCipher.isSome && state.encryptionHexkey.isSome) := by
  obtain ⟨between, encrypted, finished⟩ := finishQuery_eq_ok finished
  obtain ⟨sync, rfl⟩ := finishSync_options finished
  show between.encryption.isSome = _
  unfold finishEncryption at encrypted
  split at encrypted
  next cipher hexkey isCipher isHexkey =>
    rw [isCipher, isHexkey]
    cases checked : TursoEncryptionOptions.new cipher hexkey with
    | error error =>
        rw [checked] at encrypted
        cases encrypted
    | ok encryption =>
        rw [checked] at encrypted
        cases encrypted
        rfl
  next => cases encrypted
  next => cases encrypted
  next noCipher _ =>
    cases encrypted
    rw [unset, noCipher]
    rfl

/-- After the loop the sync settings are those of the loop, and they have a remote URL. -/
theorem finishQuery_remoteUrl {state : QueryState} {options : TursoConnectOptions}
    (finished : finishQuery state = .ok options) (unset : state.options.sync = none) :
    options.sync = state.sync ∧ ∀ sync ∈ options.sync, sync.remoteUrl ≠ "" := by
  have checked := ((finishQuery_isOk_iff state).mp ⟨options, finished⟩).2
  have same : options.sync = state.sync := by
    cases isSync : state.sync with
    | some sync => exact finishQuery_sync finished isSync
    | none =>
        obtain ⟨between, encrypted, finished⟩ := finishQuery_eq_ok finished
        rw [isSync] at finished
        cases finished
        obtain ⟨encryption, rfl⟩ := finishEncryption_options encrypted
        exact unset
  refine ⟨same, fun sync isSync => checked sync ?_⟩
  rw [← same]
  exact isSync

theorem mvcc_isMvccValue : isMvccValue "'mvcc'" = true := by decide

/-- The journal mode that a parameter asks for, if it is one. -/
def journalModeOf (pair : String × String) : Option (Option String) :=
  if pair.1 = "journal_mode" then some (some pair.2) else none

theorem keeps_pragmas (state : QueryState) (setting : QuerySetting)
    (otherKey : setting.key ∉ ["journal_mode"]) :
    (setting.changeForgotten state).options.pragmas = state.options.pragmas := by
  cases setting with
  | mode queryMode => cases queryMode <;> rfl
  | experimental features =>
      rw [changeForgotten_experimental]
      rfl
  | _ => first | rfl | exact absurd (by simp [key]) otherKey

theorem turn_pragmas (state : QueryState) {pair : String × String}
    (otherKey : pair.1 ≠ "journal_mode") :
    (turn state pair).options.pragmas = state.options.pragmas :=
  @turn_keeps _ (·.options.pragmas) _ keeps_pragmas pair (by simpa using otherKey) state

/-- What a readable parameter for the journal mode is read as. -/
theorem read_journal_mode (value : String) :
    ∃ written, read ("journal_mode", value) = .ok (journalMode written) ∧
      isMvccValue written = isMvccValue value := by
  have isRead : read ("journal_mode", value) =
      if isMvccValue value then .ok (journalMode "'mvcc'") else .ok (journalMode value) := rfl
  rw [isRead]
  by_cases asksMvcc : isMvccValue value = true
  · exact ⟨"'mvcc'", if_pos asksMvcc, mvcc_isMvccValue.trans asksMvcc.symm⟩
  · exact ⟨value, if_neg asksMvcc, rfl⟩

theorem turn_journal_mode (state : QueryState) (value : String) :
    ∃ written, (turn state ("journal_mode", value)).options =
        state.options.pragma "journal_mode" (some written) ∧
      isMvccValue written = isMvccValue value := by
  obtain ⟨written, isRead, same⟩ := read_journal_mode value
  refine ⟨written, ?_, same⟩
  rw [turn_eq isRead]
  rfl

/-- The journal mode is multi-version after a parameter for it that asks for that, and
other parameters leave it. -/
theorem turn_getMvcc (state : QueryState) (pair : String × String) :
    (turn state pair).options.getMvcc =
      ((journalModeOf pair).map (·.any isMvccValue)).getD state.options.getMvcc := by
  rcases pair with ⟨key, value⟩
  by_cases isJournalMode : key = "journal_mode"
  · subst isJournalMode
    obtain ⟨written, isPragma, same⟩ := turn_journal_mode state value
    rw [isPragma, TursoConnectOptions.getMvcc, TursoConnectOptions.pragmaValue_pragma, if_pos rfl]
    exact same
  · rw [journalModeOf, if_neg isJournalMode]
    exact TursoConnectOptions.getMvcc_congr (turn_pragmas state isJournalMode)

end Parsed

/-! ## Runs of builder calls -/

namespace Builder

/-- Builder calls, one after the other. -/
def applyAll (calls : List Builder) (options : TursoConnectOptions) :
    StateM Process TursoConnectOptions := calls.foldlM apply options

/-- The journal mode that a call sets, if it sets it. -/
def journalMode : Builder → Option (Option String)
  | mvcc true => some (some "'mvcc'")
  | mvcc false => some none
  | pragma key value => if key = "journal_mode" then some value else none
  | _ => none

theorem applyAll_eq (calls : List Builder) (options : TursoConnectOptions) (process : Process) :
    applyAll calls options process =
      calls.foldl (fun made call => call.apply made.1 made.2) (options, process) := by
  induction calls generalizing options process with
  | nil => rfl
  | cons call calls ih => exact ih _ _

theorem applyAll_keeps {holds : TursoConnectOptions → Prop} (keep : Keep holds)
    (calls : List Builder) {options : TursoConnectOptions} (held : holds options)
    (process : Process) : holds (applyAll calls options process).1 := by
  induction calls generalizing options process with
  | nil => exact held
  | cons call calls ih => exact ih (keep.built call options process held) _

theorem apply_getMvcc (call : Builder) (options : TursoConnectOptions) (process : Process) :
    (call.apply options process).1.getMvcc =
      (call.journalMode.map (·.any isMvccValue)).getD options.getMvcc := by
  cases call with
  | inMemory flag =>
      have kept := (TursoConnectOptions.inMemory_keeps options flag process).1
      exact TursoConnectOptions.getMvcc_congr kept
  | mvcc enabled =>
      cases enabled with
      | true =>
          show ((options.pragma "journal_mode" (some "'mvcc'")).pragmaValue _).any _ = _
          rw [TursoConnectOptions.pragmaValue_pragma]
          rfl
      | false =>
          show ((options.pragma "journal_mode" none).pragmaValue _).any _ = _
          rw [TursoConnectOptions.pragmaValue_pragma]
          rfl
  | pragma key value =>
      show ((options.pragma key value).pragmaValue _).any _ = _
      rw [TursoConnectOptions.pragmaValue_pragma, journalMode]
      by_cases isJournalMode : key = "journal_mode"
      · rw [if_pos isJournalMode.symm, if_pos isJournalMode]
        rfl
      · have other : "journal_mode" ≠ key := fun same => isJournalMode same.symm
        rw [if_neg other, if_neg isJournalMode]
        rfl
  | _ => rfl

end Builder

/-- Where options come from before the builder calls. -/
inductive OptionsOrigin where
  | default
  | url (text : Bytes)
  deriving DecidableEq, Repr

namespace OptionsOrigin

variable (crate : UrlCrate)

def start : OptionsOrigin → Fallible TursoConnectOptions
  | default => .ofState TursoConnectOptions.default
  | url text => TursoConnectOptions.fromStr crate text

/-- The options from an origin, after builder calls. -/
def build (origin : OptionsOrigin) (calls : List Builder) : Fallible TursoConnectOptions := do
  let options ← origin.start crate
  .ofState (Builder.applyAll calls options)

/-- The journal modes that the parameters ask for, in their order. -/
def journalModes : OptionsOrigin → List (Option String)
  | default => []
  | url text => (urlPairs crate text).filterMap journalModeOf

end OptionsOrigin

section Results

variable {crate : UrlCrate}

theorem final_autoVacuum (pairs : List (String × String)) {state : QueryState}
    (unset : ∀ value, ("auto_vacuum", some value) ∉ state.options.pragmas) :
    ∀ value, ("auto_vacuum", some value) ∉
      (pairs.foldl QuerySetting.turn state).options.pragmas := by
  induction pairs generalizing state with
  | nil => exact unset
  | cons pair pairs ih =>
      refine ih fun value isMember => ?_
      rcases pair with ⟨key, given⟩
      by_cases isJournalMode : key = "journal_mode"
      · subst isJournalMode
        obtain ⟨written, isPragma, _⟩ := turn_journal_mode state given
        rw [isPragma] at isMember
        rcases TursoConnectOptions.mem_setPragma isMember with isNew | wasMember
        · exact absurd (congrArg Prod.fst isNew) (by decide : "auto_vacuum" ≠ "journal_mode")
        · exact unset value wasMember
      · rw [turn_pragmas state isJournalMode] at isMember
        exact unset value isMember

theorem final_unset (pairs : List (String × String)) {database : Bytes}
    {start : TursoConnectOptions} (isStart : startOptions crate database = .ok start) :
    (pairs.foldl QuerySetting.turn ⟨start, none, none, none⟩).options.encryption = none ∧
      (pairs.foldl QuerySetting.turn ⟨start, none, none, none⟩).options.sync = none := by
  obtain ⟨target, cacheMode, rfl⟩ := startOptions_blank isStart
  constructor
  · exact @foldl_kept _ _ _ QuerySetting.turn (·.options.encryption) pairs
      (fun pair _ state => (turn_unset state pair).1) _
  · exact @foldl_kept _ _ _ QuerySetting.turn (·.options.sync) pairs
      (fun pair _ state => (turn_unset state pair).2) _

theorem finishQuery_pragmas {state : QueryState} {options : TursoConnectOptions}
    (finished : finishQuery state = .ok options.forget) :
    options.pragmas = state.options.pragmas := by
  obtain ⟨encryption, sync, isLast⟩ := finishQuery_options finished
  exact congrArg (·.pragmas) isLast

/-- What holds of the options of an accepted URL without builder calls. -/
theorem url_alone {url : Bytes} {process : Process} {options : TursoConnectOptions}
    (isOk : (TursoConnectOptions.fromStr crate url process).1 = .ok options) :
    (options.encryption.isSome = true ↔
        (∃ cipher, ("encryption_cipher", cipher) ∈ urlPairs crate url) ∧
          ∃ hexkey, ("encryption_hexkey", hexkey) ∈ urlPairs crate url) ∧
      (∀ sync ∈ options.sync, sync.remoteUrl ≠ "") ∧
      ∀ value, ("auto_vacuum", some value) ∉ options.pragmas := by
  obtain ⟨allRead, database, _, start, _, isStart, finished⟩ := finish_of_fromStr isOk
  have samePragmas := finishQuery_pragmas finished
  have noEncryption := final_unset (urlPairs crate url) isStart
  have isSet := finishQuery_encryption finished noEncryption.1
  obtain ⟨cipher, hexkey⟩ := final_encryption allRead start
  refine ⟨?_, (finishQuery_remoteUrl finished noEncryption.2).2, ?_⟩
  · rw [← cipher, ← hexkey, ← Bool.and_eq_true]
    exact isSet ▸ Iff.rfl
  · obtain ⟨target, cacheMode, rfl⟩ := startOptions_blank isStart
    have atStart : ∀ value, ("auto_vacuum", some value) ∉ defaultPragmas := by
      intro value
      simp [defaultPragmas]
    intro value
    rw [samePragmas]
    exact final_autoVacuum _ atStart value

/-- What a list of journal modes leaves, each one written over the one before. -/
def lastIsMvcc (modes : List (Option String)) (otherwise : Bool) : Bool :=
  (modes.getLast?.map (·.any isMvccValue)).getD otherwise

theorem getLast?_filterMap_map {α β γ : Type} (find : α → Option β) (write : β → γ)
    (list : List α) :
    (list.filterMap fun value => (find value).map write).getLast? =
      (list.filterMap find).getLast?.map write := by
  rw [← List.getLast?_map, List.map_filterMap]

theorem lastIsMvcc_append (first second : List (Option String)) (otherwise : Bool) :
    lastIsMvcc (first ++ second) otherwise = lastIsMvcc second (lastIsMvcc first otherwise) := by
  rw [lastIsMvcc, List.getLast?_append, lastIsMvcc, lastIsMvcc]
  cases second.getLast? <;> rfl

theorem lastIsMvcc_iff (modes : List (Option String)) :
    lastIsMvcc modes false = true ↔
      ∃ value, modes.getLast? = some (some value) ∧ isMvccValue value = true := by
  rw [lastIsMvcc]
  rcases modes.getLast? with _ | _ | value
  · simp
  · simp
  · simp

theorem url_getMvcc {url : Bytes} {process : Process} {options : TursoConnectOptions}
    (isOk : (TursoConnectOptions.fromStr crate url process).1 = .ok options) :
    options.getMvcc = lastIsMvcc ((urlPairs crate url).filterMap journalModeOf) false := by
  obtain ⟨_, database, _, start, _, isStart, finished⟩ := finish_of_fromStr isOk
  have atStart : start.getMvcc = false := by
    obtain ⟨target, cacheMode, rfl⟩ := startOptions_blank isStart
    rfl
  have atEnd : options.getMvcc =
      ((urlPairs crate url).foldl QuerySetting.turn ⟨start, none, none, none⟩).options.getMvcc :=
    TursoConnectOptions.getMvcc_congr (finishQuery_pragmas finished)
  rw [atEnd, lastIsMvcc, ← getLast?_filterMap_map, ← atStart]
  exact foldl_writes (fun state : QueryState => state.options.getMvcc) _
    (fun pair _ state => turn_getMvcc state pair) _

theorem applyAll_getMvcc (calls : List Builder) (options : TursoConnectOptions)
    (process : Process) :
    (Builder.applyAll calls options process).1.getMvcc =
      lastIsMvcc (calls.filterMap Builder.journalMode) options.getMvcc := by
  rw [Builder.applyAll_eq, lastIsMvcc, ← getLast?_filterMap_map]
  exact foldl_writes (fun made : TursoConnectOptions × Process => made.1.getMvcc) calls
    (fun call _ made => call.apply_getMvcc made.1 made.2) (options, process)

/-- Options are well formed, whatever accepted URL they come from or if they are the
default ones, and whatever builder calls follow: see `WellFormed`.  They ask for
multi-version concurrency control when the last setting of the journal mode did.  A URL
alone gives encryption settings when it has both parameters for them, sync settings with a
remote URL only, and never a value for `auto_vacuum`. -/
theorem options_stay_well_formed (crate : UrlCrate) (origin : OptionsOrigin)
    (calls : List Builder) {process after : Process} {options : TursoConnectOptions}
    (built : origin.build crate calls process = (.ok options, after)) :
    options.WellFormed ∧
      (options.getMvcc = true ↔ ∃ value,
        (origin.journalModes crate ++ calls.filterMap Builder.journalMode).getLast? =
          some (some value) ∧ isMvccValue value = true) ∧
      ∀ url, origin = .url url → calls = [] →
        (options.encryption.isSome = true ↔
          (∃ cipher, ("encryption_cipher", cipher) ∈ urlPairs crate url) ∧
            ∃ hexkey, ("encryption_hexkey", hexkey) ∈ urlPairs crate url) ∧
        (∀ sync ∈ options.sync, sync.remoteUrl ≠ "") ∧
        ∀ value, ("auto_vacuum", some value) ∉ options.pragmas := by
  rw [OptionsOrigin.build, Fallible.run_bind] at built
  rcases started : origin.start crate process with ⟨_ | start, later⟩
  · rw [started] at built
    cases built
  rw [started] at built
  have isLast : (Builder.applyAll calls start later).1 = options :=
    Except.ok.inj (congrArg Prod.fst built)
  have wellFormed : start.WellFormed ∧
      start.getMvcc = lastIsMvcc (origin.journalModes crate) false := by
    cases origin with
    | default =>
        cases started
        exact ⟨TursoConnectOptions.wellFormed_keep.default process, rfl⟩
    | url text =>
        have kept : (TursoConnectOptions.fromStr crate text).Ensures
            TursoConnectOptions.WellFormed := fromStr_keeps TursoConnectOptions.wellFormed_keep text
        exact ⟨kept _ _ _ started, url_getMvcc (congrArg Prod.fst started)⟩
  refine ⟨?_, ?_, ?_⟩
  · rw [← isLast]
    exact Builder.applyAll_keeps TursoConnectOptions.wellFormed_keep calls wellFormed.1 later
  · rw [← isLast, applyAll_getMvcc, wellFormed.2, ← lastIsMvcc_append]
    exact lastIsMvcc_iff _
  · intro url isUrl noCalls
    subst isUrl noCalls
    cases isLast
    exact url_alone (congrArg Prod.fst started)

end Results

/-- A URL that asks for multi-version concurrency control, in capitals. -/
def mvccUrl : Bytes := utf8 "turso:app.db?journal_mode=MVCC"

theorem mvcc_url_stays_well_formed :
    ∃ options, ((OptionsOrigin.url mvccUrl).build (PlainUrls.crate (utf8 "turso"))
        [.pragma "cache_size" (some "100"), .vfs "unix"] ⟨0, 0⟩).1 = .ok options ∧
      options.WellFormed ∧ options.getMvcc = true := by
  rcases ran : (OptionsOrigin.url mvccUrl).build (PlainUrls.crate (utf8 "turso"))
    [.pragma "cache_size" (some "100"), .vfs "unix"] ⟨0, 0⟩ with ⟨_ | options, after⟩
  · have accepted : ((OptionsOrigin.url mvccUrl).build (PlainUrls.crate (utf8 "turso"))
        [.pragma "cache_size" (some "100"), .vfs "unix"] ⟨0, 0⟩).1.isOk = true := by
      decide +kernel
    rw [ran] at accepted
    cases accepted
  · obtain ⟨wellFormed, isMvcc, _⟩ := options_stay_well_formed _ _ _ ran
    exact ⟨options, rfl, wellFormed, isMvcc.mpr ⟨"MVCC", by decide +kernel, by decide⟩⟩

end SqlxTurso
