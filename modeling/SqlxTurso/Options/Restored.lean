import SqlxTurso.Options.LeadsBack
import SqlxTurso.Options.WellFormed

/-!
# Settings in a URL

What a URL of options holds.  Every setting that the printer writes is restored by the
parser.  The pragmas are not written, so they are the same again only for options that
have the default ones.
-/

namespace SqlxTurso

open Library Percent

namespace TursoConnectOptions

variable (crate : UrlCrate)

/-- The query that is written for the options, onto a URL without one. -/
def writtenQuery (options : TursoConnectOptions) : Bytes :=
  (joinedQuery crate none options.queryPairs).getD []

/-- The settings that a URL holds are the same. -/
structure KeepsSettings (options back : TursoConnectOptions) : Prop where
  openMode : back.openMode = options.openMode
  cacheMode : back.cacheMode = options.cacheMode
  immutable : back.immutable = options.immutable
  vfs : back.vfs = options.vfs
  encryption : back.encryption = options.encryption
  experimental : ∀ feature,
    back.experimentalFeatures.isEnabled feature = options.experimentalFeatures.isEnabled feature
  sync : back.sync = options.sync

/-- The pragmas that are executed when a connection is opened, in their order. -/
def executedPragmas (options : TursoConnectOptions) : List (String × String) :=
  options.pragmas.filterMap fun (name, value) => value.map ((name, ·))

/-- The URL of the options is built without a panic, and the options that it is read as
execute the same pragmas. -/
def KeepsPragmas (options : TursoConnectOptions) : Prop :=
  ∃ printed, options.toUrlLossy crate = some printed ∧
    (fromUrl crate printed).Gives fun back => back.executedPragmas = options.executedPragmas

section Settings

variable {crate}

/-- A timeout in whole milliseconds stays what it is. -/
theorem inMillis_eq {sync : TursoSyncOptions}
    (whole : ∀ timeout ∈ sync.longPollTimeout, ∃ millis < 2 ^ 64, timeout = .fromMillis millis) :
    sync.inMillis = sync := by
  rcases sync with ⟨remoteUrl, authToken, clientName, _ | timeout, bootstrapIfEmpty⟩
  · rfl
  · obtain ⟨millis, _, rfl⟩ := whole timeout rfl
    have same : Duration.asMillis (.fromMillis millis) = millis := by
      simp [Duration.asMillis, Duration.fromMillis]
    simp [TursoSyncOptions.inMillis, same]

theorem readable_of_whole {sync : TursoSyncOptions} (remoteUrl : sync.remoteUrl ≠ "")
    (whole : ∀ timeout ∈ sync.longPollTimeout, ∃ millis < 2 ^ 64, timeout = .fromMillis millis) :
    sync.Readable where
  remoteUrl := remoteUrl
  timeout := by
    intro timeout isTimeout
    obtain ⟨millis, small, rfl⟩ := whole timeout isTimeout
    simpa [Duration.asMillis, Duration.fromMillis] using small

theorem restored_keepsSettings {options base : TursoConnectOptions}
    (whole : ∀ sync ∈ options.sync, ∀ timeout ∈ sync.longPollTimeout,
      ∃ millis < 2 ^ 64, timeout = .fromMillis millis) :
    options.KeepsSettings (options.restored base) where
  openMode := rfl
  cacheMode := rfl
  immutable := rfl
  vfs := rfl
  encryption := rfl
  experimental := fun _ => rfl
  sync := by
    show options.sync.map TursoSyncOptions.inMillis = options.sync
    cases isSync : options.sync with
    | none => rfl
    | some sync => exact congrArg some (inMillis_eq (whole sync isSync))

theorem paramsText_eq_writtenQuery (options : TursoConnectOptions) :
    paramsText crate none none options.queryPairs = options.writtenQuery crate := by
  simp [paramsText, writtenQuery]

/-- The settings of options survive the query that is written for them, whatever options
these are: their sync settings, if any, need a remote URL and a timeout in whole
milliseconds.  The URL has this query, if the path leaves none in it. -/
theorem settings_survive_query (standard : crate.Standard (utf8 "turso"))
    {options : TursoConnectOptions} {path : String} (isFile : options.target = .file path)
    (syncWhole : ∀ sync ∈ options.sync, sync.remoteUrl ≠ "" ∧
      ∀ timeout ∈ sync.longPollTimeout, ∃ millis < 2 ^ 64, timeout = .fromMillis millis) :
    (∀ process, (((default.run process).1.filename path).applyQueryParams crate
        (options.writtenQuery crate)).Gives options.KeepsSettings) ∧
      ∀ printed, options.toUrlLossy crate = some printed →
        (leftover (utf8 path)).query = none →
          printed.query = some (options.writtenQuery crate) := by
  have pairs := parsePairs_paramsText standard (queryPairs_ne_nil options)
  constructor
  · intro process
    have readable : options.SyncReadable := fun sync isSync =>
      readable_of_whole (syncWhole sync isSync).1 (syncWhole sync isSync).2
    have accepted := (applyQueryParams_queryPairs isFile (default_filename_unset process path)
      pairs).1 readable
    rw [← paramsText_eq_writtenQuery, accepted]
    intro later
    exact ⟨_, later, rfl, restored_keepsSettings fun sync isSync => (syncWhole sync isSync).2⟩
  · intro printed isPrinted noQuery
    cases opened : crate.parseParts (utf8 "turso") (withoutSlashes (utf8 path)) with
    | none =>
        rw [toUrlLossy_of_refused standard isFile opened] at isPrinted
        cases isPrinted
    | some url =>
        obtain ⟨other, isOther, isJoined, _⟩ := exists_printed standard isFile opened
        have same : other = printed := Option.some.inj (isOther.symm.trans isPrinted)
        have urlQuery : url.query = none := by
          rw [(UrlCrate.parseParts_rest opened).1]
          exact congrArg (Option.map crate.writeQuery) noQuery
        obtain ⟨joined, isSome⟩ := @joinedQuery_isSome crate none _ (queryPairs_ne_nil options)
        rw [← same, isJoined, urlQuery, writtenQuery, isSome]
        rfl

end Settings

/-- Options with sync settings and a key, for a file that is only read. -/
def syncedOptions : TursoConnectOptions :=
  ((((default.run ⟨0, 0⟩).1.filename "app.db").readOnly true).withVfs "unix").withSyncOptions
    { remoteUrl := "https://db.example", longPollTimeout := some (.fromMillis 1500) }

theorem synced_settings_survive :
    (((default.run ⟨0, 0⟩).1.filename "app.db").applyQueryParams (PlainUrls.crate (utf8 "turso"))
      (syncedOptions.writtenQuery (PlainUrls.crate (utf8 "turso")))).Gives
        syncedOptions.KeepsSettings := by
  refine (settings_survive_query (PlainUrls.standard (utf8 "turso")) rfl ?_).1
    ⟨0, 0⟩
  rintro sync ⟨⟩
  refine ⟨by decide, ?_⟩
  rintro timeout ⟨⟩
  exact ⟨1500, by decide, rfl⟩

end TursoConnectOptions

/-! ## The pragmas of a URL -/

section Printed

open TursoConnectOptions

variable {crate : UrlCrate}

theorem foldlM_pushDigit_lt {digits : List Char} {number result : Nat}
    (isRead : digits.foldlM pushDigit number = .ok result) (small : number < 2 ^ 64) :
    result < 2 ^ 64 := by
  induction digits generalizing number with
  | nil =>
      cases isRead
      exact small
  | cons digit digits ih =>
      rw [List.foldlM_cons] at isRead
      cases pushed : pushDigit number digit with
      | error kind =>
          rw [pushed] at isRead
          cases isRead
      | ok next =>
          rw [pushed] at isRead
          refine ih isRead ?_
          unfold pushDigit at pushed
          split at pushed
          · dsimp only at pushed
            split at pushed
            next fits =>
              cases pushed
              exact fits
            next => cases pushed
          · cases pushed

/-- Numbers that are read have 64 bits at most. -/
theorem parseU64_lt {value : String} {number : Nat} (isRead : parseU64 value = .ok number) :
    number < 2 ^ 64 := by
  unfold parseU64 at isRead
  split at isRead
  · cases isRead
  · cases isRead
  · exact foldlM_pushDigit_lt isRead (by decide)
  · exact foldlM_pushDigit_lt isRead (by decide)

theorem read_timeout_lt {pair : String × String} {timeout : Duration}
    (isRead : QuerySetting.read pair = .ok (.syncLongPollTimeout timeout)) :
    timeout.asMillis < 2 ^ 64 := by
  rcases pair with ⟨key, value⟩
  have isKey : "sync_long_poll_timeout_ms" = key := QuerySetting.read_key isRead
  subst isKey
  change QuerySetting.readTimeout value = _ at isRead
  unfold QuerySetting.readTimeout at isRead
  split at isRead
  next millis parsed =>
    cases isRead
    simpa [Duration.asMillis, Duration.fromMillis] using parseU64_lt parsed
  next => cases isRead

/-- The timeouts of the loop are those of numbers that were read. -/
def Timely (state : QueryState) : Prop :=
  ∀ sync ∈ state.sync, ∀ timeout ∈ sync.longPollTimeout, timeout.asMillis < 2 ^ 64

theorem Timely.syncOrDefault {state : QueryState} (timely : Timely state) :
    ∀ timeout ∈ state.syncOrDefault.longPollTimeout, timeout.asMillis < 2 ^ 64 := by
  rw [QueryState.syncOrDefault]
  cases isSync : state.sync with
  | none =>
      intro timeout isTimeout
      cases isTimeout
  | some sync => exact timely sync isSync

theorem Timely.turn {state : QueryState} (timely : Timely state) (pair : String × String) :
    Timely (QuerySetting.turn state pair) := by
  cases isRead : QuerySetting.read pair with
  | error error =>
      rw [QuerySetting.turn, isRead]
      exact timely
  | ok setting =>
      rw [QuerySetting.turn_eq isRead]
      cases setting with
      | mode queryMode => cases queryMode <;> exact timely
      | syncRemoteUrl remoteUrl =>
          rintro sync ⟨⟩ timeout isTimeout
          cases isTimeout
      | syncAuthToken authToken =>
          rintro sync ⟨⟩
          exact timely.syncOrDefault
      | syncClientName clientName =>
          rintro sync ⟨⟩
          exact timely.syncOrDefault
      | syncLongPollTimeout timeout =>
          rintro sync ⟨⟩ other ⟨⟩
          exact read_timeout_lt isRead
      | syncBootstrapIfEmpty bootstrapIfEmpty =>
          rintro sync ⟨⟩
          exact timely.syncOrDefault
      | _ => exact timely

theorem final_timely (pairs : List (String × String)) {state : QueryState}
    (timely : Timely state) : Timely (pairs.foldl QuerySetting.turn state) := by
  induction pairs generalizing state with
  | nil => exact timely
  | cons pair pairs ih => exact ih (timely.turn pair)

/-- The sync settings of an accepted URL are accepted again when they are read back. -/
theorem url_syncReadable {url : Bytes} {process : Process} {options : TursoConnectOptions}
    (isOk : (fromStr crate url process).1 = .ok options) : options.SyncReadable := by
  obtain ⟨_, database, _, start, _, isStart, finished⟩ := finish_of_fromStr isOk
  have noSync := (final_unset (urlPairs crate url) isStart).2
  obtain ⟨same, remoteUrl⟩ := finishQuery_remoteUrl finished noSync
  have timely : Timely ((urlPairs crate url).foldl QuerySetting.turn ⟨start, none, none, none⟩) :=
    final_timely _ fun sync isSync => nomatch isSync
  intro sync isSync
  exact ⟨remoteUrl sync isSync, timely sync (same ▸ isSync)⟩

theorem turn_hasJournalMode (state : QueryState) (pair : String × String) :
    ((QuerySetting.turn state pair).options.pragmaValue "journal_mode").isSome =
      ((state.options.pragmaValue "journal_mode").isSome || decide (pair.1 = "journal_mode")) := by
  rcases pair with ⟨key, value⟩
  by_cases isJournalMode : key = "journal_mode"
  · subst isJournalMode
    obtain ⟨written, isPragma, _⟩ := turn_journal_mode state value
    rw [isPragma, pragmaValue_pragma, if_pos rfl]
    simp
  · rw [pragmaValue, turn_pragmas state isJournalMode, decide_eq_false isJournalMode,
      Bool.or_false]
    rfl

/-- The pragmas that every connection executes by default. -/
def executedByDefault : List (String × String) := [("foreign_keys", "ON")]

theorem executed_of_pragmaValue {options : TursoConnectOptions} {name value : String}
    (isValue : options.pragmaValue name = some value) : (name, value) ∈ options.executedPragmas := by
  rw [pragmaValue] at isValue
  obtain ⟨⟨found, held⟩, isFound, isHeld⟩ := Option.bind_eq_some_iff.mp isValue
  have sameName : found = name := by simpa using List.find?_some isFound
  subst sameName
  exact List.mem_filterMap.mpr ⟨(found, held), List.mem_of_find?_eq_some isFound,
    congrArg (Option.map ((found, ·))) isHeld⟩

/-- A URL without a journal mode leaves the pragmas at their defaults, and no other. -/
theorem url_executedPragmas_iff {url : Bytes} {process : Process} {options : TursoConnectOptions}
    (isOk : (fromStr crate url process).1 = .ok options) :
    options.executedPragmas = executedByDefault ↔
      ∀ pair ∈ urlPairs crate url, pair.1 ≠ "journal_mode" := by
  obtain ⟨_, database, _, start, _, isStart, finished⟩ := finish_of_fromStr isOk
  have samePragmas : options.pragmas =
      ((urlPairs crate url).foldl QuerySetting.turn ⟨start, none, none, none⟩).options.pragmas :=
    finishQuery_pragmas finished
  have startPragmas : start.pragmas = defaultPragmas := by
    obtain ⟨target, cacheMode, rfl⟩ := startOptions_blank isStart
    rfl
  constructor
  · intro isDefault pair isMember isJournalMode
    have raised := foldl_any
      (fun state : QueryState => (state.options.pragmaValue "journal_mode").isSome)
      (urlPairs crate url) (fun pair _ state => turn_hasJournalMode state pair)
      ⟨start, none, none, none⟩
    rw [List.any_eq_true.mpr ⟨pair, isMember, decide_eq_true isJournalMode⟩, Bool.or_true,
      pragmaValue, ← samePragmas] at raised
    obtain ⟨value, isValue⟩ := Option.isSome_iff_exists.mp raised
    have executed := executed_of_pragmaValue isValue
    rw [isDefault, executedByDefault, List.mem_singleton] at executed
    exact absurd (congrArg Prod.fst executed) (by decide : "journal_mode" ≠ "foreign_keys")
  · intro noJournalMode
    have kept := @foldl_kept _ _ _ QuerySetting.turn (·.options.pragmas) (urlPairs crate url)
      (fun pair isMember state => turn_pragmas state (noJournalMode pair isMember))
      ⟨start, none, none, none⟩
    rw [executedPragmas, samePragmas, kept, startPragmas]
    rfl

variable (crate) in
/-- The URL names a file by a relative path, which comes back from the parser of URLs. -/
structure NamesFile (url : Bytes) (path : String) : Prop where
  database : ∃ database params, urlParts url = some (database, params) ∧
    database ≠ utf8 ":memory:" ∧ decode database = utf8 path
  relative : isAbsolute (utf8 path) = false
  stands : TextStands crate (utf8 path)

theorem start_target (standard : crate.Standard (utf8 "turso")) {database : Bytes}
    {path : String} {start : TursoConnectOptions} (notMemory : database ≠ utf8 ":memory:")
    (isPath : decode database = utf8 path) (isStart : startOptions crate database = .ok start) :
    start.target = .file path := by
  unfold startOptions at isStart
  rw [standard.percentDecode_eq, isPath, decodeUtf8_utf8] at isStart
  split at isStart
  next isEmpty =>
    cases isStart
    rw [isEmpty] at isPath
    have noPath : path = "" := utf8_injective isPath.symm
    rw [noPath]
    rfl
  next =>
    cases isStart
    rfl

/-- The options are for the file, unless a parameter asks for memory mode. -/
theorem url_target (standard : crate.Standard (utf8 "turso")) {url : Bytes} {path : String}
    (named : NamesFile crate url path) {process : Process} {options : TursoConnectOptions}
    (isOk : (fromStr crate url process).1 = .ok options) :
    (("mode", "memory") ∈ urlPairs crate url → options.target.isMemory = true) ∧
      (("mode", "memory") ∉ urlPairs crate url → options.target = .file path) := by
  obtain ⟨_, database, params, start, parts, isStart, finished⟩ := finish_of_fromStr isOk
  obtain ⟨other, otherParams, otherParts, notMemory, isPath⟩ := named.database
  cases parts.symm.trans otherParts
  have isFile := start_target standard notMemory isPath isStart
  obtain ⟨encryption, sync, isLast⟩ := finishQuery_options finished
  have sameTarget : options.target.forget = ((urlPairs crate url).foldl QuerySetting.turn
      ⟨start, none, none, none⟩).options.target := congrArg (·.target) isLast
  constructor
  · intro isMember
    have raised := final_inMemory isMember ⟨start, none, none, none⟩
    rw [← sameTarget] at raised
    cases isTarget : options.target with
    | memory name => rfl
    | file path =>
        rw [isTarget] at raised
        cases raised
  · intro notMember
    have kept := final_target notMember ⟨start, none, none, none⟩
    exact TursoDatabaseTarget.eq_file_of_forget (sameTarget.trans (kept.trans isFile))

/-- The URL of options for such a file is built, and read as their settings for it. -/
theorem printed_gives (standard : crate.Standard (utf8 "turso")) {options : TursoConnectOptions}
    {path : String} (isFile : options.target = .file path)
    (relative : isAbsolute (utf8 path) = false) (stands : TextStands crate (utf8 path))
    (readable : options.SyncReadable) :
    ∃ printed, options.toUrlLossy crate = some printed ∧
      ∀ holds : TursoConnectOptions → Prop,
        (∀ process, holds (options.restored ((default.run process).1.filename path))) →
          (fromUrl crate printed).Gives holds := by
  have notRooted : (utf8 path).head? ≠ some slash := by simpa [isAbsolute] using relative
  obtain ⟨url, opened, back⟩ := (standard.comes_back_iff (utf8 path)).mpr stands
  obtain ⟨noQuery, noFragment⟩ := cut_of_textStands stands
  obtain ⟨isQuery, isFragment⟩ := UrlCrate.parseParts_rest opened
  rw [← withoutSlashes_of_not_rooted notRooted] at opened
  obtain ⟨printed, isPrinted, _, read⟩ := exists_printed standard isFile opened
  refine ⟨printed, isPrinted, fun holds held => ?_⟩
  have text : paramsText crate url.query url.fragment options.queryPairs =
      paramsText crate none none options.queryPairs := by
    rw [isQuery, isFragment, noQuery, noFragment]
    rfl
  have database : url.authority ++ openedPath crate url (utf8 path) =
      url.authority ++ url.path := by
    rw [openedPath, if_neg (by simp [relative])]
  have notMemory := database_ne_memory standard opened back
  rw [read, text, database, fromDbAndParams_eq standard notMemory, back, decodeUtf8_utf8]
  intro process
  exact ⟨_, _, fileWithParams_restored standard isFile readable process, held process⟩

/-- A URL for a file keeps the pragmas when it has no parameter for the journal mode, and
does not ask for memory mode.  The printer leaves the pragmas out, and panics on options in
memory. -/
theorem pragmas_survive_iff (standard : crate.Standard (utf8 "turso")) {url : Bytes}
    {path : String} (named : NamesFile crate url path) {process after : Process}
    {options : TursoConnectOptions}
    (accepted : fromStr crate url process = (.ok options, after)) :
    options.KeepsPragmas crate ↔
      ∀ pair ∈ urlPairs crate url, pair.1 ≠ "journal_mode" ∧ pair ≠ ("mode", "memory") := by
  have isOk : (fromStr crate url process).1 = .ok options := congrArg Prod.fst accepted
  obtain ⟨inMemory, isFile⟩ := url_target standard named isOk
  by_cases memory : ("mode", "memory") ∈ urlPairs crate url
  · have panics : options.toUrlLossy crate = none := by
      cases isTarget : options.target with
      | memory name => exact toUrlLossy_memory standard isTarget
      | file path =>
          have isMemory := inMemory memory
          rw [isTarget] at isMemory
          cases isMemory
    constructor
    · rintro ⟨printed, isPrinted, _⟩
      rw [panics] at isPrinted
      cases isPrinted
    · intro noMemory
      exact absurd rfl (noMemory _ memory).2
  · obtain ⟨printed, isPrinted, gives⟩ := printed_gives standard (isFile memory) named.relative
      named.stands (url_syncReadable isOk)
    have noMemory : ∀ pair ∈ urlPairs crate url, pair ≠ ("mode", "memory") :=
      fun pair isMember same => memory (same ▸ isMember)
    have byDefault := gives (·.executedPragmas = executedByDefault) fun _ => rfl
    constructor
    · rintro ⟨other, isOther, keeps⟩
      rw [isPrinted] at isOther
      cases isOther
      obtain ⟨back, later, isBack, same⟩ := keeps after
      obtain ⟨again, _, isAgain, isDefault⟩ := byDefault after
      cases isBack.symm.trans isAgain
      have noJournalMode := (url_executedPragmas_iff isOk).mp (same.symm.trans isDefault)
      exact fun pair isMember => ⟨noJournalMode pair isMember, noMemory pair isMember⟩
    · intro condition
      have isDefault := (url_executedPragmas_iff isOk).mpr fun pair isMember =>
        (condition pair isMember).1
      exact ⟨printed, isPrinted, isDefault ▸ byDefault⟩

end Printed

/-- The bytes of plain file names: letters, digits, dots, dashes and underscores. -/
def isPlainByte (byte : UInt8) : Bool :=
  (48 ≤ byte && byte ≤ 57) || (65 ≤ byte && byte ≤ 90) || (97 ≤ byte && byte ≤ 122) ||
    byte == dot || byte == 45 || byte == 95

theorem plainByte_stands {byte : UInt8} (plain : isPlainByte byte = true) :
    isMark byte = false ∧ isHostByte byte = true ∧ isIgnored byte = false ∧
      isBlank byte = false ∧ byte ≠ percentSign := by
  have allBytes : ∀ number : Fin 256, isPlainByte (UInt8.ofFin number) = true →
      isMark (UInt8.ofFin number) = false ∧ isHostByte (UInt8.ofFin number) = true ∧
        isIgnored (UInt8.ofFin number) = false ∧ isBlank (UInt8.ofFin number) = false ∧
        UInt8.ofFin number ≠ percentSign := by
    decide +kernel
  exact allBytes byte.toFin plain

/-- A plain file name comes back from every parser of URLs. -/
theorem plainName_stands (crate : UrlCrate) {name : Bytes}
    (plain : ∀ byte ∈ name, isPlainByte byte = true) : TextStands crate name := by
  have noSeparator : ∀ byte ∈ name, isSeparator byte = false := fun byte isByte =>
    PlainUrls.not_separator_of_hostByte (plainByte_stands (plain byte isByte)).2.1
  have parts := @firstSegment_append name [] noSeparator (by simp)
  rw [List.append_nil] at parts
  have seen : received name = name := by
    rw [received, List.rdropWhile_eq_self_iff.mpr, withoutIgnored, List.filter_eq_self]
    · intro byte isByte
      simp [(plainByte_stands (plain byte isByte)).2.2.1]
    · intro notEmpty
      simp [(plainByte_stands (plain _ (List.getLast_mem notEmpty))).2.2.2.1]
  have noSign : percentSign ∉ name := fun isByte =>
    (plainByte_stands (plain _ isByte)).2.2.2.2 rfl
  refine ⟨?_, ?_⟩
  · have isName : isName name = true := List.all_eq_true.mpr fun byte isByte => by
      simp [(plainByte_stands (plain byte isByte)).1]
    rw [parts.1, seen, parts.1, HostStands, if_pos isName]
    exact ⟨fun byte isByte => (plainByte_stands (plain byte isByte)).2.1,
      escapes_eq_zero noSign, rfl⟩
  · rw [parts.2]
    exact ⟨by simp, by decide, by decide, by decide⟩

theorem read_only_url_keeps_pragmas :
    ∃ options after, TursoConnectOptions.fromStr (PlainUrls.crate (utf8 "turso")) readOnlyUrl
        ⟨0, 0⟩ = (.ok options, after) ∧
      options.KeepsPragmas (PlainUrls.crate (utf8 "turso")) := by
  have named : NamesFile (PlainUrls.crate (utf8 "turso")) readOnlyUrl "app.db" :=
    { database := ⟨utf8 "app.db", some (utf8 "mode=ro&cache=shared"), by decide +kernel,
        by decide, by decide⟩
      relative := by decide
      stands := plainName_stands _ (by decide +kernel) }
  have pairs : urlPairs (PlainUrls.crate (utf8 "turso")) readOnlyUrl =
      [("mode", "ro"), ("cache", "shared")] := by decide +kernel
  rcases read : TursoConnectOptions.fromStr (PlainUrls.crate (utf8 "turso")) readOnlyUrl
    ⟨0, 0⟩ with ⟨_ | options, after⟩
  · have accepted : (TursoConnectOptions.fromStr (PlainUrls.crate (utf8 "turso")) readOnlyUrl
        ⟨0, 0⟩).1.isOk = true := by decide +kernel
    rw [read] at accepted
    cases accepted
  · refine ⟨options, after, rfl, ?_⟩
    refine (pragmas_survive_iff (PlainUrls.standard _) named read).mpr ?_
    rw [pairs]
    decide

/-- A URL that asks for multi-version concurrency control. -/
def plainMvccUrl : Bytes := utf8 "turso:app.db?journal_mode=mvcc"

theorem plainMvccUrl_namesFile :
    NamesFile (PlainUrls.crate (utf8 "turso")) plainMvccUrl "app.db" where
  database := ⟨utf8 "app.db", some (utf8 "journal_mode=mvcc"), by decide +kernel,
    by decide, by decide⟩
  relative := by decide
  stands := plainName_stands _ (by decide +kernel)

/-- The URL is accepted and asks for the mode, and the URL of its options does not. -/
theorem journal_mode_is_dropped :
    NamesFile (PlainUrls.crate (utf8 "turso")) plainMvccUrl "app.db" ∧
      ∃ options after, TursoConnectOptions.fromStr (PlainUrls.crate (utf8 "turso")) plainMvccUrl
          ⟨0, 0⟩ = (.ok options, after) ∧
        ("journal_mode", "'mvcc'") ∈ options.executedPragmas ∧
        ¬ options.KeepsPragmas (PlainUrls.crate (utf8 "turso")) := by
  have evaluated : ((TursoConnectOptions.fromStr (PlainUrls.crate (utf8 "turso")) plainMvccUrl
      ⟨0, 0⟩).1.toOption.map fun options =>
        (options.executedPragmas, (options.toUrlLossy (PlainUrls.crate (utf8 "turso"))).map
          fun printed => (TursoConnectOptions.fromUrl (PlainUrls.crate (utf8 "turso")) printed
            ⟨0, 0⟩).1.toOption.map (·.executedPragmas))) =
      some ([("journal_mode", "'mvcc'"), ("foreign_keys", "ON")],
        some (some [("foreign_keys", "ON")])) := by
    decide +kernel
  refine ⟨plainMvccUrl_namesFile, ?_⟩
  rcases read : TursoConnectOptions.fromStr (PlainUrls.crate (utf8 "turso")) plainMvccUrl
    ⟨0, 0⟩ with ⟨_ | options, after⟩
  · rw [read] at evaluated
    cases evaluated
  · rw [read] at evaluated
    obtain ⟨executed, printedAgain⟩ := Prod.mk.inj (Option.some.inj evaluated)
    refine ⟨options, after, rfl, executed ▸ .head _, ?_⟩
    rintro ⟨printed, isPrinted, keeps⟩
    obtain ⟨back, later, isBack, same⟩ := keeps ⟨0, 0⟩
    rw [isPrinted, Option.map_some, isBack] at printedAgain
    have backExecuted : back.executedPragmas = [("foreign_keys", "ON")] :=
      Option.some.inj (Option.some.inj printedAgain)
    rw [backExecuted, executed] at same
    exact absurd same (by decide)

end SqlxTurso
