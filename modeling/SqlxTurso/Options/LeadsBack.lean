import SqlxTurso.Library.PlainUrls
import SqlxTurso.Library.UrlRoundTrip
import SqlxTurso.Options.QueryPairs
import SqlxTurso.Options.Repeated

/-!
# From options to a URL and back

A connection URL leads back when writing it does not panic and reading it gives
options with the same target.  In-memory options never come that far: the text
that is built for them starts with a colon, which the parser refuses.  For a file
the question is which paths come back, and the result answers it.
-/

namespace SqlxTurso

open Library Percent

/-- Two targets are the same database: the same file, or in memory both. -/
def TursoDatabaseTarget.Same : TursoDatabaseTarget → TursoDatabaseTarget → Prop
  | .memory _, .memory _ => True
  | .file path, .file other => path = other
  | _, _ => False

section Target

/-- The target is as it was, or it is in memory. -/
def KeepsTarget (target : TursoDatabaseTarget) (options : TursoConnectOptions) : Prop :=
  options.target = target ∨ options.target.isMemory = true

/-- A query setting keeps the target, unless it asks for memory. -/
theorem QuerySetting.apply_target {target : TursoDatabaseTarget} (setting : QuerySetting)
    (state : QueryState) (process : Process) (kept : KeepsTarget target state.options) :
    KeepsTarget target (setting.apply state process).1.options := by
  unfold QuerySetting.apply
  split
  next => exact .inr rfl
  next =>
    have same := (setting.change_target state).1
    rcases kept with isTarget | isMemory
    · exact .inl (same.trans isTarget)
    · exact .inr ((congrArg _ same).trans isMemory)

namespace TursoConnectOptions

variable {crate : UrlCrate}

theorem applyQueryParams_target (options : TursoConnectOptions) (params : Bytes) :
    (options.applyQueryParams crate params).Ensures (KeepsTarget options.target) :=
  applyQueryParams_keeps QuerySetting.apply_target (fun _ _ _ kept => kept) (.inl rfl) params

end TursoConnectOptions

end Target

namespace TursoConnectOptions

variable (crate : UrlCrate)

/-- The query after the pairs have been appended to it. -/
def joinedQuery (query : Option Bytes) (pairs : List (String × String)) : Option Bytes :=
  pairs.foldl (fun query pair =>
    some (UrlCrate.joinPair query (crate.writePair pair.1 pair.2))) query

/-- The text that is read as parameters: the joined query, and a fragment after it. -/
def paramsText (query fragment : Option Bytes) (pairs : List (String × String)) : Bytes :=
  (joinedQuery crate query pairs).getD [] ++ (fragment.map (hash :: ·)).getD []

/-- Options for the file, with the parameters applied. -/
def fileWithParams (path : String) (params : Bytes) :
    Fallible TursoConnectOptions := do
  let base ← default
  (base.filename path).applyQueryParams crate params

/-- The parameters that are read from the text are accepted for a file. -/
def ParamsAccepted (params : Bytes) : Prop := AcceptedForFile (crate.parsePairs params)

section Reading

variable {crate}

variable (crate) in
theorem fileWithParams_forget (path : String) (params : Bytes) (process : Process) :
    (fileWithParams crate path params process).1.map forget = (do
      let _ ← QuerySetting.readAll (crate.parsePairs params)
      finishQuery ((crate.parsePairs params).foldl QuerySetting.turn
        ⟨blankOptions.filename path, none, none, none⟩)) :=
  applyQueryParams_forget ((default.run process).1.filename path) params (default.run process).2

/-- Options for a file are given exactly when the parameters are accepted. -/
theorem fileWithParams_gives_iff (path : String) (params : Bytes) :
    (fileWithParams crate path params).Gives (·.target = .file path) ↔
      ParamsAccepted crate params := by
  have isFile : (blankOptions.filename path).target = .file path := rfl
  rw [ParamsAccepted, ← acceptedForFile_iff isFile]
  constructor
  · intro gives
    obtain ⟨value, after, ran, stays⟩ := gives ⟨0, 0⟩
    have parsed := fileWithParams_forget crate path params ⟨0, 0⟩
    rw [ran] at parsed
    exact ⟨value.forget, parsed.symm, congrArg TursoDatabaseTarget.forget stays⟩
  · rintro ⟨options, finished, stays⟩ process
    have parsed := fileWithParams_forget crate path params process
    rw [finished] at parsed
    rcases ran : fileWithParams crate path params process with ⟨_ | value, after⟩
    · rw [ran] at parsed
      cases parsed
    · rw [ran] at parsed
      obtain rfl := Except.ok.inj parsed
      exact ⟨value, after, rfl, TursoDatabaseTarget.eq_file_of_forget stays⟩

theorem foldl_appendPair (standard : crate.Standard (utf8 "turso")) (url : Url)
    (pairs : List (String × String)) :
    pairs.foldl (fun url pair => crate.appendPair url pair.1 pair.2) url =
      { url with query := joinedQuery crate url.query pairs } := by
  induction pairs generalizing url with
  | nil => rfl
  | cons pair pairs ih =>
      rw [List.foldl_cons, ih, standard.appendPair_eq]
      rfl

theorem joinedQuery_some {query : Bytes} (notEmpty : query ≠ []) (pairs : List (String × String)) :
    joinedQuery crate (some query) pairs =
      some (query ++ pairs.flatMap fun pair =>
        ampersand :: crate.writePair pair.1 pair.2) := by
  induction pairs generalizing query with
  | nil => simp [joinedQuery]
  | cons pair pairs ih =>
      cases query with
      | nil => exact absurd rfl notEmpty
      | cons byte rest =>
          have step : joinedQuery crate (some (byte :: rest)) (pair :: pairs) =
              joinedQuery crate
                (some (byte :: rest ++ ampersand :: crate.writePair pair.1 pair.2)) pairs := rfl
          rw [step, ih (by simp)]
          simp

theorem intercalate_eq (first : Bytes) (others : List Bytes) :
    [ampersand].intercalate (first :: others) =
      first ++ others.flatMap (ampersand :: ·) := by
  induction others generalizing first with
  | nil => simp [List.intercalate]
  | cons next others ih =>
      rw [List.intercalate_cons_cons, ih]
      simp

/-- Parameters that nothing stands before are read as they were appended. -/
theorem parsePairs_paramsText (standard : crate.Standard (utf8 "turso"))
    {pairs : List (String × String)} (notEmpty : pairs ≠ []) :
    crate.parsePairs (paramsText crate none none pairs) = pairs := by
  cases pairs with
  | nil => exact absurd rfl notEmpty
  | cons pair pairs =>
      have written := @joinedQuery_some crate _ (standard.writePair_ne_nil pair.1 pair.2) pairs
      have inverse := standard.parsePairs_eq (pair :: pairs)
      rw [List.map_cons, intercalate_eq] at inverse
      have text : paramsText crate none none (pair :: pairs) =
          crate.writePair pair.1 pair.2 ++ (pairs.map fun pair =>
            crate.writePair pair.1 pair.2).flatMap (ampersand :: ·) := by
        have step : joinedQuery crate none (pair :: pairs) =
            joinedQuery crate (some (crate.writePair pair.1 pair.2)) pairs := rfl
        rw [paramsText, step, written, List.flatMap_map]
        simp
      rw [text, inverse]

theorem queryPairs_ne_nil (options : TursoConnectOptions) : options.queryPairs ≠ [] := by
  simp [queryPairs]

/-- How a URL with parameters is read: up to the first question mark it is the
database. -/
theorem fromUrl_eq {url : Url} {query : Bytes} (isTurso : url.scheme = utf8 "turso")
    (hasQuery : url.query = some query) (noQuestion : question ∉ url.authority ++ url.path) :
    fromUrl crate url =
      fromDbAndParams crate (url.authority ++ url.path) (some (url.queryText query)) := by
  have start : utf8 "turso://" = utf8 "turso" ++ schemeEnd := by decide
  have text : url.asStr.dropPrefix? (utf8 "turso://") =
      some (url.authority ++ url.path ++ question :: url.queryText query) := by
    rw [List.dropPrefix?_eq_some_iff]
    refine ⟨utf8 "turso://", ?_, by simp⟩
    rw [Url.asStr, hasQuery, isTurso, start]
  have plain : ∀ byte ∈ url.authority ++ url.path, (byte != question) = true := by
    intro byte isByte
    simp only [bne_iff_ne]
    rintro rfl
    exact noQuestion isByte
  simp only [fromUrl, fromStr, text, Option.some_or, List.takeWhile_append_of_pos plain,
    List.dropWhile_append_of_pos plain]
  simp

theorem fromDbAndParams_eq (standard : crate.Standard (utf8 "turso")) {database : Bytes}
    (notMemory : database ≠ utf8 ":memory:") (params : Bytes) :
    fromDbAndParams crate database (some params) =
      match decodeUtf8 (decode database) with
      | some path => fileWithParams crate path params
      | none => default >>= fun _ => refuse (.config .utf8) := by
  rw [fromDbAndParams, standard.percentDecode_eq]
  by_cases isEmpty : database = []
  · subst isEmpty
    have nothing : decodeUtf8 (decode []) = some "" := decodeUtf8_utf8 ""
    rw [nothing]
    rfl
  · simp only [if_neg isEmpty, if_neg notMemory]
    cases decodeUtf8 (decode database) <;> rfl

theorem same_file_iff {path : String} {target : TursoDatabaseTarget} :
    TursoDatabaseTarget.Same (.file path) target ↔ target = .file path := by
  cases target with
  | memory name => simp [TursoDatabaseTarget.Same]
  | file other => simp [TursoDatabaseTarget.Same, eq_comm]

/-- What a URL with parameters leads to a file by: its database is the escaped
path, and the parameters are accepted for the file. -/
theorem fromDbAndParams_gives_iff (standard : crate.Standard (utf8 "turso")) {database : Bytes}
    {path : String} (notMemory : database ≠ utf8 ":memory:") (params : Bytes) :
    (fromDbAndParams crate database (some params)).Gives
        (fun back => TursoDatabaseTarget.Same (.file path) back.target) ↔
      decode database = utf8 path ∧ ParamsAccepted crate params := by
  simp only [fromDbAndParams_eq standard notMemory, same_file_iff]
  cases read : decodeUtf8 (decode database) with
  | none =>
      constructor
      · intro gives
        obtain ⟨value, after, ran, -⟩ := gives ⟨0, 0⟩
        cases ran
      · rintro ⟨same, -⟩
        rw [same, decodeUtf8_utf8] at read
        cases read
  | some other =>
      have isOther := utf8_of_decodeUtf8 read
      by_cases same : other = path
      · subst same
        rw [← fileWithParams_gives_iff other]
        exact ⟨fun gives => ⟨isOther.symm, gives⟩, fun accepted => accepted.2⟩
      · constructor
        · intro gives
          have kept : (fileWithParams crate other params).Ensures (KeepsTarget (.file other)) :=
            (Fallible.Ensures.trivial _).bind fun base _ =>
              applyQueryParams_target (base.filename other) params
          obtain ⟨value, after, ran, isFile⟩ := gives ⟨0, 0⟩
          rcases kept _ _ _ ran with isOther | memory
          · rw [isFile] at isOther
            cases isOther
            exact absurd rfl same
          · rw [isFile] at memory
            cases memory
        · rintro ⟨isPath, -⟩
          exact absurd (utf8_injective (isOther.trans isPath)) same

/-- The name of the in-memory database leads to no file. -/
theorem not_gives_memory (path : String) (params : Bytes) :
    ¬ (fromDbAndParams crate (utf8 ":memory:") (some params)).Gives
        (fun back => TursoDatabaseTarget.Same (.file path) back.target) := by
  intro gives
  have notEmpty : utf8 ":memory:" ≠ [] := by decide
  have memory : (fromDbAndParams crate (utf8 ":memory:") (some params)).Ensures
      fun back => back.target.isMemory = true := by
    simp only [fromDbAndParams, if_neg notEmpty, ↓reduceIte]
    refine (Fallible.Ensures.trivial _).bind fun base _ => ?_
    have inMemory : Fallible.Ensures (base.inMemory true : Fallible TursoConnectOptions)
        fun options => options.target.isMemory = true := by
      rintro process options after ran
      cases ran
      rfl
    refine inMemory.bind fun options isMemory => ?_
    refine (applyQueryParams_target options params).mono fun back kept => ?_
    rcases kept with same | stays
    · exact same ▸ isMemory
    · exact stays
  obtain ⟨value, after, ran, isFile⟩ := gives ⟨0, 0⟩
  have isMemory : value.target.isMemory = true := memory _ _ _ ran
  rw [same_file_iff.mp isFile] at isMemory
  cases isMemory

/-- The loop starts from options without parameters. -/
theorem default_filename_unset (process : Process) (path : String) :
    ((default.run process).1.filename path).Unset :=
  ⟨rfl, rfl, rfl, rfl, rfl, rfl, rfl⟩

/-- Parameters that nothing stands before restore the options that they are of. -/
theorem fileWithParams_restored (standard : crate.Standard (utf8 "turso"))
    {options : TursoConnectOptions} {path : String} (isFile : options.target = .file path)
    (readable : options.SyncReadable) (process : Process) :
    fileWithParams crate path (paramsText crate none none options.queryPairs) process =
      (.ok (options.restored ((default.run process).1.filename path)),
        (default.run process).2) := by
  have pairs := parsePairs_paramsText standard (queryPairs_ne_nil options)
  have accepted := (applyQueryParams_queryPairs isFile
    (default_filename_unset process path) pairs).1 readable
  have run : fileWithParams crate path (paramsText crate none none options.queryPairs) process =
      (pure (options.restored ((default.run process).1.filename path)) :
        Fallible TursoConnectOptions) (default.run process).2 := by
    rw [← accepted]
    rfl
  exact run

/-- Parameters that nothing stands before are accepted when the sync settings are
readable. -/
theorem paramsAccepted_iff (standard : crate.Standard (utf8 "turso"))
    {options : TursoConnectOptions} {path : String} (isFile : options.target = .file path) :
    ParamsAccepted crate (paramsText crate none none options.queryPairs) ↔
      options.SyncReadable := by
  have pairs := parsePairs_paramsText standard (queryPairs_ne_nil options)
  rw [← fileWithParams_gives_iff path]
  constructor
  · intro gives
    by_contra unreadable
    obtain ⟨error, refused⟩ := (applyQueryParams_queryPairs isFile
      (default_filename_unset ⟨0, 0⟩ path) pairs).2 unreadable
    obtain ⟨value, after, ran, -⟩ := gives ⟨0, 0⟩
    have run : fileWithParams crate path (paramsText crate none none options.queryPairs) ⟨0, 0⟩ =
        (refuse error : Fallible TursoConnectOptions) (default.run ⟨0, 0⟩).2 := by
      rw [← refused]
      rfl
    rw [run] at ran
    cases ran
  · intro readable process
    exact ⟨_, _, fileWithParams_restored standard isFile readable process, rfl⟩

end Reading

/-- The connection URL leads back: it is built without a panic, and reading it
gives options for the same target. -/
def LeadsBack (options : TursoConnectOptions) : Prop :=
  ∃ url, options.toUrlLossy crate = some url ∧
    (fromUrl crate url).Gives fun back => options.target.Same back.target

/-- The parts that a rooted path leaves for a query and a fragment: what follows
its slashes, when that is a question mark or a hash. -/
def leftover (path : Bytes) : Parts := cut (received (withoutSlashes path))

/-- When a connection URL leads back.  In-memory options never do.  A relative
path has to come back from the parser and a rooted one from the setter of the
path, and the parameters have to be accepted: without a query or fragment that
the path left in the URL, the sync settings have to be readable. -/
def Returns (options : TursoConnectOptions) : Prop :=
  match options.target with
  | .memory _ => False
  | .file path =>
      if isAbsolute (utf8 path) then
        RootedStands (utf8 path) ∧
          if (leftover (utf8 path)).query = none ∧ (leftover (utf8 path)).fragment = none then
            options.SyncReadable
          else
            ParamsAccepted crate
              (paramsText crate ((leftover (utf8 path)).query.map crate.writeQuery)
                ((leftover (utf8 path)).fragment.map crate.writeFragment) options.queryPairs)
      else TextStands crate (utf8 path) ∧ options.SyncReadable

section Result

variable {crate}

/-- The path of a URL after the setter, which is called for rooted paths. -/
def openedPath (crate : UrlCrate) (url : Url) (path : Bytes) : Bytes :=
  if isAbsolute path then writePath crate.pathSet (withoutIgnored path) else url.path

theorem openedUrl_eq (standard : crate.Standard (utf8 "turso")) (url : Url) (path : Bytes) :
    (if isAbsolute path then crate.setPath url path else url) =
      { url with path := openedPath crate url path } := by
  rw [openedPath]
  split
  next rooted => exact standard.setPath_eq url path (by simpa [isAbsolute] using rooted)
  next => rfl

theorem joinedQuery_isSome (query : Option Bytes) {pairs : List (String × String)}
    (notEmpty : pairs ≠ []) : ∃ joined, joinedQuery crate query pairs = some joined := by
  induction pairs generalizing query with
  | nil => exact absurd rfl notEmpty
  | cons pair pairs ih =>
      cases pairs with
      | nil => exact ⟨_, rfl⟩
      | cons next pairs => exact ih _ (by simp)

/-- A URL is built when the parser accepts the text of the path, and it is read up to its
question mark as the database. -/
theorem exists_printed (standard : crate.Standard (utf8 "turso"))
    {options : TursoConnectOptions} {path : String} (isFile : options.target = .file path)
    {url : Url} (opened : crate.parseParts (utf8 "turso") (withoutSlashes (utf8 path)) = some url) :
    ∃ printed, options.toUrlLossy crate = some printed ∧
      printed.query = joinedQuery crate url.query options.queryPairs ∧
      fromUrl crate printed =
        fromDbAndParams crate (url.authority ++ openedPath crate url (utf8 path))
          (some (paramsText crate url.query url.fragment options.queryPairs)) := by
  have start : utf8 "turso://" = utf8 "turso" ++ schemeEnd := by decide
  have parsed : crate.parse (utf8 "turso://" ++ (utf8 path).dropWhile (· == slash)) =
      some url := by
    rw [start, standard.parse_eq]
    exact opened
  obtain ⟨isTurso, noSeparator, noQuestion⟩ := standard.parseParts_written opened
  obtain ⟨query, joined⟩ : ∃ query, joinedQuery crate url.query options.queryPairs =
      some query := joinedQuery_isSome url.query (queryPairs_ne_nil options)
  have written := openedUrl_eq standard url (utf8 path)
  have plain : question ∉ url.authority ++ openedPath crate url (utf8 path) := by
    rw [List.mem_append]
    rintro (inAuthority | inPath)
    · exact absurd (noSeparator _ inAuthority) (by decide)
    · rw [openedPath] at inPath
      split at inPath
      · exact standard.question_not_mem_writePath _ inPath
      · exact noQuestion inPath
  have read : fromUrl crate { url with
      path := openedPath crate url (utf8 path), query := some query } = _ :=
    fromUrl_eq isTurso rfl plain
  have text : paramsText crate url.query url.fragment options.queryPairs =
      Url.queryText { url with
        path := openedPath crate url (utf8 path), query := some query } query := by
    rw [paramsText, joined]
    rfl
  refine ⟨_, ?_, joined.symm, read.trans (by rw [text])⟩
  simp only [toUrlLossy, buildUrl, urlPath, isFile, parsed, TursoDatabaseTarget.isMemory,
    Bool.not_false, Bool.true_and, foldl_appendPair standard, Option.map_some, written, joined]

theorem toUrlLossy_of_refused (standard : crate.Standard (utf8 "turso"))
    {options : TursoConnectOptions} {path : String} (isFile : options.target = .file path)
    (refused : crate.parseParts (utf8 "turso") (withoutSlashes (utf8 path)) = none) :
    options.toUrlLossy crate = none := by
  have start : utf8 "turso://" = utf8 "turso" ++ schemeEnd := by decide
  have parsed : crate.parse (utf8 "turso://" ++ (utf8 path).dropWhile (· == slash)) = none := by
    rw [start, standard.parse_eq]
    exact refused
  simp only [toUrlLossy, buildUrl, urlPath, isFile, parsed, Option.map_none]

/-- A path that the parser accepts is not read as the in-memory database. -/
theorem database_ne_memory (standard : crate.Standard (utf8 "turso")) {path database : Bytes}
    {url : Url} (opened : crate.parseParts (utf8 "turso") (withoutSlashes path) = some url)
    (back : decode database = path) : database ≠ utf8 ":memory:" := by
  rintro rfl
  have same : utf8 ":memory:" = path := by
    rw [← back]
    decide
  have starts : firstSegment (received (withoutSlashes (utf8 ":memory:"))) =
      colon :: utf8 "memory:" := by decide
  rw [← same, standard.parseParts_colon starts (by decide)] at opened
  cases opened

theorem leadsBack_file_iff (standard : crate.Standard (utf8 "turso"))
    {options : TursoConnectOptions} {path : String} (isFile : options.target = .file path) :
    options.LeadsBack crate ↔
      ∃ url, crate.parseParts (utf8 "turso") (withoutSlashes (utf8 path)) = some url ∧
        decode (url.authority ++ openedPath crate url (utf8 path)) = utf8 path ∧
        ParamsAccepted crate (paramsText crate url.query url.fragment options.queryPairs) := by
  cases opened : crate.parseParts (utf8 "turso") (withoutSlashes (utf8 path)) with
  | none =>
      simp [LeadsBack, toUrlLossy_of_refused standard isFile opened]
  | some url =>
      obtain ⟨printed, isPrinted, _, read⟩ := exists_printed standard isFile opened
      simp only [LeadsBack, isPrinted, Option.some.injEq, exists_eq_left', read, isFile]
      by_cases memory : url.authority ++ openedPath crate url (utf8 path) = utf8 ":memory:"
      · constructor
        · intro gives
          rw [memory] at gives
          exact absurd gives (not_gives_memory path _)
        · rintro ⟨back, -⟩
          exact absurd memory (database_ne_memory standard opened back)
      · exact fromDbAndParams_gives_iff standard memory _

/-- The parameters of a path that has come back from the parser. -/
theorem plain_params_iff (standard : crate.Standard (utf8 "turso"))
    {options : TursoConnectOptions} {path : String} {url : Url}
    (isFile : options.target = .file path)
    (opened : crate.parseParts (utf8 "turso") (utf8 path) = some url)
    (back : decode (url.authority ++ url.path) = utf8 path) :
    ParamsAccepted crate (paramsText crate url.query url.fragment options.queryPairs) ↔
      options.SyncReadable := by
  have stands := (standard.comes_back_iff (utf8 path)).mp ⟨url, opened, back⟩
  obtain ⟨noQuery, noFragment⟩ := cut_of_textStands stands
  obtain ⟨isQuery, isFragment⟩ := UrlCrate.parseParts_rest opened
  rw [isQuery, isFragment, noQuery, noFragment]
  exact paramsAccepted_iff standard isFile

/-- The parameters of a rooted path, after what the path has left. -/
theorem rooted_params_iff (standard : crate.Standard (utf8 "turso"))
    {options : TursoConnectOptions} {path : String} {url : Url}
    (isFile : options.target = .file path)
    (opened : crate.parseParts (utf8 "turso") (withoutSlashes (utf8 path)) = some url) :
    ParamsAccepted crate (paramsText crate url.query url.fragment options.queryPairs) ↔
      if (leftover (utf8 path)).query = none ∧ (leftover (utf8 path)).fragment = none then
        options.SyncReadable
      else
        ParamsAccepted crate
          (paramsText crate ((leftover (utf8 path)).query.map crate.writeQuery)
            ((leftover (utf8 path)).fragment.map crate.writeFragment) options.queryPairs) := by
  obtain ⟨isQuery, isFragment⟩ := UrlCrate.parseParts_rest opened
  rw [isQuery, isFragment]
  split
  next nothing =>
      rw [leftover] at nothing
      rw [nothing.1, nothing.2]
      exact paramsAccepted_iff standard isFile
  next => rfl

/-- Building the URL of in-memory options panics: the text for the parser starts
with a colon. -/
theorem toUrlLossy_memory (standard : crate.Standard (utf8 "turso"))
    {options : TursoConnectOptions} {name : String} (isMemory : options.target = .memory name) :
    options.toUrlLossy crate = none := by
  have parsed : crate.parse (utf8 "turso://" ++ (utf8 ":memory:").dropWhile (· == slash)) =
      none := by
    have start : utf8 "turso://" = utf8 "turso" ++ schemeEnd := by decide
    have starts : firstSegment (received ((utf8 ":memory:").dropWhile (· == slash))) =
        colon :: utf8 "memory:" := by decide
    rw [start, standard.parse_eq]
    exact standard.parseParts_colon starts (by decide)
  simp [toUrlLossy, buildUrl, urlPath, isMemory, parsed]

/-- A connection URL leads back exactly when the options meet the condition. -/
theorem url_leads_back_iff (standard : crate.Standard (utf8 "turso"))
    (options : TursoConnectOptions) : options.LeadsBack crate ↔ options.Returns crate := by
  cases isTarget : options.target with
  | memory name =>
      have panics := toUrlLossy_memory standard isTarget
      simp [LeadsBack, Returns, isTarget, panics]
  | file path =>
      rw [leadsBack_file_iff standard isTarget]
      simp only [Returns, isTarget]
      by_cases rooted : isAbsolute (utf8 path) = true
      · rw [if_pos rooted, ← standard.setPath_comes_back_iff (by simpa [isAbsolute] using rooted)]
        simp only [openedPath, rooted, ↓reduceIte]
        constructor
        · rintro ⟨url, opened, back, accepted⟩
          refine ⟨⟨url, opened, back⟩, ?_⟩
          exact (rooted_params_iff standard isTarget opened).mp accepted
        · rintro ⟨⟨url, opened, back⟩, accepted⟩
          exact ⟨url, opened, back, (rooted_params_iff standard isTarget opened).mpr accepted⟩
      · have notRooted : (utf8 path).head? ≠ some slash := by simpa [isAbsolute] using rooted
        rw [if_neg rooted, withoutSlashes_of_not_rooted notRooted, ← standard.comes_back_iff]
        simp only [openedPath, rooted, Bool.false_eq_true, ↓reduceIte]
        constructor
        · rintro ⟨url, opened, back, accepted⟩
          refine ⟨⟨url, opened, back⟩, ?_⟩
          exact (plain_params_iff standard isTarget opened back).mp accepted
        · rintro ⟨⟨url, opened, back⟩, readable⟩
          exact ⟨url, opened, back,
            (plain_params_iff standard isTarget opened back).mpr readable⟩

/-- The standard, carried out for host names, and the options that a file name in
a directory makes of the default ones. -/
theorem nested_file_leads_back :
    (((default.run ⟨0, 0⟩).1).filename "data/app.db").LeadsBack
      (PlainUrls.crate (utf8 "turso")) := by
  rw [url_leads_back_iff (PlainUrls.standard (utf8 "turso"))]
  refine ⟨⟨?_, ?_⟩, ?_⟩
  · rw [HostStands, if_pos (by decide)]
    exact ⟨List.all_eq_true.mp (by decide), by decide, by decide⟩
  · have noEnd : (afterSegment (utf8 "data/app.db")).all (!endsPath ·) = true := by decide
    exact ⟨by simpa using List.all_eq_true.mp noEnd, by decide, by decide, by decide⟩
  · rintro sync isSync
    cases isSync

/-- The default options are in memory, and building their URL panics. -/
theorem default_url_panics :
    ((default.run ⟨0, 0⟩).1).toUrlLossy (PlainUrls.crate (utf8 "turso")) = none ∧
      ¬ ((default.run ⟨0, 0⟩).1).LeadsBack (PlainUrls.crate (utf8 "turso")) := by
  have panics := toUrlLossy_memory (PlainUrls.standard (utf8 "turso"))
    (rfl : ((default.run ⟨0, 0⟩).1).target = .memory _)
  refine ⟨panics, ?_⟩
  rintro ⟨url, built, -⟩
  rw [panics] at built
  cases built

end Result

end TursoConnectOptions

end SqlxTurso
