import Mathlib.Algebra.Group.Nat.Defs
import SqlxTurso.Library.Url
import SqlxTurso.Options.Fallible

/-!
# Connection URLs

Options are read from a URL and written to one.  URLs are texts of bytes, and the
library that parses and writes them is a parameter.
-/

namespace SqlxTurso

open Library

/-- The text of a value in an error message, with the escapes of Rust's `Debug` for quotes,
backslashes and control characters. -/
def debugText (value : String) : String :=
  let escape (char : Char) : String :=
    match char with
    | '"' => "\\\""
    | '\\' => "\\\\"
    | '\n' => "\\n"
    | '\r' => "\\r"
    | '\t' => "\\t"
    | _ =>
        let code := char.toNat
        if code = 0 then "\\0"
        else if code < 32 || 127 ≤ code && code < 160 then
          "\\u\x7b" ++ String.ofList (Nat.toDigits 16 code) ++ "\x7d"
        else char.toString
  "\"" ++ String.join (value.toList.map escape) ++ "\""

def unknownValue (value name : String) : SqlxError :=
  configError ("unknown value " ++ debugText value ++ " for `" ++ name ++ "`")

/-- The characters of a PRAGMA value, without the quotes around it. -/
def normalizedPragmaValue (value : String) : List Char :=
  let isQuote (char : Char) : Bool := char == '\'' || char == '"'
  ((value.toList.dropWhile isQuote).reverse.dropWhile isQuote).reverse

def eqIgnoreAsciiCase (first second : List Char) : Bool :=
  first.map Char.toLower == second.map Char.toLower

def parseBool (name value : String) : Fallible Bool :=
  match value with
  | "true" | "1" => return true
  | "false" | "0" => return false
  | _ => refuse (unknownValue value name)

/-- One more digit of a 64-bit number. -/
def pushDigit (number : Nat) (char : Char) : Except IntErrorKind Nat :=
  if char.isDigit then
    let next := 10 * number + (char.toNat - '0'.toNat)
    if next < 2 ^ 64 then .ok next else .error .posOverflow
  else .error .invalidDigit

/-- `str::parse::<u64>`: digits, with a plus sign before them at most. -/
def parseU64 (value : String) : Except IntErrorKind Nat :=
  match value.toList with
  | [] => .error .empty
  | ['+'] => .error .invalidDigit
  | '+' :: digits => digits.foldlM pushDigit 0
  | digits => digits.foldlM pushDigit 0

def parseExperimentalFeature (feature : String) : Except SqlxError TursoExperimentalFeature :=
  match feature with
  | "attach" => .ok .attach
  | "custom_types" => .ok .customTypes
  | "generated_columns" => .ok .generatedColumns
  | "index_method" => .ok .indexMethod
  | "views" | "materialized_views" => .ok .materializedViews
  | "multiprocess_wal" => .ok .multiprocessWal
  | "vacuum" => .ok .vacuum
  | "without_rowid" => .ok .withoutRowid
  | _ => .error (configError ("unknown Turso experimental feature `" ++ feature ++ "`"))

/-- The features named in a value, between its commas. -/
def featureNames (value : String) : List String :=
  ((value.toList.splitOn ',').filter (· ≠ [])).map String.ofList

/-- The variables of the loop over the query parameters. -/
structure QueryState where
  options : TursoConnectOptions
  encryptionCipher : Option String
  encryptionHexkey : Option String
  sync : Option TursoSyncOptions
  deriving DecidableEq

namespace QueryState

variable (state : QueryState)

def withOptions (options : TursoConnectOptions) : QueryState := { state with options }

/-- The sync settings so far, to be changed by a parameter. -/
def syncOrDefault : TursoSyncOptions := state.sync.getD {}

def withSync (sync : TursoSyncOptions) : QueryState := { state with sync := some sync }

end QueryState

def applyFeature (state : QueryState) (feature : String) : Except SqlxError QueryState := do
  let feature ← parseExperimentalFeature feature
  return state.withOptions (state.options.experimentalFeature feature true)

/-- One turn of the loop over the query parameters. -/
def applyQueryParam (state : QueryState) : String × String → Fallible QueryState
  | ("mode", value) =>
      match value with
      | "ro" => return state.withOptions (state.options.readOnly true)
      | "rw" => return state
      | "rwc" => return state.withOptions (state.options.createIfMissing true)
      | "memory" => do
          let options ← state.options.inMemory true
          return state.withOptions options
      | _ => refuse (unknownValue value "mode")
  | ("cache", value) =>
      match value with
      | "private" => return state.withOptions (state.options.sharedCache false)
      | "shared" => return state.withOptions (state.options.sharedCache true)
      | _ => refuse (unknownValue value "cache")
  | ("immutable", value) => do
      let immutable ← parseBool "immutable" value
      return state.withOptions (state.options.withImmutable immutable)
  | ("vfs", value) => return state.withOptions (state.options.withVfs value)
  | ("encryption_cipher", value) => return { state with encryptionCipher := some value }
  | ("encryption_hexkey", value) => return { state with encryptionHexkey := some value }
  | ("journal_mode", value) =>
      if eqIgnoreAsciiCase (normalizedPragmaValue value) "mvcc".toList then
        return state.withOptions (state.options.mvcc true)
      else return state.withOptions (state.options.pragma "journal_mode" (some value))
  | ("auto_vacuum", _) => refuse unsupportedAutovacuum
  | ("experimental", value) => .ofExcept ((featureNames value).foldlM applyFeature state)
  | ("sync_remote_url", value) => return state.withSync (.new value)
  | ("sync_auth_token", value) =>
      return state.withSync (state.syncOrDefault.withAuthToken value)
  | ("sync_client_name", value) =>
      return state.withSync (state.syncOrDefault.withClientName value)
  | ("sync_long_poll_timeout_ms", value) =>
      match parseU64 value with
      | .ok millis =>
          return state.withSync (state.syncOrDefault.withLongPollTimeout (.fromMillis millis))
      | .error kind => refuse (.config (.parseInt kind))
  | ("sync_bootstrap_if_empty", value) => do
      let bootstrapIfEmpty ← parseBool "sync_bootstrap_if_empty" value
      return state.withSync (state.syncOrDefault.withBootstrapIfEmpty bootstrapIfEmpty)
  | (key, _) =>
      refuse (configError
        ("unknown query parameter `" ++ key ++ "` while parsing Turso connection URL"))

/-- After the loop: the two encryption settings come together. -/
def finishEncryption (state : QueryState) : Except SqlxError TursoConnectOptions :=
  match state.encryptionCipher, state.encryptionHexkey with
  | some cipher, some hexkey =>
      (TursoEncryptionOptions.new cipher hexkey).map state.options.encryptionOptions
  | some _, none | none, some _ =>
      .error (configError
        "`encryption_cipher` and `encryption_hexkey` must be provided together")
  | none, none => .ok state.options

/-- After the loop: sync settings need a remote URL. -/
def finishSync (sync : Option TursoSyncOptions) (options : TursoConnectOptions) :
    Except SqlxError TursoConnectOptions :=
  match sync with
  | some sync =>
      if sync.remoteUrl = "" then
        .error (configError "`sync_remote_url` must be provided when sync options are used")
      else .ok (options.withSyncOptions sync)
  | none => .ok options

def finishQuery (state : QueryState) : Except SqlxError TursoConnectOptions :=
  finishEncryption state >>= finishSync state.sync

namespace TursoConnectOptions

variable (crate : UrlCrate)

/-- The variables of the loop before its first turn. -/
def queryState (options : TursoConnectOptions) : QueryState where
  options := options
  encryptionCipher := options.encryption.map (·.cipher)
  encryptionHexkey := options.encryption.map (·.hexkey)
  sync := options.sync

def applyQueryParams (options : TursoConnectOptions) (params : Bytes) :
    Fallible TursoConnectOptions := do
  let state ← (crate.parsePairs params).foldlM applyQueryParam options.queryState
  .ofExcept (finishQuery state)

/-- Options for a database, named by the escaped text of its path, with the
parameters applied. -/
def fromDbAndParams (database : Bytes) (params : Option Bytes) :
    Fallible TursoConnectOptions := do
  let options ← default
  let options ←
    if database = [] then pure (options.filename "")
    else if database = utf8 ":memory:" then options.inMemory true
    else
      match decodeUtf8 (crate.percentDecode database) with
      | some path => pure (options.filename path)
      | none => refuse (.config .utf8)
  match params with
  | some params => options.applyQueryParams crate params
  | none => return options

def fromStr (url : Bytes) : Fallible TursoConnectOptions :=
  match (url.dropPrefix? (utf8 "turso://")).or (url.dropPrefix? (utf8 "turso:")) with
  | none => refuse (configError "Turso URLs must use the `turso:` scheme")
  | some url =>
      let database := url.takeWhile (· != question)
      let params :=
        match url.dropWhile (· != question) with
        | [] => none
        | _ :: params => some params
      fromDbAndParams crate database params

def fromUrl (url : Url) : Fallible TursoConnectOptions := fromStr crate url.asStr

variable (options : TursoConnectOptions)

/-- The text of the path in a URL. -/
def urlPath (options : TursoConnectOptions) : Bytes :=
  match options.target with
  | .memory _ => utf8 ":memory:"
  | .file path => utf8 path

def isAbsolute (path : Bytes) : Bool := path.head? == some slash

/-- The parameters that a URL of the sync settings has. -/
def syncPairs (sync : TursoSyncOptions) : List (String × String) :=
  [("sync_remote_url", sync.remoteUrl)] ++
    (sync.authToken.map (("sync_auth_token", ·))).toList ++
    (sync.clientName.map (("sync_client_name", ·))).toList ++
    (sync.longPollTimeout.map fun timeout =>
      ("sync_long_poll_timeout_ms", toString timeout.asMillis)).toList ++
    (if sync.bootstrapIfEmpty then [] else [("sync_bootstrap_if_empty", "false")])

def encryptionPairs (encryption : TursoEncryptionOptions) : List (String × String) :=
  [("encryption_cipher", encryption.cipher), ("encryption_hexkey", encryption.hexkey)]

def experimentalPairs (features : TursoExperimentalFeatures) : List (String × String) :=
  if features.toQueryValue = "" then [] else [("experimental", features.toQueryValue)]

/-- The parameters of the URL, in the order they are appended. -/
def queryPairs (options : TursoConnectOptions) : List (String × String) :=
  [("mode", options.openMode.urlMode options.target), ("cache", options.cacheMode.urlValue)] ++
    (if options.immutable then [("immutable", "true")] else []) ++
    (options.vfs.map (("vfs", ·))).toList ++
    (options.encryption.map encryptionPairs).getD [] ++
    (options.sync.map syncPairs).getD [] ++
    experimentalPairs options.experimentalFeatures

/-- The URL of the options, or nothing when the text that is built for the parser
is refused and the `expect` panics. -/
def buildUrl (options : TursoConnectOptions) : Option Url :=
  let path := options.urlPath
  (crate.parse (utf8 "turso://" ++ path.dropWhile (· == slash))).map fun url =>
    let url := if !options.target.isMemory && isAbsolute path then crate.setPath url path else url
    options.queryPairs.foldl (fun url pair => crate.appendPair url pair.1 pair.2) url

def toUrlLossy (options : TursoConnectOptions) : Option Url := options.buildUrl crate

end TursoConnectOptions

end SqlxTurso
