import SqlxTurso.Types.Decode

/-!
# Types for checked macros

A checked macro picks the Rust type of a column from its declared type, by the first
test in a chain that the name passes.
-/

namespace SqlxTurso

inductive DateTimeCrate where
  | inferred
  | chrono
  | time
  deriving DecidableEq, Repr

inductive NumericCrate where
  | inferred
  | bigDecimal
  | rustDecimal
  deriving DecidableEq, Repr

structure PreferredCrates where
  dateTime : DateTimeCrate := .inferred
  numeric : NumericCrate := .inferred
  deriving DecidableEq, Repr

inductive TypeCheckingError where
  | noMappingFound
  | dateTimeCrateFeatureNotEnabled
  | numericCrateFeatureNotEnabled
  deriving DecidableEq, Repr

/-- The features that the mapping depends on. -/
structure TypeFeatures where
  chrono : Bool
  time : Bool
  uuid : Bool
  deriving DecidableEq, Repr

section TypePaths

variable (features : TypeFeatures) (info : TursoTypeInfo)

/-- The paths for dates and for dates with a time in one of the two libraries. -/
def dateTypePath (enabled : Bool) (datePath datetimePath : String) : Option String :=
  if enabled then
    if (⟨"DATE"⟩ : TursoTypeInfo) = info || info.hasDateAffinity then some datePath
    else if (⟨"DATETIME"⟩ : TursoTypeInfo) = info || info.hasDatetimeAffinity then
      some datetimePath
    else none
  else none

def chronoTypePath : Option String :=
  dateTypePath info features.chrono "::sqlx_turso::sqlx::types::chrono::NaiveDate"
    "::sqlx_turso::sqlx::types::chrono::NaiveDateTime"

def timeTypePath : Option String :=
  dateTypePath info features.time "::sqlx_turso::sqlx::types::time::Date"
    "::sqlx_turso::sqlx::types::time::PrimitiveDateTime"

def datetimeTypePath (preferredCrates : PreferredCrates) :
    Option (Except TypeCheckingError String) :=
  match preferredCrates.dateTime with
  | .time =>
      some (((timeTypePath features info).map .ok).getD
        (.error .dateTimeCrateFeatureNotEnabled))
  | .chrono =>
      some (((chronoTypePath features info).map .ok).getD
        (.error .dateTimeCrateFeatureNotEnabled))
  | .inferred => ((timeTypePath features info).or (chronoTypePath features info)).map .ok

/-- The path of a type that reads no date and no time. -/
def plainTypePath : Except TypeCheckingError String :=
  if SqlType.bool.typeInfo = info then .ok "bool"
  else if SqlType.i32.typeInfo = info then .ok "i32"
  else if SqlType.i64.typeInfo = info || SqlType.i64.compatible info then .ok "i64"
  else if SqlType.f64.typeInfo = info || SqlType.f64.compatible info then .ok "f64"
  else if SqlType.string.typeInfo = info || SqlType.string.compatible info then .ok "String"
  else if SqlType.bytes.typeInfo = info || SqlType.bytes.compatible info then .ok "Vec<u8>"
  -- the type of a UUID and that of bytes accept the same names
  else if features.uuid && ((⟨"BLOB"⟩ : TursoTypeInfo) = info || SqlType.bytes.compatible info)
  then .ok "::sqlx_turso::sqlx::types::Uuid"
  else .error .noMappingFound

def typePathForId (preferredCrates : PreferredCrates) : Except TypeCheckingError String :=
  if preferredCrates.numeric = .bigDecimal ∨ preferredCrates.numeric = .rustDecimal then
    .error .numericCrateFeatureNotEnabled
  else
    match datetimeTypePath features info preferredCrates with
    | some path => path
    | none => plainTypePath features info

def paramTypeForId (preferredCrates : PreferredCrates) : Except TypeCheckingError String :=
  typePathForId features info preferredCrates

def returnTypeForId (preferredCrates : PreferredCrates) : Except TypeCheckingError String :=
  typePathForId features info preferredCrates

end TypePaths

/-- The type at a path.  The types for dates and times are left out. -/
def typeAtPath : String → Option RustType
  | "bool" => some .bool
  | "i32" => some .i32
  | "i64" => some .i64
  | "f64" => some .f64
  | "String" => some .string
  | "Vec<u8>" => some .bytes
  | "::sqlx_turso::sqlx::types::Uuid" => some .uuid
  | _ => none

/-! ## The types that are picked -/

section Picked

variable {features : TypeFeatures} {info : TursoTypeInfo} {path : String} {type : RustType}

/-- The name of a declared type for which a type is picked. -/
inductive Picked (info : TursoTypeInfo) : RustType → Prop where
  | bool (name : info = ⟨"BOOLEAN"⟩) : Picked info .bool
  | i32 (name : info = ⟨"INTEGER"⟩) : Picked info .i32
  | i64 (name : info ≠ ⟨"INTEGER"⟩) (integer : info.hasIntegerAffinity = true) :
      Picked info .i64
  | f64 (noInteger : info.hasIntegerAffinity = false) (real : info.hasRealAffinity = true) :
      Picked info .f64
  | string (noInteger : info.hasIntegerAffinity = false)
      (noReal : info.hasRealAffinity = false) (text : info.hasTextAffinity = true) :
      Picked info .string
  | bytes (noReal : info.hasRealAffinity = false) (blob : info.hasBlobAffinity = true) :
      Picked info .bytes

/-- A test that accepts a name of its own does not have to compare with it. -/
theorem own_or_eq (test : TursoTypeInfo → Bool) {own : TursoTypeInfo}
    (accepted : test own = true) : (decide (own = info) || test info) = test info := by
  by_cases name : own = info
  · rw [← name, accepted, Bool.or_true]
  · rw [decide_eq_false name, Bool.false_or]

theorem picked_of_plainTypePath (mapped : plainTypePath features info = .ok path)
    (isType : typeAtPath path = some type) : Picked info type := by
  rw [plainTypePath, own_or_eq SqlType.i64.compatible (by decide),
    own_or_eq SqlType.f64.compatible (by decide),
    own_or_eq SqlType.string.compatible (by decide),
    own_or_eq SqlType.bytes.compatible (by decide),
    own_or_eq SqlType.bytes.compatible (by decide)] at mapped
  split at mapped
  next name =>
    cases mapped
    cases isType
    exact .bool name.symm
  split at mapped
  next name =>
    cases mapped
    cases isType
    exact .i32 name.symm
  next notInteger =>
  split at mapped
  next integer =>
    cases mapped
    cases isType
    exact .i64 (fun name => notInteger name.symm) integer
  next noInteger =>
  have noInteger := eq_false_of_ne_true noInteger
  split at mapped
  next real =>
    cases mapped
    cases isType
    exact .f64 noInteger real
  next noReal =>
  have noReal := eq_false_of_ne_true noReal
  split at mapped
  next text =>
    cases mapped
    cases isType
    exact .string noInteger noReal text
  next noText =>
  split at mapped
  next blob =>
    cases mapped
    cases isType
    exact .bytes noReal (((Bool.or_eq_true _ _).mp blob).resolve_right noText)
  next noBlob =>
  split at mapped
  -- no name is left for the type of a UUID
  next uuid =>
    exact absurd ((Bool.and_eq_true _ _).mp uuid).2 noBlob
  next => cases mapped

/-- No path for a date is one of the types that are looked at here. -/
theorem typeAtPath_of_datetimeTypePath {result : Except TypeCheckingError String}
    (isDate : datetimeTypePath features info {} = some result) (isPath : result = .ok path) :
    typeAtPath path = none := by
  subst isPath
  simp only [datetimeTypePath, timeTypePath, chronoTypePath, dateTypePath, Option.map_eq_some_iff,
    Except.ok.injEq, exists_eq_right] at isDate
  split_ifs at isDate <;> first | (cases isDate; rfl) | cases isDate

theorem picked_of_returnTypeForId (mapped : returnTypeForId features info {} = .ok path)
    (isType : typeAtPath path = some type) : Picked info type := by
  rw [returnTypeForId, typePathForId, if_neg (by decide)] at mapped
  split at mapped
  next result isDate =>
    rw [typeAtPath_of_datetimeTypePath isDate mapped] at isType
    cases isType
  next => exact picked_of_plainTypePath mapped isType

end Picked

/-! ## What is decoded -/

/-- The values that a column of the declared type holds by SQLite's rules, as far as they
are told: those in the class of its affinity, and integers for truth values. -/
def Legitimate (name : String) : Turso.Value → Prop
  | .null => False
  | .integer _ =>
      declaredAffinity (some name) = .integer ∨ declaredAffinity (some name) = .real ∨
        (⟨name⟩ : TursoTypeInfo).isNamed "boolean" = true
  | .real _ => declaredAffinity (some name) = .real
  | .text _ => declaredAffinity (some name) = .text
  | .blob _ => declaredAffinity (some name) = .blob

/-- The names that the adapter takes for a real type and the engine does not. -/
def MistakenForReal (name : String) : Prop :=
  (⟨name⟩ : TursoTypeInfo).hasRealAffinity = true ∧
    (declaredAffinity (some name) = .text ∨ declaredAffinity (some name) = .blob)

/-- An integer that fits into 32 bits. -/
def FitsI32 (number : Int64) : Prop :=
  -2147483648 ≤ number.toInt ∧ number.toInt ≤ 2147483647

section Affinities

variable {name : String}

theorem affinity_of_integer (integer : (⟨name⟩ : TursoTypeInfo).hasIntegerAffinity = true) :
    declaredAffinity (some name) = .integer := by
  rw [TursoTypeInfo.hasIntegerAffinity_eq] at integer
  simp [declaredAffinity, integer]

theorem affinity_of_text (noInteger : (⟨name⟩ : TursoTypeInfo).hasIntegerAffinity = false)
    (text : (⟨name⟩ : TursoTypeInfo).hasTextAffinity = true) :
    declaredAffinity (some name) = .text := by
  rw [TursoTypeInfo.hasIntegerAffinity_eq] at noInteger
  simp only [TursoTypeInfo.hasTextAffinity] at text
  simp [declaredAffinity, noInteger, text]

theorem affinity_of_blob (blob : (⟨name⟩ : TursoTypeInfo).hasBlobAffinity = true) :
    declaredAffinity (some name) = .blob := by
  simp only [declaredAffinity, TursoTypeInfo.contains_of_isNamed _ blob]
  rw [if_neg (by decide), if_neg (by decide), if_pos (by simp)]

/-- A name that mentions a real type and no integer is real unless something before it in
the order of the rules is mentioned too. -/
theorem affinity_of_real (noInteger : (⟨name⟩ : TursoTypeInfo).hasIntegerAffinity = false)
    (real : (⟨name⟩ : TursoTypeInfo).hasRealAffinity = true) :
    declaredAffinity (some name) = .real ∨ MistakenForReal name := by
  have kept := real
  rw [TursoTypeInfo.hasIntegerAffinity_eq] at noInteger
  simp only [TursoTypeInfo.hasRealAffinity] at real
  simp only [MistakenForReal, kept, true_and]
  simp only [declaredAffinity, noInteger, Bool.false_eq_true, ↓reduceIte, real]
  split_ifs <;> simp

end Affinities

section Columns

variable {name : String} {value : TursoValueRef}

/-- A name whose affinity is known is not mistaken for a real type. -/
theorem not_mistaken_of_affinity {affinity : Affinity}
    (isAffinity : declaredAffinity (some name) = affinity) (noText : affinity ≠ .text)
    (noBlob : affinity ≠ .blob) : ¬MistakenForReal name := by
  rintro ⟨_, isText | isBlob⟩
  · exact noText (isAffinity.symm.trans isText)
  · exact noBlob (isAffinity.symm.trans isBlob)

theorem not_mistaken_of_noReal
    (noReal : (⟨name⟩ : TursoTypeInfo).hasRealAffinity = false) : ¬MistakenForReal name :=
  fun mistaken => Bool.false_ne_true (noReal.symm.trans mistaken.1)

/-- A truth value is in a column of neither texts nor blobs nor real numbers. -/
theorem affinity_of_boolean (isBoolean : (⟨name⟩ : TursoTypeInfo).isNamed "boolean" = true) :
    declaredAffinity (some name) = .numeric := by
  have notEmpty : name ≠ "" := by
    rintro rfl
    exact absurd isBoolean (by decide)
  simp only [declaredAffinity, TursoTypeInfo.contains_of_isNamed _ isBoolean]
  rw [if_neg (by decide), if_neg (by decide), if_neg (by rw [decide_eq_false notEmpty]; decide),
    if_neg (by decide)]

/-- An integer is in no column of texts or blobs. -/
theorem affinity_of_stored_integer {number : Int64}
    (legitimate : Legitimate name (.integer number)) :
    declaredAffinity (some name) ≠ .text ∧ declaredAffinity (some name) ≠ .blob := by
  rcases legitimate with isOther | isOther | isBoolean
  · simp [isOther]
  · simp [isOther]
  · simp [affinity_of_boolean isBoolean]

/-- What a column holds is in the class of its affinity, integers apart. -/
theorem legitimate_cases (legitimate : Legitimate name value.kind) :
    (∃ number, value.kind = .integer number ∧ declaredAffinity (some name) ≠ .text ∧
        declaredAffinity (some name) ≠ .blob) ∨
      (∃ bits, value.kind = .real bits ∧ declaredAffinity (some name) = .real) ∨
      (∃ text, value.kind = .text text ∧ declaredAffinity (some name) = .text) ∨
      ∃ bytes, value.kind = .blob bytes ∧ declaredAffinity (some name) = .blob := by
  generalize value.kind = kind at legitimate ⊢
  cases kind with
  | null => exact legitimate.elim
  | integer number => exact .inl ⟨number, rfl, affinity_of_stored_integer legitimate⟩
  | real bits => exact .inr (.inl ⟨bits, rfl, legitimate⟩)
  | text text => exact .inr (.inr (.inl ⟨text, rfl, legitimate⟩))
  | blob bytes => exact .inr (.inr (.inr ⟨bytes, rfl, legitimate⟩))

theorem number_of_legitimate (legitimate : Legitimate name value.kind)
    (noText : declaredAffinity (some name) ≠ .text)
    (noBlob : declaredAffinity (some name) ≠ .blob) :
    (∃ number, value.kind = .integer number) ∨
      ∃ bits, value.kind = .real bits ∧ declaredAffinity (some name) = .real := by
  rcases legitimate_cases legitimate with ⟨number, isInteger, _⟩ | isReal | ⟨_, _, isText⟩ |
    ⟨_, _, isBlob⟩
  · exact .inl ⟨number, isInteger⟩
  · exact .inr isReal
  · exact absurd isText noText
  · exact absurd isBlob noBlob

theorem integer_of_legitimate (legitimate : Legitimate name value.kind)
    (noText : declaredAffinity (some name) ≠ .text)
    (noBlob : declaredAffinity (some name) ≠ .blob)
    (noReal : declaredAffinity (some name) ≠ .real) :
    ∃ number, value.kind = .integer number := by
  rcases number_of_legitimate legitimate noText noBlob with isInteger | ⟨_, _, isReal⟩
  · exact isInteger
  · exact absurd isReal noReal

theorem text_of_legitimate (legitimate : Legitimate name value.kind)
    (isText : declaredAffinity (some name) = .text) : ∃ text, value.kind = .text text := by
  rcases legitimate_cases legitimate with ⟨_, _, noText, _⟩ | ⟨_, _, isReal⟩ | ⟨text, found, _⟩ |
    ⟨_, _, isBlob⟩
  · exact absurd isText noText
  · exact absurd (isText.symm.trans isReal) (by decide)
  · exact ⟨text, found⟩
  · exact absurd (isText.symm.trans isBlob) (by decide)

theorem blob_of_legitimate (legitimate : Legitimate name value.kind)
    (isBlob : declaredAffinity (some name) = .blob) : ∃ bytes, value.kind = .blob bytes := by
  rcases legitimate_cases legitimate with ⟨_, _, _, noBlob⟩ | ⟨_, _, isReal⟩ | ⟨_, _, isText⟩ |
    ⟨bytes, found, _⟩
  · exact absurd isBlob noBlob
  · exact absurd (isBlob.symm.trans isReal) (by decide)
  · exact absurd (isBlob.symm.trans isText) (by decide)
  · exact ⟨bytes, found⟩

/-! ## What the picked types decode -/

theorem bool_decodes (legitimate : Legitimate "BOOLEAN" value.kind) :
    ∃ result, SqlType.bool.decode value = .ok result := by
  obtain ⟨number, isInteger⟩ :=
    integer_of_legitimate legitimate (by decide) (by decide) (by decide)
  exact ⟨_, bool_eq_ok_iff.mpr ⟨number, isInteger, rfl⟩⟩

theorem i32_decodes_iff (legitimate : Legitimate "INTEGER" value.kind) :
    (∃ result, SqlType.i32.decode value = .ok result) ↔
      ∀ number, value.kind = .integer number → FitsI32 number := by
  obtain ⟨number, isInteger⟩ :=
    integer_of_legitimate legitimate (by decide) (by decide) (by decide)
  constructor
  · rintro ⟨result, decoded⟩ other isOther
    obtain ⟨found, isFound, inRange, _⟩ := implIntegerType_eq_ok_iff.mp decoded
    cases isFound.symm.trans isOther
    exact inRange
  · intro fits
    exact ⟨_, implIntegerType_eq_ok_iff.mpr ⟨number, isInteger, fits number isInteger, rfl⟩⟩

theorem i64_decodes (legitimate : Legitimate name value.kind)
    (isInteger : declaredAffinity (some name) = .integer) :
    ∃ result, SqlType.i64.decode value = .ok result := by
  obtain ⟨number, found⟩ := integer_of_legitimate legitimate (by simp [isInteger])
    (by simp [isInteger]) (by simp [isInteger])
  exact ⟨number, i64_eq_ok_iff.mpr found⟩

/-- A float is decoded from numbers, and a column that is mistaken for a real one holds
none. -/
theorem f64_decodes_iff (legitimate : Legitimate name value.kind)
    (noInteger : (⟨name⟩ : TursoTypeInfo).hasIntegerAffinity = false)
    (real : (⟨name⟩ : TursoTypeInfo).hasRealAffinity = true) :
    (∃ result, SqlType.f64.decode value = .ok result) ↔ ¬MistakenForReal name := by
  constructor
  · rintro ⟨bits, decoded⟩ mistaken
    rcases mistaken.2 with isText | isBlob
    · obtain ⟨text, found⟩ := text_of_legitimate legitimate isText
      simp [f64_eq_ok_iff, found] at decoded
    · obtain ⟨bytes, found⟩ := blob_of_legitimate legitimate isBlob
      simp [f64_eq_ok_iff, found] at decoded
  · intro notMistaken
    have isReal := (affinity_of_real noInteger real).resolve_right notMistaken
    rcases number_of_legitimate legitimate (by simp [isReal]) (by simp [isReal]) with
      ⟨number, found⟩ | ⟨bits, found, _⟩
    · exact ⟨_, f64_eq_ok_iff.mpr (.inr ⟨number, found, rfl⟩)⟩
    · exact ⟨bits, f64_eq_ok_iff.mpr (.inl found)⟩

theorem string_decodes (legitimate : Legitimate name value.kind)
    (isText : declaredAffinity (some name) = .text) :
    ∃ result, SqlType.string.decode value = .ok result := by
  obtain ⟨text, found⟩ := text_of_legitimate legitimate isText
  exact ⟨text, string_eq_ok_iff.mpr found⟩

theorem bytes_decodes (legitimate : Legitimate name value.kind)
    (isBlob : declaredAffinity (some name) = .blob) :
    ∃ result, SqlType.bytes.decode value = .ok result := by
  obtain ⟨bytes, found⟩ := blob_of_legitimate legitimate isBlob
  exact ⟨bytes, bytes_eq_ok_iff.mpr found⟩

/-- Only a column of type `INTEGER` can hold an integer that the picked type has no room
for. -/
theorem nothing_excepted (notInteger : name ≠ "INTEGER") (notMistaken : ¬MistakenForReal name) :
    (name = "INTEGER" → ∀ number, value.kind = .integer number → FitsI32 number) ∧
      ¬MistakenForReal name :=
  ⟨fun isInteger => absurd isInteger notInteger, notMistaken⟩

end Columns

/-- A value that a column legitimately holds is decoded as the type that a checked macro
picks for the column, except where the macro picks `i32` for an integer that needs more
bits, or a float for a column of texts or blobs. -/
theorem picked_type_decodes_iff (crates : ContentCrates) (features : TypeFeatures)
    {name path : String} {type : RustType}
    (mapped : returnTypeForId features ⟨name⟩ {} = .ok path)
    (isType : typeAtPath path = some type) {value : TursoValueRef}
    (legitimate : Legitimate name value.kind) :
    (∃ result, (type.sqlType crates).decode value = .ok result) ↔
      (name = "INTEGER" → ∀ number, value.kind = .integer number → FitsI32 number) ∧
        ¬MistakenForReal name := by
  cases picked_of_returnTypeForId mapped isType with
  | bool isName =>
      cases isName
      have notMistaken : ¬MistakenForReal "BOOLEAN" :=
        not_mistaken_of_affinity rfl (by decide) (by decide)
      exact iff_of_true (bool_decodes legitimate) (nothing_excepted (by decide) notMistaken)
  | i32 isName =>
      cases isName
      have notMistaken : ¬MistakenForReal "INTEGER" :=
        not_mistaken_of_affinity rfl (by decide) (by decide)
      apply (i32_decodes_iff legitimate).trans
      constructor
      · intro fits
        exact ⟨fun _ => fits, notMistaken⟩
      · intro fits
        exact fits.1 rfl
  | i64 isOther integer =>
      have notInteger : name ≠ "INTEGER" := fun isName => isOther (congrArg _ isName)
      have isInteger := affinity_of_integer integer
      have notMistaken := not_mistaken_of_affinity isInteger (by decide) (by decide)
      exact iff_of_true (i64_decodes legitimate isInteger)
        (nothing_excepted notInteger notMistaken)
  | f64 noInteger real =>
      have notInteger : name ≠ "INTEGER" := by
        rintro rfl
        exact absurd noInteger (by decide)
      apply (f64_decodes_iff legitimate noInteger real).trans
      constructor
      · intro notMistaken
        exact nothing_excepted notInteger notMistaken
      · intro holds
        exact holds.2
  | string noInteger noReal text =>
      have notInteger : name ≠ "INTEGER" := by
        rintro rfl
        exact absurd noInteger (by decide)
      exact iff_of_true (string_decodes legitimate (affinity_of_text noInteger text))
        (nothing_excepted notInteger (not_mistaken_of_noReal noReal))
  | bytes noReal blob =>
      have notInteger : name ≠ "INTEGER" := by
        rintro rfl
        exact absurd blob (by decide)
      exact iff_of_true (bytes_decodes legitimate (affinity_of_blob blob))
        (nothing_excepted notInteger (not_mistaken_of_noReal noReal))

/-- No library for UUIDs or JSON reads anything. -/
def noContent : ContentCrates where
  Uuid := Unit
  fromSlice _ := .error "invalid length"
  parseStr _ := .error "invalid character"
  Json := Unit
  decodeFromString _ := .error "expected value"
  decodeFromBytes _ := .error "expected value"

theorem bigint_column_is_decoded :
    ∃ result, (RustType.i64.sqlType noContent).decode
      ((TursoValue.integer (-9223372036854775808)).withTypeInfo ⟨"BIGINT"⟩) = .ok result := by
  have mapped : returnTypeForId ⟨false, false, false⟩ ⟨"BIGINT"⟩ {} = .ok "i64" := by decide
  have legitimate : Legitimate "BIGINT" (.integer (-9223372036854775808)) := .inl (by decide)
  refine (picked_type_decodes_iff noContent _ mapped rfl legitimate).mpr ⟨?_, ?_⟩
  · intro isInteger
    exact absurd isInteger (by decide)
  · intro mistaken
    exact absurd mistaken.1 (by decide)

/-- `i32` is picked for a column of type `INTEGER`, which holds integers of 64 bits. -/
theorem large_integer_is_not_decoded :
    returnTypeForId ⟨false, false, false⟩ ⟨"INTEGER"⟩ {} = .ok "i32" ∧
      typeAtPath "i32" = some .i32 ∧
      Legitimate "INTEGER" (.integer 2147483648) ∧
      ¬∃ result, (RustType.i32.sqlType noContent).decode (TursoValue.integer 2147483648) =
        .ok result := by
  refine ⟨by decide, by decide, .inl (by decide), ?_⟩
  rintro ⟨result, decoded⟩
  cases decoded

end SqlxTurso
