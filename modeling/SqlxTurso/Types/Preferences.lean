import SqlxTurso.Types.TypeChecking

/-!
# Names and preferences in the type mapping

The chain of tests compares two names exactly and reads all others without regard to
case, and it looks at the preferred libraries before it looks at the column.  Two runs of
the chain are compared here: for two spellings of a name, and with and without a
preference.
-/

namespace SqlxTurso

section Chain

variable (features : TypeFeatures) (info : TursoTypeInfo)

theorem dateTypePath_eq (enabled : Bool) (datePath datetimePath : String) :
    dateTypePath info enabled datePath datetimePath =
      if enabled then
        if info.hasDateAffinity then some datePath
        else if info.hasDatetimeAffinity then some datetimePath
        else none
      else none := by
  rw [dateTypePath, own_or_eq TursoTypeInfo.hasDateAffinity (by decide),
    own_or_eq TursoTypeInfo.hasDatetimeAffinity (by decide)]

variable {info} in
theorem dateTypePath_eq_none (enabled : Bool) (datePath datetimePath : String)
    (noDate : info.hasDateAffinity = false) (noDatetime : info.hasDatetimeAffinity = false) :
    dateTypePath info enabled datePath datetimePath = none := by
  rw [dateTypePath_eq, noDate, noDatetime]
  cases enabled <;> rfl

variable {info} in
/-- Without a preference the libraries for dates have no path for other columns. -/
theorem datetimeTypePath_eq_none (noDate : info.hasDateAffinity = false)
    (noDatetime : info.hasDatetimeAffinity = false) :
    datetimeTypePath features info {} = none := by
  rw [datetimeTypePath, timeTypePath, chronoTypePath, dateTypePath_eq_none _ _ _ noDate noDatetime,
    dateTypePath_eq_none _ _ _ noDate noDatetime]
  rfl

/-- The rungs of the chain that read a name without regard to case. -/
def affinityTypePath : Except TypeCheckingError String :=
  if info.hasIntegerAffinity then .ok "i64"
  else if info.hasRealAffinity then .ok "f64"
  else if info.hasTextAffinity then .ok "String"
  else if info.hasBlobAffinity || info.hasTextAffinity then .ok "Vec<u8>"
  else .error .noMappingFound

/-- Two rungs compare names exactly, and the one for UUIDs is never reached. -/
theorem plainTypePath_eq :
    plainTypePath features info =
      if info = ⟨"BOOLEAN"⟩ then .ok "bool"
      else if info = ⟨"INTEGER"⟩ then .ok "i32"
      else affinityTypePath info := by
  rw [plainTypePath, own_or_eq SqlType.i64.compatible (by decide),
    own_or_eq SqlType.f64.compatible (by decide),
    own_or_eq SqlType.string.compatible (by decide),
    own_or_eq SqlType.bytes.compatible (by decide),
    own_or_eq SqlType.bytes.compatible (by decide)]
  have unreached : ∀ path : String,
      (if SqlType.bytes.compatible info then .ok "Vec<u8>"
        else if features.uuid && SqlType.bytes.compatible info then .ok path
        else .error .noMappingFound : Except TypeCheckingError String) =
      if SqlType.bytes.compatible info then .ok "Vec<u8>" else .error .noMappingFound := by
    intro path
    cases SqlType.bytes.compatible info with
    | true => rfl
    | false => rw [Bool.and_false]; rfl
  rw [unreached]
  by_cases isBool : info = ⟨"BOOLEAN"⟩
  · rw [if_pos isBool, if_pos (show SqlType.bool.typeInfo = info from isBool.symm)]
  · rw [if_neg isBool, if_neg (show SqlType.bool.typeInfo ≠ info from Ne.symm isBool)]
    by_cases isInteger : info = ⟨"INTEGER"⟩
    · rw [if_pos isInteger, if_pos (show SqlType.i32.typeInfo = info from isInteger.symm)]
    · rw [if_neg isInteger, if_neg (show SqlType.i32.typeInfo ≠ info from Ne.symm isInteger)]
      rfl

/-- What the chain picks without regard to the case of the name. -/
def foldedTypePath : Except TypeCheckingError String :=
  match datetimeTypePath features info {} with
  | some path => path
  | none => affinityTypePath info

theorem returnTypeForId_default :
    returnTypeForId features info {} =
      if info = ⟨"BOOLEAN"⟩ then .ok "bool"
      else if info = ⟨"INTEGER"⟩ then .ok "i32"
      else foldedTypePath features info := by
  rw [returnTypeForId, typePathForId, if_neg (by decide), foldedTypePath]
  by_cases isBool : info = ⟨"BOOLEAN"⟩
  · rw [isBool, datetimeTypePath_eq_none features (by decide) (by decide)]
    rfl
  · by_cases isInteger : info = ⟨"INTEGER"⟩
    · rw [isInteger, datetimeTypePath_eq_none features (by decide) (by decide)]
      rfl
    · rw [if_neg isBool, if_neg isInteger]
      cases datetimeTypePath features info {} with
      | some path => rfl
      | none =>
          dsimp only
          rw [plainTypePath_eq, if_neg isBool, if_neg isInteger]

end Chain

/-! ## Two spellings of a name -/

section Spellings

variable {info other : TursoTypeInfo}

theorem TursoTypeInfo.isNamed_congr (same : info.lowered = other.lowered) :
    info.isNamed = other.isNamed := by
  funext name
  rw [isNamed, isNamed, same]

theorem TursoTypeInfo.contains_congr (same : info.lowered = other.lowered) :
    info.contains = other.contains := by
  funext part
  rw [contains, contains, same]

theorem dateTypePath_congr (same : info.lowered = other.lowered) (enabled : Bool)
    (datePath datetimePath : String) :
    dateTypePath info enabled datePath datetimePath =
      dateTypePath other enabled datePath datetimePath := by
  have sameDate : info.hasDateAffinity = other.hasDateAffinity :=
    congrFun (TursoTypeInfo.isNamed_congr same) "date"
  have sameDatetime : info.hasDatetimeAffinity = other.hasDatetimeAffinity := by
    rw [TursoTypeInfo.hasDatetimeAffinity, TursoTypeInfo.isNamed_congr same]
    rfl
  rw [dateTypePath_eq, dateTypePath_eq, sameDate, sameDatetime]

theorem datetimeTypePath_congr (features : TypeFeatures)
    (same : info.lowered = other.lowered) :
    datetimeTypePath features info = datetimeTypePath features other := by
  funext crates
  rw [datetimeTypePath, timeTypePath, chronoTypePath, dateTypePath_congr same,
    dateTypePath_congr same]
  rfl

theorem affinityTypePath_congr (same : info.lowered = other.lowered) :
    affinityTypePath info = affinityTypePath other := by
  have sameInteger : info.hasIntegerAffinity = other.hasIntegerAffinity := by
    rw [TursoTypeInfo.hasIntegerAffinity_eq, TursoTypeInfo.hasIntegerAffinity_eq,
      TursoTypeInfo.contains_congr same]
  have sameReal : info.hasRealAffinity = other.hasRealAffinity := by
    rw [TursoTypeInfo.hasRealAffinity, TursoTypeInfo.contains_congr same]
    rfl
  have sameText : info.hasTextAffinity = other.hasTextAffinity := by
    rw [TursoTypeInfo.hasTextAffinity, TursoTypeInfo.contains_congr same]
    rfl
  have sameBlob : info.hasBlobAffinity = other.hasBlobAffinity :=
    congrFun (TursoTypeInfo.isNamed_congr same) "blob"
  rw [affinityTypePath, sameInteger, sameReal, sameText, sameBlob]
  rfl

theorem foldedTypePath_congr (features : TypeFeatures) (same : info.lowered = other.lowered) :
    foldedTypePath features info = foldedTypePath features other := by
  rw [foldedTypePath, foldedTypePath, datetimeTypePath_congr features same,
    affinityTypePath_congr same]

theorem typePathForId_of_numeric (features : TypeFeatures) (info : TursoTypeInfo)
    {crates : PreferredCrates} (preferred : crates.numeric ≠ .inferred) :
    typePathForId features info crates = .error .numericCrateFeatureNotEnabled := by
  rcases crates with ⟨dateTime, numeric⟩
  cases numeric with
  | inferred => exact absurd rfl preferred
  | bigDecimal => rfl
  | rustDecimal => rfl

/-- With a preferred library for dates no rung of the chain is reached. -/
theorem typePathForId_congr_of_dateTime (features : TypeFeatures)
    (same : info.lowered = other.lowered) {crates : PreferredCrates}
    (preferred : crates.dateTime ≠ .inferred) :
    typePathForId features info crates = typePathForId features other crates := by
  rw [typePathForId, typePathForId, datetimeTypePath_congr features same]
  rcases crates with ⟨dateTime, numeric⟩
  cases dateTime with
  | inferred => exact absurd rfl preferred
  | chrono => rfl
  | time => rfl

/-- The names that are compared exactly. -/
def IsExact (info : TursoTypeInfo) : Prop := info = ⟨"BOOLEAN"⟩ ∨ info = ⟨"INTEGER"⟩

instance : DecidablePred IsExact := fun _ => inferInstanceAs (Decidable (_ ∨ _))

theorem eq_of_isExact (same : info.lowered = other.lowered) (isExact : IsExact info)
    (otherExact : IsExact other) : info = other := by
  rcases isExact with rfl | rfl <;> rcases otherExact with rfl | rfl
  · rfl
  · exact absurd same (by decide)
  · exact absurd same (by decide)
  · rfl

theorem returnTypeForId_of_not_isExact (features : TypeFeatures) (notExact : ¬IsExact info) :
    returnTypeForId features info {} = foldedTypePath features info := by
  rw [IsExact, not_or] at notExact
  rw [returnTypeForId_default, if_neg notExact.1, if_neg notExact.2]

/-- A name that is compared exactly has a path that no other spelling of it has. -/
theorem returnTypeForId_ne_of_isExact (features : TypeFeatures)
    (same : info.lowered = other.lowered) (isExact : IsExact info)
    (otherNotExact : ¬IsExact other) :
    returnTypeForId features info {} ≠ returnTypeForId features other {} := by
  rw [returnTypeForId_of_not_isExact features otherNotExact,
    ← foldedTypePath_congr features same, returnTypeForId_default]
  rcases isExact with rfl | rfl
  · rw [foldedTypePath, datetimeTypePath_eq_none features (by decide) (by decide)]
    decide
  · rw [foldedTypePath, datetimeTypePath_eq_none features (by decide) (by decide)]
    decide

theorem returnTypeForId_default_eq_iff (features : TypeFeatures)
    (same : info.lowered = other.lowered) :
    returnTypeForId features info {} = returnTypeForId features other {} ↔
      (IsExact info ↔ IsExact other) := by
  by_cases isExact : IsExact info
  · by_cases otherExact : IsExact other
    · rw [eq_of_isExact same isExact otherExact]
      simp
    · exact iff_of_false (returnTypeForId_ne_of_isExact features same isExact otherExact)
        (fun iff => otherExact (iff.mp isExact))
  · by_cases otherExact : IsExact other
    · exact iff_of_false
        (Ne.symm (returnTypeForId_ne_of_isExact features same.symm otherExact isExact))
        (fun iff => isExact (iff.mpr otherExact))
    · rw [returnTypeForId_of_not_isExact features isExact,
        returnTypeForId_of_not_isExact features otherExact, foldedTypePath_congr features same]
      exact iff_of_true rfl (iff_of_false isExact otherExact)

/-- Two names that differ in case only are mapped alike exactly when a library is preferred,
for then no name is compared exactly, or when both or neither are among the two names that
are. -/
theorem returnTypeForId_eq_iff (features : TypeFeatures)
    (same : info.lowered = other.lowered) (crates : PreferredCrates) :
    returnTypeForId features info crates = returnTypeForId features other crates ↔
      crates.dateTime ≠ .inferred ∨ crates.numeric ≠ .inferred ∨
        (IsExact info ↔ IsExact other) := by
  by_cases preferredNumeric : crates.numeric = .inferred
  · by_cases preferredDate : crates.dateTime = .inferred
    · have isDefault : crates = {} := by
        rcases crates with ⟨dateTime, numeric⟩
        cases preferredDate
        cases preferredNumeric
        rfl
      rw [isDefault, returnTypeForId_default_eq_iff features same]
      simp
    · exact iff_of_true (typePathForId_congr_of_dateTime features same preferredDate)
        (.inl preferredDate)
  · rw [returnTypeForId, returnTypeForId, typePathForId_of_numeric _ _ preferredNumeric,
      typePathForId_of_numeric _ _ preferredNumeric]
    exact iff_of_true rfl (.inr (.inl preferredNumeric))

theorem bigint_spellings_are_mapped_alike :
    returnTypeForId ⟨true, true, true⟩ ⟨"bigint"⟩ {} =
      returnTypeForId ⟨true, true, true⟩ ⟨"BIGINT"⟩ {} := by
  apply (returnTypeForId_eq_iff ⟨true, true, true⟩ (by decide) {}).mpr
  exact .inr (.inr (by decide))

theorem integer_spellings_are_mapped_differently :
    (⟨"integer"⟩ : TursoTypeInfo).lowered = (⟨"INTEGER"⟩ : TursoTypeInfo).lowered ∧
      returnTypeForId ⟨true, true, true⟩ ⟨"integer"⟩ {} ≠
        returnTypeForId ⟨true, true, true⟩ ⟨"INTEGER"⟩ {} := by
  decide

end Spellings

/-! ## With and without a preference -/

/-- The names of the columns that a library for dates is about. -/
def TursoTypeInfo.isDateOrTime (info : TursoTypeInfo) : Bool :=
  info.isNamed "date" || info.isNamed "time" || info.isNamed "datetime" ||
    info.isNamed "timestamp"

/-- The names of the columns that a library for decimal numbers is about. -/
def TursoTypeInfo.isDecimal (info : TursoTypeInfo) : Bool :=
  info.isNamed "numeric" || info.isNamed "decimal"

/-- The preferred libraries change nothing for the columns that they are not about. -/
structure ConcernsOwnColumns (typeForId : PreferredCrates → Except TypeCheckingError String)
    (info : TursoTypeInfo) (crates : PreferredCrates) : Prop where
  dateTime : info.isDateOrTime = false →
    typeForId crates = typeForId { crates with dateTime := .inferred }
  numeric : info.isDecimal = false →
    typeForId crates = typeForId { crates with numeric := .inferred }

/-- The features for the libraries that a preference may name. -/
def allFeatures : TypeFeatures := ⟨true, true, true⟩

section Preferences

variable {features : TypeFeatures} {info : TursoTypeInfo}

theorem noDate_of_isDateOrTime (isOther : info.isDateOrTime = false) :
    info.hasDateAffinity = false ∧ info.hasDatetimeAffinity = false := by
  simp only [TursoTypeInfo.isDateOrTime, Bool.or_eq_false_iff] at isOther
  rw [TursoTypeInfo.hasDateAffinity, TursoTypeInfo.hasDatetimeAffinity, isOther.1.1.1,
    isOther.1.2, isOther.2]
  exact ⟨rfl, rfl⟩

/-- The only error of the chain says that there is no type for the column. -/
theorem plainTypePath_eq_error {error : TypeCheckingError}
    (failed : plainTypePath features info = .error error) : error = .noMappingFound := by
  rw [plainTypePath_eq, affinityTypePath] at failed
  split_ifs at failed
  cases failed
  rfl

theorem getD_eq_error {path : Option String} {error reported : TypeCheckingError}
    (failed : (path.map .ok).getD (.error reported) = (.error error : Except _ String)) :
    error = reported := by
  cases path with
  | none =>
      cases failed
      rfl
  | some path => cases failed

theorem datetimeTypePath_eq_error {crates : PreferredCrates} {error : TypeCheckingError}
    (failed : datetimeTypePath features info crates = some (.error error)) :
    error = .dateTimeCrateFeatureNotEnabled := by
  rw [datetimeTypePath] at failed
  split at failed
  next => exact getD_eq_error (Option.some.inj failed)
  next => exact getD_eq_error (Option.some.inj failed)
  next =>
    obtain ⟨path, _, isOk⟩ := Option.map_eq_some_iff.mp failed
    cases isOk

/-- Without a preferred library for numbers the error about one is not given. -/
theorem typePathForId_ne_numeric (dateTime : DateTimeCrate) :
    typePathForId features info ⟨dateTime, .inferred⟩ ≠
      .error .numericCrateFeatureNotEnabled := by
  intro failed
  rw [typePathForId, if_neg (by simp)] at failed
  split at failed
  next path isPath =>
    subst failed
    cases datetimeTypePath_eq_error isPath
  next => cases plainTypePath_eq_error failed

/-- A preferred library for dates gives its error for every other column. -/
theorem typePathForId_of_dateTime (isOther : info.isDateOrTime = false)
    {dateTime : DateTimeCrate} (preferred : dateTime ≠ .inferred) :
    typePathForId features info ⟨dateTime, .inferred⟩ =
      .error .dateTimeCrateFeatureNotEnabled := by
  obtain ⟨noDate, noDatetime⟩ := noDate_of_isDateOrTime isOther
  rw [typePathForId, if_neg (by simp), datetimeTypePath, timeTypePath, chronoTypePath,
    dateTypePath_eq_none _ _ _ noDate noDatetime, dateTypePath_eq_none _ _ _ noDate noDatetime]
  cases dateTime with
  | inferred => exact absurd rfl preferred
  | chrono => rfl
  | time => rfl

theorem typePathForId_ne_dateTime (isOther : info.isDateOrTime = false) :
    typePathForId features info {} ≠ .error .dateTimeCrateFeatureNotEnabled := by
  obtain ⟨noDate, noDatetime⟩ := noDate_of_isDateOrTime isOther
  intro failed
  rw [typePathForId, if_neg (by decide), datetimeTypePath_eq_none features noDate noDatetime]
    at failed
  cases plainTypePath_eq_error failed

/-- A preference for dates changes nothing for other columns as long as there is none, or a
preference for numbers comes before it. -/
theorem dateTime_unchanged_iff (isOther : info.isDateOrTime = false) (crates : PreferredCrates) :
    typePathForId features info crates =
        typePathForId features info { crates with dateTime := .inferred } ↔
      crates.dateTime = .inferred ∨ crates.numeric ≠ .inferred := by
  rcases crates with ⟨dateTime, numeric⟩
  by_cases preferredNumeric : numeric = .inferred
  · subst preferredNumeric
    by_cases preferred : dateTime = .inferred
    · subst preferred
      simp
    · rw [typePathForId_of_dateTime isOther preferred]
      apply iff_of_false (Ne.symm (typePathForId_ne_dateTime isOther))
      simp [preferred]
  · rw [typePathForId_of_numeric _ _ preferredNumeric,
      typePathForId_of_numeric _ _ preferredNumeric]
    exact iff_of_true rfl (.inr preferredNumeric)

theorem numeric_unchanged_iff (crates : PreferredCrates) :
    typePathForId features info crates =
        typePathForId features info { crates with numeric := .inferred } ↔
      crates.numeric = .inferred := by
  rcases crates with ⟨dateTime, numeric⟩
  by_cases preferredNumeric : numeric = .inferred
  · subst preferredNumeric
    simp
  · rw [typePathForId_of_numeric _ _ preferredNumeric]
    exact iff_of_false (Ne.symm (typePathForId_ne_numeric dateTime)) preferredNumeric

/-- A preference concerns only its own columns exactly when the column is one of them, or
when there is no preference; one for numbers hides one for dates. -/
theorem concernsOwnColumns_iff (info : TursoTypeInfo) (crates : PreferredCrates) :
    (ConcernsOwnColumns (returnTypeForId allFeatures info) info crates ∧
        ConcernsOwnColumns (paramTypeForId allFeatures info) info crates) ↔
      (info.isDateOrTime = true ∨ crates.dateTime = .inferred ∨ crates.numeric ≠ .inferred) ∧
        (info.isDecimal = true ∨ crates.numeric = .inferred) := by
  have concerns : ConcernsOwnColumns (typePathForId allFeatures info) info crates ↔
      (info.isDateOrTime = true ∨ crates.dateTime = .inferred ∨ crates.numeric ≠ .inferred) ∧
        (info.isDecimal = true ∨ crates.numeric = .inferred) := by
    constructor
    · intro own
      constructor
      · cases isOther : info.isDateOrTime with
        | true => exact .inl rfl
        | false => exact .inr ((dateTime_unchanged_iff isOther crates).mp (own.dateTime isOther))
      · cases isOther : info.isDecimal with
        | true => exact .inl rfl
        | false => exact .inr ((numeric_unchanged_iff crates).mp (own.numeric isOther))
    · intro condition
      constructor
      · intro isOther
        have unchanged := condition.1.resolve_left (by rw [isOther]; decide)
        exact (dateTime_unchanged_iff isOther crates).mpr unchanged
      · intro isOther
        have unchanged := condition.2.resolve_left (by rw [isOther]; decide)
        exact (numeric_unchanged_iff crates).mpr unchanged
  exact (and_self_iff (a := ConcernsOwnColumns (typePathForId allFeatures info) info crates)).trans
    concerns

theorem chrono_breaks_integer_columns :
    ¬ConcernsOwnColumns (returnTypeForId allFeatures ⟨"INTEGER"⟩) ⟨"INTEGER"⟩
      ⟨.chrono, .inferred⟩ := by
  intro own
  have changed : returnTypeForId allFeatures ⟨"INTEGER"⟩ ⟨.chrono, .inferred⟩ ≠
      returnTypeForId allFeatures ⟨"INTEGER"⟩ ⟨.inferred, .inferred⟩ := by decide
  exact changed (own.dateTime (by decide))

end Preferences

end SqlxTurso
