import SqlxTurso.Arguments
import SqlxTurso.Temporal.DateTimes
import SqlxTurso.Temporal.JulianDays
import SqlxTurso.Temporal.Times

/-!
# Dates and times that are encoded

A date and time with an offset is written in the standard format, whose offset is in whole
minutes; one without an offset and a date are written as SQLite writes them.  What is decoded
from these texts is what was encoded, up to the seconds of an offset.
-/

namespace SqlxTurso

open Library

/-- What the adapter uses of the library for dates. -/
structure ChronoCrate extends Chrono where
  timestampOpt : Int64 → UInt32 → Option DateTime
  naiveDateParseFromStr (text format : String) : Except String NaiveDate
  /-- with a fraction of no, three, six or nine digits and without the letter for UTC -/
  toRfc3339Opts : DateTime → String
  formatNaiveDateTime : NaiveDateTime → String → String
  formatNaiveDate : NaiveDate → String → String

/-! ## The encoders -/

section Encode

variable (crate : ChronoCrate)

/-- `chrono::DateTime`, of any time zone. -/
def encodeDateTime (value : DateTime) : Encoding :=
  .writes (.text (crate.toRfc3339Opts value))

def encodeNaiveDateTime (value : NaiveDateTime) : Encoding :=
  .writes (.text (crate.formatNaiveDateTime value "%F %T%.f"))

def encodeNaiveDate (value : NaiveDate) : Encoding :=
  .writes (.text (crate.formatNaiveDate value "%F"))

end Encode

/-! ## The decoders -/

inductive TursoTemporalValue where
  | text (value : String)
  | integer (value : Int64)
  | real (bits : UInt64)

def TursoValueRef.textOrIntegerOrReal (value : TursoValueRef) :
    Except DecodeError TursoTemporalValue :=
  match value.kind with
  | .text value => .ok (.text value)
  | .integer value => .ok (.integer value)
  | .real bits => .ok (.real bits)
  | _ => .error (.unsupported "decoding non-temporal Turso value as temporal")

section Decode

-- What is made of a Julian day is told of exact numbers, and a parameter here.
variable (crate : ChronoCrate) (decodeChronoDatetimeFromReal : UInt64 → Option DateTime)

def decodeChronoDatetime (value : TursoValueRef) : Except DecodeError DateTime := do
  let value ← value.textOrIntegerOrReal
  let datetime := match value with
    | .text value => decodeChronoDatetimeFromText crate.toChrono value
    | .integer value => decodeChronoDatetimeFromInt crate.timestampOpt value
    | .real bits => decodeChronoDatetimeFromReal bits
  match datetime with
  | some datetime => .ok datetime
  | none => .error (.content "invalid datetime")

/-- A type is compatible with a date and time. -/
def naiveDateTimeCompatible (typeInfo : TursoTypeInfo) : Bool :=
  typeInfo.hasDatetimeAffinity || typeInfo.hasTextAffinity || typeInfo.hasIntegerAffinity ||
    typeInfo.hasRealAffinity

/-- `chrono::DateTime<chrono::FixedOffset>`. -/
def SqlType.dateTime : SqlType DateTime where
  typeInfo := ⟨"DATETIME"⟩
  compatible := naiveDateTimeCompatible
  decode := decodeChronoDatetime crate decodeChronoDatetimeFromReal

/-- `chrono::DateTime<chrono::Utc>` and the one of the local time zone, which keep the
instant. -/
def SqlType.dateTimeUtc : SqlType Int where
  typeInfo := ⟨"DATETIME"⟩
  compatible := naiveDateTimeCompatible
  decode value := do
    let datetime ← decodeChronoDatetime crate decodeChronoDatetimeFromReal value
    .ok datetime.instant

def SqlType.naiveDateTime : SqlType NaiveDateTime where
  typeInfo := ⟨"DATETIME"⟩
  compatible := naiveDateTimeCompatible
  decode value := do
    let datetime ← decodeChronoDatetime crate decodeChronoDatetimeFromReal value
    .ok datetime.naiveLocal

def SqlType.naiveDate : SqlType NaiveDate where
  typeInfo := ⟨"DATE"⟩
  compatible typeInfo := typeInfo.hasDateAffinity || typeInfo.hasTextAffinity
  decode value := do
    let text ← value.text
    match crate.naiveDateParseFromStr text "%F" with
    | .ok date => .ok date
    | .error message => .error (.content message)

end Decode

/-! ## What the library writes -/

/-- The minutes nearest to an offset, without its sign. -/
def nearestMinutes (offset : Int) : Nat := (offset.natAbs + 30) / 60

theorem nearestMinutes_le {offset : Int} (below : offset.natAbs < 86400) :
    nearestMinutes offset ≤ 1440 := by
  unfold nearestMinutes
  omega

/-- An offset as it is written, in whole minutes. -/
def offsetSuffix (offset : Int) (below : offset.natAbs < 86400) : Suffix :=
  .offset (decide (offset < 0))
    ⟨nearestMinutes offset / 60, by have := nearestMinutes_le below; omega⟩
    ⟨nearestMinutes offset % 60, Nat.mod_lt _ (by decide)⟩

/-- The text of a date and time with its offset. -/
def standardDateTime (datetime : DateTime) (year_lt : datetime.naiveLocal.date.year < 10000) :
    Written where
  date := datetime.naiveLocal.date
  year_lt := year_lt
  separator := .t
  clock := (writeTime datetime.naiveLocal.time).clock
  suffix := offsetSuffix datetime.offset datetime.offset_lt

/-- The text of a date and time without an offset. -/
def sqliteDateTime (datetime : NaiveDateTime) (year_lt : datetime.date.year < 10000) :
    Written where
  date := datetime.date
  year_lt := year_lt
  separator := .space
  clock := (writeTime datetime.time).clock
  suffix := .none

def dateChars (date : NaiveDate) : List Char :=
  Field.year.text date.year ++ '-' :: (Field.month.text date.month ++
    '-' :: Field.day.text date.day)

def dateText (date : NaiveDate) : String := String.ofList (dateChars date)

/-- The library writes as documented: digits for all fields, a fraction of as many digits as
it takes, and an offset to the nearest minute. -/
structure ChronoCrate.Writes (crate : ChronoCrate) : Prop where
  rfc3339 (datetime : DateTime) (year_lt : datetime.naiveLocal.date.year < 10000) :
    crate.toRfc3339Opts datetime = (standardDateTime datetime year_lt).text
  naiveDateTime (datetime : NaiveDateTime) (year_lt : datetime.date.year < 10000) :
    crate.formatNaiveDateTime datetime "%F %T%.f" = (sqliteDateTime datetime year_lt).text
  naiveDate (date : NaiveDate) :
    date.year < 10000 → crate.formatNaiveDate date "%F" = dateText date

/-- The library reads the texts of dates as documented, and finds no time in them. -/
structure ChronoCrate.ReadsDates (crate : ChronoCrate) : Prop where
  naiveDate (text : String) :
    (∃ date : NaiveDate, date.year < 10000 ∧ text = dateText date) ∨
        (∃ written : Written, text = written.text) →
      (crate.naiveDateParseFromStr text "%F").toOption =
        (readFormat "%F" text).bind Reading.naiveDate
  rfc3339 (date : NaiveDate) :
    date.year < 10000 → crate.parseFromRfc3339 (dateText date) = none
  dateTime (date : NaiveDate) :
    date.year < 10000 → ∀ format ∈ sqliteDatetimeFormats,
      crate.dateTimeParseFromStr (dateText date) format =
        (readFormat format (dateText date)).bind Reading.dateTime
  naiveDateTime (date : NaiveDate) :
    date.year < 10000 → ∀ format ∈ sqliteDatetimeFormats,
      crate.naiveDateTimeParseFromStr (dateText date) format =
        (readFormat format (dateText date)).bind Reading.naiveDateTime

/-! ## Offsets -/

theorem offsetSuffix_seconds {offset : Int} (below : offset.natAbs < 86400) :
    (offsetSuffix offset below).seconds =
      (if offset < 0 then -1 else 1) * (nearestMinutes offset * 60 : Nat) := by
  have whole : nearestMinutes offset / 60 * 60 + nearestMinutes offset % 60 =
      nearestMinutes offset := Nat.div_add_mod' _ _
  simp only [offsetSuffix, Suffix.seconds, whole, decide_eq_true_eq]

/-- An offset is written as it is exactly when it is in whole minutes. -/
theorem offsetSuffix_eq_iff {offset : Int} (below : offset.natAbs < 86400) :
    (offsetSuffix offset below).seconds = offset ↔ 60 ∣ offset := by
  rw [offsetSuffix_seconds, nearestMinutes]
  split
  next negative => omega
  next nonneg => omega

theorem offsetSuffix_near {offset : Int} (below : offset.natAbs < 86400) :
    ((offsetSuffix offset below).seconds - offset).natAbs ≤ 30 := by
  rw [offsetSuffix_seconds, nearestMinutes]
  split
  next negative => omega
  next nonneg => omega

/-- An offset is written as a whole day from half a minute before it. -/
theorem offsetSuffix_lt_iff {offset : Int} (below : offset.natAbs < 86400) :
    (offsetSuffix offset below).seconds.natAbs < 86400 ↔ offset.natAbs < 86370 := by
  rw [offsetSuffix_seconds, nearestMinutes]
  split
  next negative => omega
  next nonneg => omega

/-! ## Dates -/

section Dates

variable {date : NaiveDate} (year_lt : date.year < 10000)

include year_lt

/-- The items of a date read the text of a date, and go on with what follows it. -/
theorem readItems_dateChars (rest : List Char) (items : List Item) :
    readItems {} (Field.year.text date.year ++ '-' :: (Field.month.text date.month ++
        '-' :: (Field.day.text date.day ++ rest)))
        (.number .year :: .literal '-' :: .number .month :: .literal '-' :: .number .day ::
          items) =
      readItems { year := date.year, month := date.month, day := date.day } rest items :=
  Written.readItems_date ⟨date, year_lt, .t, .minutes 0 0, .none⟩ rest items

theorem readFormat_dateText :
    (readFormat "%F" (dateText date)).bind Reading.naiveDate = some date := by
  have read := readItems_dateChars year_lt [] []
  rw [List.append_nil] at read
  rw [readFormat, dateText, String.toList_ofList]
  refine (congrArg (Option.bind · Reading.naiveDate) read).trans ?_
  simp [readItems, Reading.naiveDate, date.isDay]

/-- No format for dates and times reads the text of a date. -/
theorem readFormat_dateText_layout (layout : Layout) :
    readFormat layout.format (dateText date) = none := by
  have read := readItems_dateChars year_lt []
    (.literal layout.separator.char :: (layout.precision.items ++ layout.zone.items))
  rw [List.append_nil] at read
  rw [readFormat, layout.items_format, dateText, String.toList_ofList]
  exact read.trans (readItems_literal_nil _ _ _)

end Dates

/-- The format for dates does not read the text of a date and time. -/
theorem readFormat_date_written (written : Written) : readFormat "%F" written.text = none := by
  have read := written.readItems_date
    (written.separator.char :: written.clock.write written.suffix.text) []
  rw [readFormat, Written.text, String.toList_ofList]
  exact read

/-! ## What is decoded -/

/-- The time with these digits of its fraction. -/
def clockOf (time : NaiveTime) (fraction : List (Fin 10)) : Clock :=
  .seconds ⟨time.hour, time.hour_lt⟩ ⟨time.minute, time.minute_lt⟩
    ⟨time.second, time.second_lt⟩ fraction

/-- At most nine digits that are so many nanoseconds. -/
structure Digits (fraction : List (Fin 10)) (nanosecond : Nat) : Prop where
  digits_le : fraction.length ≤ 9
  value : fractionValue fraction * 10 ^ 9 = nanosecond

/-- The time that the digits say is the time they were taken from. -/
theorem clockOf_time {time : NaiveTime} {fraction : List (Fin 10)}
    (digits : Digits fraction time.nanosecond) : (clockOf time fraction).time = time := by
  have nanosecond : nanoseconds (fractionDigits fraction) = time.nanosecond := by
    have exactly := nanoseconds_eq digits.digits_le
    rw [digits.value] at exactly
    exact Nat.cast_injective exactly
  simp only [clockOf, Clock.time, nanosecond]

theorem digits_fractionOf (time : NaiveTime) :
    Digits (fractionOf time.nanosecond) time.nanosecond :=
  have spec := fractionOf_spec time.nanosecond_lt
  ⟨spec.1, spec.2⟩

theorem writeTime_time (time : NaiveTime) : (writeTime time).clock.time = time :=
  clockOf_time (digits_fractionOf time)

/-- The value holds what was encoded, with any declared type. -/
def HoldsEncoded (encoding : Encoding) (value : TursoValueRef) : Prop :=
  ∃ stored, encoding.encoded = some stored ∧ value.kind = stored.kind

theorem holdsEncoded_text {text : String} {value : TursoValueRef}
    (holds : HoldsEncoded (.writes (.text text)) value) : value.kind = .text text := by
  obtain ⟨stored, isStored, sameKind⟩ := holds
  cases isStored
  exact sameKind

theorem dateTime_eq_iff {first second : DateTime} :
    first = second ↔ first.naiveLocal = second.naiveLocal ∧ first.offset = second.offset := by
  cases first
  cases second
  simp only [DateTime.mk.injEq]

theorem decoded_naiveLocal (written : Written) :
    written.decoded.naiveLocal = written.naiveLocal := by
  rw [Written.decoded]
  split
  next => rfl
  next => rfl

/-- The local time is read as it was, and the offset as it is written. -/
theorem decoded_standardDateTime (datetime : DateTime)
    (year_lt : datetime.naiveLocal.date.year < 10000) :
    (standardDateTime datetime year_lt).decoded.naiveLocal = datetime.naiveLocal ∧
      (standardDateTime datetime year_lt).decoded.offset =
        if (offsetSuffix datetime.offset datetime.offset_lt).seconds.natAbs < 86400 then
          (offsetSuffix datetime.offset datetime.offset_lt).seconds
        else 0 := by
  have sameLocal : (standardDateTime datetime year_lt).naiveLocal = datetime.naiveLocal := by
    rw [Written.naiveLocal]
    simp only [standardDateTime, writeTime_time]
  have isSuffix : (standardDateTime datetime year_lt).suffix =
      offsetSuffix datetime.offset datetime.offset_lt := rfl
  rw [Written.decoded, isSuffix]
  split
  next => exact ⟨sameLocal, rfl⟩
  next => exact ⟨sameLocal, rfl⟩

theorem decoded_sqliteDateTime (datetime : NaiveDateTime)
    (year_lt : datetime.date.year < 10000) :
    (sqliteDateTime datetime year_lt).decoded = .fromUtc datetime := by
  have sameLocal : (sqliteDateTime datetime year_lt).naiveLocal = datetime := by
    rw [Written.naiveLocal]
    simp only [sqliteDateTime, writeTime_time]
  have noSeconds : (sqliteDateTime datetime year_lt).suffix.seconds = 0 := rfl
  rw [Written.decoded, dif_pos (by rw [noSeconds]; decide), dateTime_eq_iff]
  exact ⟨sameLocal, noSeconds⟩

section Decoded

variable {crate : ChronoCrate} {fromReal : UInt64 → Option DateTime}

theorem decodeChronoDatetime_text {value : TursoValueRef} {text : String}
    (isText : value.kind = .text text) :
    decodeChronoDatetime crate fromReal value =
      (decodeChronoDatetimeFromText crate.toChrono text).elim
        (.error (.content "invalid datetime")) .ok := by
  have isTemporal : value.textOrIntegerOrReal = .ok (.text text) := by
    rw [TursoValueRef.textOrIntegerOrReal, isText]
  rw [decodeChronoDatetime, isTemporal]
  dsimp only [bind, Except.bind]
  cases decodeChronoDatetimeFromText crate.toChrono text with
  | none => rfl
  | some datetime => rfl

/-- A text that no format for dates and times reads is not decoded. -/
theorem decodes_dateText (reads : crate.ReadsDates) {date : NaiveDate}
    (year_lt : date.year < 10000) :
    decodeChronoDatetimeFromText crate.toChrono (dateText date) = none := by
  rw [decodeChronoDatetimeFromText, reads.rfc3339 date year_lt]
  simp only [List.findSome?_eq_none_iff]
  intro format isFormat
  have noReading : readFormat format (dateText date) = none := by
    rw [sqliteDatetimeFormats_eq] at isFormat
    obtain ⟨layout, -, rfl⟩ := List.mem_map.mp isFormat
    exact readFormat_dateText_layout year_lt layout
  rw [decodeWithFormat, reads.dateTime date year_lt format isFormat,
    reads.naiveDateTime date year_lt format isFormat, noReading]
  rfl

theorem naiveDate_decode {value : TursoValueRef} {text : String}
    (isText : value.kind = .text text) :
    (SqlType.naiveDate crate).decode value =
      SqlType.fromContent (crate.naiveDateParseFromStr text "%F") := by
  have textOf : value.text = .ok text := by
    rw [TursoValueRef.text, isText]
  rw [SqlType.naiveDate]
  dsimp only
  rw [textOf]
  dsimp only [bind, Except.bind]
  cases crate.naiveDateParseFromStr text "%F" with
  | ok date => rfl
  | error message => rfl

theorem naiveDate_decode_dateText (reads : crate.ReadsDates) {date : NaiveDate}
    (year_lt : date.year < 10000) {value : TursoValueRef}
    (isText : value.kind = .text (dateText date)) :
    (SqlType.naiveDate crate).decode value = .ok date := by
  have isDate := reads.naiveDate _ (.inl ⟨date, year_lt, rfl⟩)
  rw [readFormat_dateText year_lt] at isDate
  rw [naiveDate_decode isText]
  cases parsed : crate.naiveDateParseFromStr (dateText date) "%F" with
  | ok found =>
      rw [parsed] at isDate
      cases isDate
      rfl
  | error message =>
      rw [parsed] at isDate
      cases isDate

variable (documented : crate.toChrono.Documented)

include documented

variable (fromReal) in
/-- Every decoder of a date and time finds what is written. -/
theorem decodes_written (written : Written) {value : TursoValueRef}
    (isText : value.kind = .text written.text) :
    (SqlType.dateTime crate fromReal).decode value = .ok written.decoded ∧
      (SqlType.dateTimeUtc crate fromReal).decode value = .ok written.decoded.instant ∧
      (SqlType.naiveDateTime crate fromReal).decode value =
        .ok written.decoded.naiveLocal := by
  have decoded : decodeChronoDatetime crate fromReal value = .ok written.decoded := by
    rw [decodeChronoDatetime_text isText, decodeChronoDatetimeFromText_text documented]
    rfl
  exact ⟨decoded, bind_eq_ok_iff.mpr ⟨_, decoded, rfl⟩, bind_eq_ok_iff.mpr ⟨_, decoded, rfl⟩⟩

variable (fromReal) in
/-- A date and time comes back as it was encoded exactly when its offset is in whole minutes;
its local time always does.  Other seconds of the offset are rounded, and an offset that is
rounded to a whole day is lost. -/
theorem date_times_keep_whole_minutes (writes : crate.Writes) (datetime : DateTime)
    (year_lt : datetime.naiveLocal.date.year < 10000) {value : TursoValueRef}
    (holds : HoldsEncoded (encodeDateTime crate datetime) value) :
    ((SqlType.dateTime crate fromReal).decode value = .ok datetime ↔ 60 ∣ datetime.offset) ∧
      ((SqlType.dateTimeUtc crate fromReal).decode value = .ok datetime.instant ↔
        60 ∣ datetime.offset) ∧
      (SqlType.naiveDateTime crate fromReal).decode value = .ok datetime.naiveLocal ∧
      ∃ decoded, (SqlType.dateTime crate fromReal).decode value = .ok decoded ∧
        decoded.naiveLocal = datetime.naiveLocal ∧
        if datetime.offset.natAbs < 86370 then
          (decoded.offset - datetime.offset).natAbs ≤ 30
        else decoded.offset = 0 := by
  have isText : value.kind = .text (standardDateTime datetime year_lt).text := by
    rw [← writes.rfc3339]
    exact holdsEncoded_text holds
  obtain ⟨isDecoded, isInstant, isLocal⟩ := decodes_written fromReal documented _ isText
  obtain ⟨sameLocal, isOffset⟩ := decoded_standardDateTime datetime year_lt
  have sameOffset : (standardDateTime datetime year_lt).decoded.offset = datetime.offset ↔
      60 ∣ datetime.offset := by
    rw [isOffset, ← offsetSuffix_eq_iff datetime.offset_lt]
    have rounds := offsetSuffix_lt_iff datetime.offset_lt
    have below := datetime.offset_lt
    split
    next => exact Iff.rfl
    next tooLong => omega
  rw [isDecoded, isInstant, isLocal, sameLocal]
  refine ⟨?_, ?_, rfl, _, rfl, sameLocal, ?_⟩
  · rw [← sameOffset, Except.ok.injEq, dateTime_eq_iff]
    exact and_iff_right sameLocal
  · rw [← sameOffset, Except.ok.injEq, DateTime.instant, DateTime.instant, sameLocal]
    omega
  · rw [isOffset]
    have rounds := offsetSuffix_lt_iff datetime.offset_lt
    have near := offsetSuffix_near datetime.offset_lt
    split
    next below => simpa only [if_pos (rounds.mpr below)] using near
    next tooLong => rw [if_neg (fun below => tooLong (rounds.mp below))]

variable (fromReal) in
/-- A date and time without an offset comes back as it was encoded, and in UTC where an
offset is asked for; it is no date.  A date comes back as well, and is no date and time. -/
theorem naive_dates_and_times_are_decoded (reads : crate.ReadsDates) (writes : crate.Writes) :
    (∀ (datetime : NaiveDateTime) value, datetime.date.year < 10000 →
      HoldsEncoded (encodeNaiveDateTime crate datetime) value →
        (SqlType.naiveDateTime crate fromReal).decode value = .ok datetime ∧
          (SqlType.dateTime crate fromReal).decode value = .ok (.fromUtc datetime) ∧
          (SqlType.dateTimeUtc crate fromReal).decode value = .ok datetime.instant ∧
          ∃ message, (SqlType.naiveDate crate).decode value = .error (.content message)) ∧
      ∀ (date : NaiveDate) value, date.year < 10000 →
        HoldsEncoded (encodeNaiveDate crate date) value →
          (SqlType.naiveDate crate).decode value = .ok date ∧
            (SqlType.naiveDateTime crate fromReal).decode value =
              .error (.content "invalid datetime") ∧
            (SqlType.dateTime crate fromReal).decode value =
              .error (.content "invalid datetime") ∧
            (SqlType.dateTimeUtc crate fromReal).decode value =
              .error (.content "invalid datetime") := by
  constructor
  · intro datetime value year_lt holds
    have isText : value.kind = .text (sqliteDateTime datetime year_lt).text := by
      rw [← writes.naiveDateTime]
      exact holdsEncoded_text holds
    have isDecoded := decodes_written fromReal documented _ isText
    rw [decoded_sqliteDateTime] at isDecoded
    obtain ⟨asDateTime, asInstant, asNaive⟩ := isDecoded
    have noDate := reads.naiveDate _ (.inr ⟨sqliteDateTime datetime year_lt, rfl⟩)
    rw [readFormat_date_written] at noDate
    refine ⟨asNaive, asDateTime, ?_, ?_⟩
    · rw [asInstant, DateTime.instant, DateTime.fromUtc]
      simp
    · rw [naiveDate_decode isText]
      cases parsed : crate.naiveDateParseFromStr (sqliteDateTime datetime year_lt).text "%F" with
      | ok date =>
          rw [parsed] at noDate
          cases noDate
      | error message => exact ⟨message, rfl⟩
  · intro date value year_lt holds
    have isText : value.kind = .text (dateText date) := by
      rw [← writes.naiveDate date year_lt]
      exact holdsEncoded_text holds
    have notDecoded : decodeChronoDatetime crate fromReal value =
        .error (.content "invalid datetime") := by
      rw [decodeChronoDatetime_text isText, decodes_dateText reads year_lt]
      rfl
    refine ⟨naiveDate_decode_dateText reads year_lt isText, ?_, notDecoded, ?_⟩
    · rw [SqlType.naiveDateTime]
      dsimp only
      rw [notDecoded]
      rfl
    · rw [SqlType.dateTimeUtc]
      dsimp only
      rw [notDecoded]
      rfl

end Decoded

/-! ## A library that is documented -/

/-- A date that is read by the items of a format. -/
def documentedDateParseFromStr (text format : String) : Except String NaiveDate :=
  match (readFormat format text).bind Reading.naiveDate with
  | some date => .ok date
  | none => .error "premature end of input"

/-- The library as it is documented, for the years of four digits. -/
def documentedCrate : ChronoCrate where
  toChrono := documentedChrono
  timestampOpt _ _ := none
  naiveDateParseFromStr := documentedDateParseFromStr
  toRfc3339Opts datetime :=
    if year_lt : datetime.naiveLocal.date.year < 10000 then
      (standardDateTime datetime year_lt).text
    else ""
  formatNaiveDateTime datetime _ :=
    if year_lt : datetime.date.year < 10000 then (sqliteDateTime datetime year_lt).text else ""
  formatNaiveDate date _ := dateText date

theorem documentedCrate_writes : documentedCrate.Writes where
  rfc3339 _ year_lt := dif_pos year_lt
  naiveDateTime _ year_lt := dif_pos year_lt
  naiveDate _ _ := rfl

theorem documentedCrate_readsDates : documentedCrate.ReadsDates where
  naiveDate text _ := by
    change (documentedDateParseFromStr text "%F").toOption = _
    rw [documentedDateParseFromStr]
    cases (readFormat "%F" text).bind Reading.naiveDate with
    | none => rfl
    | some date => rfl
  rfc3339 date year_lt := by
    have offsetFormat : "%FT%T%.f%:z" = Layout.format ⟨.t, .seconds, .offset⟩ := by decide
    have zFormat : "%FT%T%.fZ" = Layout.format ⟨.t, .seconds, .z⟩ := by decide
    change documentedChrono.parseFromRfc3339 (dateText date) = none
    simp only [documentedChrono, offsetFormat, zFormat, readFormat_dateText_layout year_lt]
    rfl
  dateTime _ _ _ _ := rfl
  naiveDateTime _ _ _ _ := rfl

/-- The last second of a day, with no fraction. -/
def lastSecond : NaiveTime := (Clock.seconds (.last 23) (.last 59) (.last 59) []).time

/-- The end of a day nineteen minutes and thirty-two seconds east. -/
def amsterdam : DateTime := ⟨⟨⟨1911, 1, 1, by decide⟩, lastSecond⟩, 1172, by decide⟩

/-- The seconds of an offset are not kept. -/
theorem amsterdam_is_rounded :
    (SqlType.dateTime documentedCrate fun _ => none).decode
        (TursoValue.text (documentedCrate.toRfc3339Opts amsterdam)) ≠ .ok amsterdam ∧
      (SqlType.naiveDateTime documentedCrate fun _ => none).decode
        (TursoValue.text (documentedCrate.toRfc3339Opts amsterdam)) = .ok amsterdam.naiveLocal := by
  have kept := date_times_keep_whole_minutes (fun _ => none) documentedChrono_documented
    documentedCrate_writes amsterdam (by decide) ⟨_, rfl, rfl⟩
  refine ⟨?_, kept.2.2.1⟩
  intro same
  exact absurd (kept.1.mp same) (by decide)

theorem leap_day_is_a_date :
    (SqlType.naiveDate documentedCrate).decode (TursoValue.text (dateText leapDay.date)) =
      .ok leapDay.date := by
  have decoded := naive_dates_and_times_are_decoded (fun _ => none) documentedChrono_documented
    documentedCrate_readsDates documentedCrate_writes
  exact (decoded.2 leapDay.date _ (by decide) ⟨_, rfl, rfl⟩).1

end SqlxTurso
