import SqlxTurso.Library.Description
import SqlxTurso.Temporal.Encoded

/-!
# The other library for dates

The types of the library `time` are written and read by descriptions, in which a fraction of
a second is not optional, and with an offset by the standard format, which has no place for
the seconds of one.  Both libraries may be used on one database.
-/

namespace SqlxTurso

open Library

/-- A local time with its offset from UTC in seconds, which may be more than a day. -/
structure OffsetDateTime where
  naiveLocal : NaiveDateTime
  offset : Int
  offset_lt : offset.natAbs < 93600
  deriving DecidableEq

namespace OffsetDateTime

def assumeUtc (datetime : NaiveDateTime) : OffsetDateTime := ⟨datetime, 0, by decide⟩

/-- A date and time of the other library. -/
def ofDateTime (datetime : DateTime) : OffsetDateTime :=
  ⟨datetime.naiveLocal, datetime.offset, Nat.lt_trans datetime.offset_lt (by decide)⟩

end OffsetDateTime

/-- What the adapter uses of the library. -/
structure TimeCrate where
  formatRfc3339 : OffsetDateTime → Except String String
  formatDateTime (value : NaiveDateTime) (description : String) : Except String String
  formatDate (value : NaiveDate) (description : String) : Except String String
  formatTime (value : NaiveTime) (description : String) : Except String String
  parseRfc3339 : String → Except String OffsetDateTime
  parseDateTime (text description : String) : Except String NaiveDateTime
  parseDate (text description : String) : Except String NaiveDate
  parseTime (text description : String) : Except String NaiveTime
  fromUnixTimestamp : Int64 → Except String OffsetDateTime

def defaultDescription : String :=
  "[year]-[month]-[day] [hour]:[minute]:[second].[subsecond]"

def tDescription : String := "[year]-[month]-[day]T[hour]:[minute]:[second].[subsecond]"

def dateDescription : String := "[year]-[month]-[day]"

def timeDescriptions : List String :=
  ["[hour]:[minute]:[second].[subsecond]", "[hour]:[minute]:[second]", "[hour]:[minute]"]

section Code

variable (crate : TimeCrate)

/-! ## The encoders -/

/-- The text that was formatted, or the error before anything is written. -/
def encodeFormatted : Except String String → Encoding
  | .ok text => .writes (.text text)
  | .error error => .fails [] error

def encodeOffsetDateTime (value : OffsetDateTime) : Encoding :=
  encodeFormatted (crate.formatRfc3339 value)

def encodePrimitiveDateTime (value : NaiveDateTime) : Encoding :=
  encodeFormatted (crate.formatDateTime value defaultDescription)

def encodeDate (value : NaiveDate) : Encoding :=
  encodeFormatted (crate.formatDate value dateDescription)

def encodeTime (value : NaiveTime) : Encoding :=
  encodeFormatted (crate.formatTime value "[hour]:[minute]:[second].[subsecond]")

/-! ## The decoders -/

def decodeTimePrimitiveDatetimeFromText (value : String) : Except DecodeError NaiveDateTime :=
  match crate.parseDateTime value defaultDescription with
  | .ok datetime => .ok datetime
  | .error _ => SqlType.fromContent (crate.parseDateTime value tDescription)

def decodeTimeOffsetDatetime (value : TursoValueRef) : Except DecodeError OffsetDateTime := do
  match ← value.textOrIntegerOrReal with
  | .text value =>
      match crate.parseRfc3339 value with
      | .ok datetime => .ok datetime
      | .error _ => do
          let datetime ← decodeTimePrimitiveDatetimeFromText crate value
          .ok (.assumeUtc datetime)
  | .integer value => SqlType.fromContent (crate.fromUnixTimestamp value)
  | .real _ => .error (.content "REAL datetimes are not supported by sqlx time")

def decodeTimePrimitiveDatetime (value : TursoValueRef) : Except DecodeError NaiveDateTime := do
  match ← value.textOrIntegerOrReal with
  | .text value => decodeTimePrimitiveDatetimeFromText crate value
  | .integer value => do
      let parsed ← SqlType.fromContent (crate.fromUnixTimestamp value)
      .ok parsed.naiveLocal
  | .real _ => .error (.content "REAL datetimes are not supported by sqlx time")

/-- The descriptions are tried in turn. -/
def decodeTimeBy (value : TursoValueRef) : List String → Except DecodeError NaiveTime
  | [] => do
      let text ← value.text
      .error (.content ("invalid time: " ++ text))
  | description :: descriptions => do
      let text ← value.text
      match crate.parseTime text description with
      | .ok time => .ok time
      | .error _ => decodeTimeBy value descriptions

def primitiveDateTimeCompatible (typeInfo : TursoTypeInfo) : Bool :=
  typeInfo.hasDatetimeAffinity || typeInfo.hasTextAffinity || typeInfo.hasIntegerAffinity

namespace SqlType

def offsetDateTime : SqlType OffsetDateTime where
  typeInfo := ⟨"DATETIME"⟩
  compatible := primitiveDateTimeCompatible
  decode := decodeTimeOffsetDatetime crate

def primitiveDateTime : SqlType NaiveDateTime where
  typeInfo := ⟨"DATETIME"⟩
  compatible := primitiveDateTimeCompatible
  decode := decodeTimePrimitiveDatetime crate

def timeDate : SqlType NaiveDate where
  typeInfo := ⟨"DATE"⟩
  compatible typeInfo := typeInfo.hasDateAffinity || typeInfo.hasTextAffinity
  decode value := do
    let text ← value.text
    fromContent (crate.parseDate text dateDescription)

def timeTime : SqlType NaiveTime where
  typeInfo := ⟨"TIME"⟩
  compatible typeInfo := typeInfo.hasTimeAffinity || typeInfo.hasTextAffinity
  decode value := decodeTimeBy crate value timeDescriptions

end SqlType

end Code

/-! ## What the library writes and reads -/

/-- An offset in whole minutes below a day, which the standard format has a place for. -/
def Standard (offset : Int) : Prop := 60 ∣ offset ∧ offset.natAbs < 86400

/-- A standard offset, with the letter for UTC. -/
def standardSuffix (offset : Int) (standard : Standard offset) : Suffix :=
  if offset = 0 then .z
  else .offset (decide (offset < 0)) ⟨offset.natAbs / 3600, by have := standard.2; omega⟩
    ⟨offset.natAbs / 60 % 60, Nat.mod_lt _ (by decide)⟩

/-- The library writes as documented: a fraction has the digits it takes, of which a
description takes one at least, and other offsets than standard ones are refused. -/
structure TimeCrate.Writes (crate : TimeCrate) : Prop where
  rfc3339 (value : OffsetDateTime) (year_lt : value.naiveLocal.date.year < 10000)
      (standard : Standard value.offset) :
    ∃ fraction, Digits fraction value.naiveLocal.time.nanosecond ∧
      crate.formatRfc3339 value = .ok (Written.text ⟨value.naiveLocal.date, year_lt, .t,
        clockOf value.naiveLocal.time fraction, standardSuffix value.offset standard⟩)
  refuses (value : OffsetDateTime) :
    ¬Standard value.offset → ∃ message, crate.formatRfc3339 value = .error message
  dateTime (value : NaiveDateTime) (year_lt : value.date.year < 10000) :
    ∃ fraction, fraction ≠ [] ∧ Digits fraction value.time.nanosecond ∧
      crate.formatDateTime value defaultDescription = .ok (Written.text ⟨value.date, year_lt,
        .space, clockOf value.time fraction, .none⟩)
  date (value : NaiveDate) :
    value.year < 10000 → crate.formatDate value dateDescription = .ok (dateText value)
  time (value : NaiveTime) :
    ∃ fraction, fraction ≠ [] ∧ Digits fraction value.nanosecond ∧
      crate.formatTime value "[hour]:[minute]:[second].[subsecond]" =
        .ok (String.ofList ((clockOf value fraction).write []))

/-- What the standard format reads of a text that has its letter or no offset: seconds and
an offset are needed, and the hours of an offset are those of a day. -/
def Written.offsetDateTime (written : Written) : Option OffsetDateTime :=
  match written.clock, written.suffix with
  | .seconds _ _ _ _, .z => some ⟨written.naiveLocal, 0, by decide⟩
  | .seconds _ _ _ _, .offset negative hours minutes =>
      if inDay : hours.val < 24 then
        some ⟨written.naiveLocal, (Suffix.offset negative hours minutes).seconds, by
          have := minutes.isLt
          simp only [Suffix.seconds]
          cases negative <;> simp <;> omega⟩
      else none
  | _, _ => none

/-- The library reads texts that are written like dates and times as documented. -/
structure TimeCrate.Reads (crate : TimeCrate) : Prop where
  rfc3339 (written : Written) :
    written.separator = .t ∨ written.suffix = .none →
      (crate.parseRfc3339 written.text).toOption = written.offsetDateTime
  dateTime (written : Written) :
    ∀ description ∈ [defaultDescription, tDescription],
      (crate.parseDateTime written.text description).toOption =
        (readDescription description written.text).bind Reading.naiveDateTime
  date (value : NaiveDate) :
    value.year < 10000 → (crate.parseDate (dateText value) dateDescription).toOption =
      (readDescription dateDescription (dateText value)).bind Reading.naiveDate
  time (clock : Clock) :
    ∀ description ∈ timeDescriptions,
      (crate.parseTime (String.ofList (clock.write [])) description).toOption =
        (readDescription description (String.ofList (clock.write []))).bind Reading.naiveTime

/-- The suffix has an offset, whose hours are those of a day. -/
def Suffix.InDay : Suffix → Prop
  | none => False
  | z => True
  | offset _ hours _ => hours.val < 24

theorem Written.offsetDateTime_eq_some_iff (written : Written) {hour : Fin 24}
    {minute second : Fin 60} {fraction : List (Fin 10)}
    (hasSeconds : written.clock = .seconds hour minute second fraction)
    {datetime : OffsetDateTime} :
    written.offsetDateTime = some datetime ↔ written.suffix.InDay ∧
      datetime.naiveLocal = written.naiveLocal ∧ datetime.offset = written.suffix.seconds := by
  obtain ⟨date, year_lt, separator, clock, suffix⟩ := written
  obtain ⟨naiveLocal, offset, offset_lt⟩ := datetime
  cases hasSeconds
  cases suffix with
  | none => simp [offsetDateTime, Suffix.InDay]
  | z => simp [offsetDateTime, Suffix.InDay, Suffix.seconds, eq_comm]
  | offset negative hours minutes =>
      rw [offsetDateTime]
      dsimp only
      split
      next inDay => simp [Suffix.InDay, inDay, eq_comm]
      next outOfDay => simp [Suffix.InDay, outOfDay]

/-! ## What a description reads -/

def dateFormatItems : List FormatItem :=
  [.number .year, .literal '-', .number .month, .literal '-', .number .day]

def clockFormatItems : List FormatItem :=
  [.number .hour, .literal ':', .number .minute, .literal ':', .number .second, .literal '.',
    .subsecond]

theorem formatItems_default :
    formatItems none defaultDescription.toList =
      dateFormatItems ++ .literal Separator.space.char :: clockFormatItems := by
  decide

theorem formatItems_t :
    formatItems none tDescription.toList =
      dateFormatItems ++ .literal Separator.t.char :: clockFormatItems := by
  decide

theorem readFormatItems_date (reading : Reading) {date : NaiveDate} (year_lt : date.year < 10000)
    (rest : List Char) (items : List FormatItem) :
    readFormatItems reading (Field.year.text date.year ++ '-' :: (Field.month.text date.month ++
        '-' :: (Field.day.text date.day ++ rest))) (dateFormatItems ++ items) =
      readFormatItems (((reading.set date.year .year).set date.month .month).set date.day .day)
        rest items := by
  have year_fits : date.year < 10 ^ Field.year.width := year_lt
  have month_fits : date.month < 10 ^ Field.month.width :=
    Nat.lt_of_le_of_lt date.month_le (by decide)
  have day_fits : date.day < 10 ^ Field.day.width := Nat.lt_of_le_of_lt date.day_le (by decide)
  rw [dateFormatItems, List.cons_append, readFormatItems_number _ _ _ year_fits,
    List.cons_append, readFormatItems_literal, List.cons_append,
    readFormatItems_number _ _ _ month_fits, List.cons_append, readFormatItems_literal,
    List.cons_append, readFormatItems_number _ _ _ day_fits, List.nil_append]

theorem readFormatItems_hourMinute (reading : Reading) (hour : Fin 24) (minute : Fin 60)
    (rest : List Char) (items : List FormatItem) :
    readFormatItems reading (Field.hour.text hour ++ ':' :: (Field.minute.text minute ++ rest))
        (.number .hour :: .literal ':' :: .number .minute :: items) =
      readFormatItems ((reading.set hour .hour).set minute .minute) rest items := by
  have hour_fits : hour.val < 10 ^ Field.hour.width := Nat.lt_trans hour.isLt (by decide)
  have minute_fits : minute.val < 10 ^ Field.minute.width :=
    Nat.lt_trans minute.isLt (by decide)
  rw [readFormatItems_number _ _ _ hour_fits, readFormatItems_literal,
    readFormatItems_number _ _ _ minute_fits]

theorem head_suffix_ne_colon (suffix : Suffix) : suffix.text.head? ≠ some ':' := by
  cases suffix with
  | none => decide
  | z => decide
  | offset negative hours minutes => cases negative <;> simp [Suffix.text]

theorem suffix_text_eq_nil_iff (suffix : Suffix) : suffix.text = [] ↔ suffix = .none := by
  cases suffix with
  | none => exact iff_of_true rfl rfl
  | z => decide
  | offset negative hours minutes => simp [Suffix.text]

/-- A time is read where it has a fraction and nothing follows it. -/
theorem readFormatItems_clock (reading : Reading) (clock : Clock) (suffix : Suffix) :
    readFormatItems reading (clock.write suffix.text) clockFormatItems =
      if clock.fraction ≠ [] ∧ suffix = .none then some (clock.read reading) else none := by
  cases clock with
  | minutes hour minute =>
      rw [if_neg (fun both => both.1 rfl)]
      apply (readFormatItems_hourMinute reading hour minute suffix.text _).trans
      exact readFormatItems_literal_of_head _ _ (head_suffix_ne_colon suffix)
  | seconds hour minute second fraction =>
      have second_fits : second.val < 10 ^ Field.second.width :=
        Nat.lt_trans second.isLt (by decide)
      apply (readFormatItems_hourMinute reading hour minute _ _).trans
      rw [readFormatItems_literal, readFormatItems_number _ _ _ second_fits]
      by_cases noFraction : fraction = []
      · rw [if_pos noFraction, if_neg (fun both => both.1 noFraction)]
        exact readFormatItems_literal_of_head _ _ (head_suffix suffix).1
      · have nonempty : fractionDigits fraction ≠ [] := by
          simpa [fractionDigits] using noFraction
        rw [if_neg noFraction, readFormatItems_literal,
          readFormatItems_subsecond _ _ _ isDigit_of_mem_fractionDigits nonempty
            (head_suffix suffix).2, readFormatItems_nil]
        simp only [suffix_text_eq_nil_iff, Clock.fraction, Clock.read, noFraction, if_false,
          ne_eq, not_false_eq_true, true_and]

/-- A description reads the dates and times with its separator, a fraction and no offset. -/
theorem readFormatItems_written (written : Written) (separator : Separator) :
    readFormatItems {} written.chars
        (dateFormatItems ++ .literal separator.char :: clockFormatItems) =
      if separator = written.separator ∧ written.clock.fraction ≠ [] ∧
          written.suffix = .none then
        some written.read
      else none := by
  apply (readFormatItems_date {} written.year_lt _ _).trans
  by_cases sameSeparator : separator = written.separator
  · rw [sameSeparator, readFormatItems_literal, readFormatItems_clock]
    simp only [true_and]
    split
    next both =>
      rw [Written.read, both.2]
      rfl
    next => rfl
  · have differs : written.separator.char ≠ separator.char := by
      intro same
      apply sameSeparator
      cases separator <;> cases isSeparator : written.separator <;> simp_all [Separator.char]
    rw [if_neg (fun both => sameSeparator both.1)]
    exact readFormatItems_literal_of_ne _ _ _ differs

/-! ## What is decoded of dates and times -/

/-- A text is read as a date and time without an offset: it has a fraction and no offset. -/
def Written.Primitive (written : Written) : Prop :=
  written.clock.fraction ≠ [] ∧ written.suffix = .none

instance (written : Written) : Decidable written.Primitive := by
  unfold Written.Primitive
  infer_instance

theorem toOption_eq_some_iff {α : Type} {result : Except String α} {value : α} :
    result.toOption = some value ↔ result = .ok value := by
  cases result <;> simp [Except.toOption]

theorem toOption_eq_none_iff {α : Type} {result : Except String α} :
    result.toOption = none ↔ ∃ message, result = .error message := by
  cases result <;> simp [Except.toOption]

section Reads

variable {crate : TimeCrate} (reads : crate.Reads)

include reads

/-- The description with a separator reads the texts that have it, if any does. -/
theorem parseDateTime_written (written : Written) {separator : Separator}
    {description : String} (isDescription : description ∈ [defaultDescription, tDescription])
    (hasItems : formatItems none description.toList =
      dateFormatItems ++ .literal separator.char :: clockFormatItems) :
    (crate.parseDateTime written.text description).toOption =
      if separator = written.separator ∧ written.Primitive then some written.naiveLocal
      else none := by
  have read := readFormatItems_written written separator
  rw [reads.dateTime written _ isDescription, readDescription, hasItems, Written.text,
    String.toList_ofList]
  by_cases both : separator = written.separator ∧ written.Primitive
  · rw [if_pos both, read.trans (if_pos both)]
    exact written.naiveDateTime_read
  · rw [if_neg both, read.trans (if_neg both)]
    rfl

/-- A text is decoded by one of the two descriptions exactly when it has a fraction and no
offset. -/
theorem decodeFromText_written (written : Written) :
    if written.Primitive then
      decodeTimePrimitiveDatetimeFromText crate written.text = .ok written.naiveLocal
    else ∃ message,
      decodeTimePrimitiveDatetimeFromText crate written.text = .error (.content message) := by
  have bySpace := parseDateTime_written reads written (by decide) formatItems_default
  have byT := parseDateTime_written reads written (by decide) formatItems_t
  rw [decodeTimePrimitiveDatetimeFromText]
  by_cases primitive : written.Primitive
  · rw [if_pos primitive]
    cases isSeparator : written.separator with
    | space =>
        rw [if_pos ⟨isSeparator.symm, primitive⟩, toOption_eq_some_iff] at bySpace
        rw [bySpace]
    | t =>
        rw [isSeparator, if_neg (by rintro ⟨⟨⟩, _⟩)] at bySpace
        rw [if_pos ⟨isSeparator.symm, primitive⟩, toOption_eq_some_iff] at byT
        obtain ⟨message, isError⟩ := toOption_eq_none_iff.mp bySpace
        rw [isError, byT]
        rfl
  · rw [if_neg primitive]
    rw [if_neg (fun both => primitive both.2)] at bySpace byT
    obtain ⟨first, isFirst⟩ := toOption_eq_none_iff.mp bySpace
    obtain ⟨message, isError⟩ := toOption_eq_none_iff.mp byT
    rw [isFirst, isError]
    exact ⟨message, rfl⟩

theorem primitive_decode_written (written : Written) {value : TursoValueRef}
    (isText : value.kind = .text written.text) :
    if written.Primitive then
      (SqlType.primitiveDateTime crate).decode value = .ok written.naiveLocal
    else ∃ message,
      (SqlType.primitiveDateTime crate).decode value = .error (.content message) := by
  have isTemporal : value.textOrIntegerOrReal = .ok (.text written.text) := by
    rw [TursoValueRef.textOrIntegerOrReal, isText]
  have decodes : (SqlType.primitiveDateTime crate).decode value =
      decodeTimePrimitiveDatetimeFromText crate written.text := by
    rw [SqlType.primitiveDateTime]
    dsimp only
    rw [decodeTimePrimitiveDatetime, isTemporal]
    rfl
  rw [decodes]
  exact decodeFromText_written reads written

theorem offset_decode_of_standard (written : Written) {value : TursoValueRef}
    (isText : value.kind = .text written.text)
    (mayRead : written.separator = .t ∨ written.suffix = .none) {datetime : OffsetDateTime}
    (standard : written.offsetDateTime = some datetime) :
    (SqlType.offsetDateTime crate).decode value = .ok datetime := by
  have isTemporal : value.textOrIntegerOrReal = .ok (.text written.text) := by
    rw [TursoValueRef.textOrIntegerOrReal, isText]
  have parsed := reads.rfc3339 written mayRead
  rw [standard, toOption_eq_some_iff] at parsed
  rw [SqlType.offsetDateTime]
  dsimp only
  rw [decodeTimeOffsetDatetime, isTemporal]
  dsimp only [bind, Except.bind]
  rw [parsed]

/-- A text that the standard format does not read is decoded in UTC, if it has a fraction and
no offset. -/
theorem offset_decode_of_primitive (written : Written) {value : TursoValueRef}
    (isText : value.kind = .text written.text)
    (mayRead : written.separator = .t ∨ written.suffix = .none)
    (notStandard : written.offsetDateTime = none) :
    if written.Primitive then
      (SqlType.offsetDateTime crate).decode value = .ok (.assumeUtc written.naiveLocal)
    else ∃ message,
      (SqlType.offsetDateTime crate).decode value = .error (.content message) := by
  have isTemporal : value.textOrIntegerOrReal = .ok (.text written.text) := by
    rw [TursoValueRef.textOrIntegerOrReal, isText]
  have parsed := reads.rfc3339 written mayRead
  rw [notStandard] at parsed
  obtain ⟨_, notParsed⟩ := toOption_eq_none_iff.mp parsed
  have decodes : (SqlType.offsetDateTime crate).decode value =
      (decodeTimePrimitiveDatetimeFromText crate written.text).map .assumeUtc := by
    rw [SqlType.offsetDateTime]
    dsimp only
    rw [decodeTimeOffsetDatetime, isTemporal]
    dsimp only [bind, Except.bind]
    rw [notParsed]
    cases decodeTimePrimitiveDatetimeFromText crate written.text with
    | error error => rfl
    | ok datetime => rfl
  have primitive := decodeFromText_written reads written
  rw [decodes]
  split at primitive
  next isPrimitive =>
    rw [if_pos isPrimitive, primitive]
    rfl
  next notPrimitive =>
    obtain ⟨message, isError⟩ := primitive
    rw [if_neg notPrimitive, isError]
    exact ⟨message, rfl⟩

end Reads

/-! ## What is decoded of times and dates -/

/-- A time that is decoded by the first description that reads its text. -/
theorem decodeTimeBy_text {crate : TimeCrate} {value : TursoValueRef} {text : String}
    (isText : value.kind = .text text) (descriptions : List String) :
    decodeTimeBy crate value descriptions =
      (descriptions.findSome? fun description =>
        (crate.parseTime text description).toOption).elim
          (.error (.content ("invalid time: " ++ text))) .ok := by
  have textOf : value.text = .ok text := by
    rw [TursoValueRef.text, isText]
  induction descriptions with
  | nil =>
      rw [decodeTimeBy, textOf]
      rfl
  | cons description descriptions ih =>
      rw [decodeTimeBy, textOf, List.findSome?_cons]
      dsimp only [bind, Except.bind]
      cases crate.parseTime text description with
      | ok time => rfl
      | error message => exact ih

/-- The description that a time without an offset is laid out by. -/
def Clock.description : Clock → String
  | minutes _ _ => "[hour]:[minute]"
  | seconds _ _ _ [] => "[hour]:[minute]:[second]"
  | seconds _ _ _ (_ :: _) => "[hour]:[minute]:[second].[subsecond]"

theorem Clock.description_mem (clock : Clock) : clock.description ∈ timeDescriptions := by
  cases clock with
  | minutes hour minute => exact List.mem_cons_of_mem _ (List.mem_cons_of_mem _ List.mem_cons_self)
  | seconds hour minute second fraction =>
      cases fraction with
      | nil => exact List.mem_cons_of_mem _ List.mem_cons_self
      | cons digit fraction => exact List.mem_cons_self

/-- A description reads the times that are laid out by it. -/
theorem readDescription_clock (clock : Clock) {description : String}
    (isDescription : description ∈ timeDescriptions) :
    readDescription description (String.ofList (clock.write [])) =
      if description = clock.description then some (clock.read {}) else none := by
  rw [readDescription, String.toList_ofList]
  simp only [timeDescriptions, List.mem_cons, List.not_mem_nil, or_false] at isDescription
  rcases isDescription with rfl | rfl | rfl
  · have areItems : formatItems none "[hour]:[minute]:[second].[subsecond]".toList =
        clockFormatItems := by decide
    have read := readFormatItems_clock {} clock .none
    rw [areItems]
    refine read.trans ?_
    cases clock with
    | minutes hour minute => rfl
    | seconds hour minute second fraction =>
        cases fraction with
        | nil => rfl
        | cons digit fraction => rfl
  · have areItems : formatItems none "[hour]:[minute]:[second]".toList =
        [.number .hour, .literal ':', .number .minute, .literal ':', .number .second] := by
      decide
    rw [areItems]
    cases clock with
    | minutes hour minute =>
        exact readFormatItems_hourMinute {} hour minute [] _
    | seconds hour minute second fraction =>
        have second_fits : second.val < 10 ^ Field.second.width :=
          Nat.lt_trans second.isLt (by decide)
        refine (readFormatItems_hourMinute {} hour minute _ _).trans ?_
        rw [readFormatItems_literal, readFormatItems_number _ _ _ second_fits]
        cases fraction with
        | nil => rfl
        | cons digit fraction => rfl
  · have areItems : formatItems none "[hour]:[minute]".toList =
        [.number .hour, .literal ':', .number .minute] := by
      decide
    rw [areItems]
    cases clock with
    | minutes hour minute => exact readFormatItems_hourMinute {} hour minute [] _
    | seconds hour minute second fraction =>
        refine (readFormatItems_hourMinute {} hour minute _ _).trans ?_
        cases fraction with
        | nil => rfl
        | cons digit fraction => rfl

section Times

variable {crate : TimeCrate} (reads : crate.Reads)

include reads

/-- Every time without an offset is decoded: there is a description for it with a fraction,
without one and without seconds. -/
theorem time_decode_clock (clock : Clock) {value : TursoValueRef}
    (isText : value.kind = .text (String.ofList (clock.write []))) :
    (SqlType.timeTime crate).decode value = .ok clock.time := by
  have parsed : ∀ description ∈ timeDescriptions,
      (crate.parseTime (String.ofList (clock.write [])) description).toOption =
        if description = clock.description then some clock.time else none := by
    intro description isDescription
    rw [reads.time clock description isDescription, readDescription_clock clock isDescription]
    split
    next => exact Clock.naiveTime_read rfl rfl clock
    next => rfl
  have found : timeDescriptions.findSome? (fun description =>
      (crate.parseTime (String.ofList (clock.write [])) description).toOption) =
        some clock.time := by
    refine findSome?_of_only clock.description_mem ?_ ?_
    · exact (parsed _ clock.description_mem).trans (if_pos rfl)
    · intro other isOther differs
      exact (parsed other isOther).trans (if_neg differs)
  rw [SqlType.timeTime]
  dsimp only
  rw [decodeTimeBy_text isText, found]
  rfl

/-- A date is decoded. -/
theorem date_decode_dateText {date : NaiveDate} (year_lt : date.year < 10000)
    {value : TursoValueRef} (isText : value.kind = .text (dateText date)) :
    (SqlType.timeDate crate).decode value = .ok date := by
  have areItems : formatItems none dateDescription.toList = dateFormatItems := by decide
  have read := readFormatItems_date {} year_lt [] []
  rw [List.append_nil, List.append_nil] at read
  have isDate : readDescription dateDescription (dateText date) =
      some { year := date.year, month := date.month, day := date.day } := by
    rw [readDescription, areItems, dateText, String.toList_ofList]
    exact read
  have parsed := reads.date date year_lt
  rw [isDate] at parsed
  simp only [Option.bind_some, Reading.naiveDate, Option.bind_eq_bind, date.isDay, dif_pos,
    toOption_eq_some_iff] at parsed
  have textOf : value.text = .ok (dateText date) := by
    rw [TursoValueRef.text, isText]
  rw [SqlType.timeDate]
  dsimp only
  rw [textOf]
  dsimp only [bind, Except.bind]
  rw [parsed]
  rfl

end Times

end SqlxTurso
