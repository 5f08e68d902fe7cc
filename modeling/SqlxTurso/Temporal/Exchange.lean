import SqlxTurso.Temporal.ComeBack

/-!
# Dates and times that one library writes and the other reads

Both libraries write texts that the other one knows how to read, with one exception: a date
and time without an offset that falls on a whole second is written by the first without a
fraction, and the second asks for one.
-/

namespace SqlxTurso

open Library

theorem OffsetDateTime.eq_iff {first second : OffsetDateTime} :
    first = second ↔ first.naiveLocal = second.naiveLocal ∧ first.offset = second.offset := by
  cases first
  cases second
  simp only [OffsetDateTime.mk.injEq]

/-- An offset that is rounded to a whole day has no hours of a day. -/
theorem offsetSuffix_inDay_iff {offset : Int} (below : offset.natAbs < 86400) :
    (offsetSuffix offset below).InDay ↔ offset.natAbs < 86370 := by
  change (offset.natAbs + 30) / 60 / 60 < 24 ↔ _
  omega

section Exchange

variable {chrono : ChronoCrate} {time : TimeCrate}

section TimeReads

variable (reads : time.Reads) (writes : chrono.Writes)

include reads writes

/-- A date and time with an offset is read as it was exactly when its offset was not
rounded. -/
theorem offset_decode_dateTime {datetime : DateTime}
    (year_lt : datetime.naiveLocal.date.year < 10000) {held : TursoValueRef}
    (holds : HoldsEncoded (encodeDateTime chrono datetime) held) :
    (SqlType.offsetDateTime time).decode held = .ok (.ofDateTime datetime) ↔
      60 ∣ datetime.offset := by
  have isText : held.kind = .text (standardDateTime datetime year_lt).text := by
    rw [← writes.rfc3339]
    exact holdsEncoded_text holds
  have sameLocal : (standardDateTime datetime year_lt).naiveLocal = datetime.naiveLocal := by
    rw [Written.naiveLocal]
    simp only [standardDateTime, writeTime_time]
  have below := datetime.offset_lt
  have inDay := offsetSuffix_inDay_iff below
  have whole := offsetSuffix_eq_iff below
  cases isRead : (standardDateTime datetime year_lt).offsetDateTime with
  | some found =>
      obtain ⟨_, isLocal, isOffset⟩ := (Written.offsetDateTime_eq_some_iff _ rfl).mp isRead
      rw [offset_decode_of_standard reads _ isText (.inl rfl) isRead, Except.ok.injEq,
        OffsetDateTime.eq_iff, isLocal, isOffset, ← whole]
      exact and_iff_right sameLocal
  | none =>
      have refused := offset_decode_of_primitive reads _ isText (.inl rfl) isRead
      rw [if_neg (by rintro ⟨_, ⟨⟩⟩)] at refused
      obtain ⟨message, isError⟩ := refused
      rw [isError]
      refine iff_of_false (by rintro ⟨⟩) ?_
      intro isWhole
      have notInDay : ¬(offsetSuffix datetime.offset below).InDay := by
        intro isInDay
        have isSome : (standardDateTime datetime year_lt).offsetDateTime =
            some (.ofDateTime datetime) :=
          (Written.offsetDateTime_eq_some_iff _ rfl).mpr
            ⟨isInDay, sameLocal.symm, (whole.mpr isWhole).symm⟩
        cases isRead.symm.trans isSome
      rw [inDay] at notInDay
      omega

/-- A date and time without an offset is read exactly when it has a fraction. -/
theorem primitive_decode_naiveDateTime {datetime : NaiveDateTime}
    (year_lt : datetime.date.year < 10000) {held : TursoValueRef}
    (holds : HoldsEncoded (encodeNaiveDateTime chrono datetime) held) :
    if datetime.time.nanosecond ≠ 0 then
      (SqlType.primitiveDateTime time).decode held = .ok datetime ∧
        (SqlType.offsetDateTime time).decode held = .ok (.assumeUtc datetime)
    else
      (∃ message, (SqlType.primitiveDateTime time).decode held = .error (.content message)) ∧
        ∃ message, (SqlType.offsetDateTime time).decode held = .error (.content message) := by
  have isText : held.kind = .text (sqliteDateTime datetime year_lt).text := by
    rw [← writes.naiveDateTime]
    exact holdsEncoded_text holds
  have sameLocal : (sqliteDateTime datetime year_lt).naiveLocal = datetime := by
    rw [Written.naiveLocal]
    simp only [sqliteDateTime, writeTime_time]
  have asPrimitive := primitive_decode_written reads _ isText
  have asOffset := offset_decode_of_primitive reads _ isText (.inr rfl) rfl
  have isPrimitive : (sqliteDateTime datetime year_lt).Primitive ↔
      datetime.time.nanosecond ≠ 0 :=
    (and_iff_left rfl).trans (not_congr (fractionOf_eq_nil_iff _))
  rw [sameLocal] at asPrimitive asOffset
  by_cases hasFraction : datetime.time.nanosecond ≠ 0
  · rw [if_pos (isPrimitive.mpr hasFraction)] at asPrimitive asOffset
    rw [if_pos hasFraction]
    exact ⟨asPrimitive, asOffset⟩
  · rw [if_neg (fun primitive => hasFraction (isPrimitive.mp primitive))] at asPrimitive asOffset
    rw [if_neg hasFraction]
    exact ⟨asPrimitive, asOffset⟩

/-- What was encoded with the first library is read with the second: a date and time with an
offset unless the offset was rounded, one without an offset unless it falls on a whole second,
and dates and times always. -/
theorem time_reads_what_chrono_wrote {format : NaiveTime → String → String}
    (writesTimes : WritesTimes format) :
    (∀ (datetime : DateTime) held, datetime.naiveLocal.date.year < 10000 →
      HoldsEncoded (encodeDateTime chrono datetime) held →
        ((SqlType.offsetDateTime time).decode held = .ok (.ofDateTime datetime) ↔
          60 ∣ datetime.offset)) ∧
      (∀ (datetime : NaiveDateTime) held, datetime.date.year < 10000 →
        HoldsEncoded (encodeNaiveDateTime chrono datetime) held →
          if datetime.time.nanosecond ≠ 0 then
            (SqlType.primitiveDateTime time).decode held = .ok datetime ∧
              (SqlType.offsetDateTime time).decode held = .ok (.assumeUtc datetime)
          else
            (∃ message, (SqlType.primitiveDateTime time).decode held =
              .error (.content message)) ∧
              ∃ message, (SqlType.offsetDateTime time).decode held =
                .error (.content message)) ∧
      (∀ (date : NaiveDate) held, date.year < 10000 →
        HoldsEncoded (encodeNaiveDate chrono date) held →
          (SqlType.timeDate time).decode held = .ok date) ∧
      ∀ (timeOfDay : NaiveTime) held, held.kind = (encodeNaiveTime format timeOfDay).kind →
        (SqlType.timeTime time).decode held = .ok timeOfDay := by
  refine ⟨fun _ _ year_lt => offset_decode_dateTime reads writes year_lt,
    fun _ _ year_lt => primitive_decode_naiveDateTime reads writes year_lt, ?_, ?_⟩
  · intro date held year_lt holds
    refine date_decode_dateText reads year_lt ?_
    rw [← writes.naiveDate date year_lt]
    exact holdsEncoded_text holds
  · intro timeOfDay held sameKind
    obtain ⟨written, isText, noSuffix, fraction, isClock, isNanosecond⟩ := writesTimes timeOfDay
    have digits : Digits fraction timeOfDay.nanosecond := by
      have within := written.digits_le
      rw [isClock] at within
      exact ⟨within, isNanosecond⟩
    have heldText : held.kind =
        .text (String.ofList ((clockOf timeOfDay fraction).write [])) := by
      have isChars : written.text =
          String.ofList ((clockOf timeOfDay fraction).write []) := by
        rw [WrittenTime.text, WrittenTime.chars, noSuffix, isClock]
        rfl
      rw [sameKind, encodeNaiveTime, isText, isChars]
      rfl
    rw [time_decode_clock reads _ heldText, clockOf_time digits]

end TimeReads

section ChronoReads

variable (documented : chrono.toChrono.Documented) (writes : time.Writes)

include documented writes

/-- What was encoded with the second library is read with the first as it was. -/
theorem chrono_reads_what_time_wrote (reads : chrono.ReadsDates)
    {parseFromStr : String → String → Option NaiveTime} (readsTimes : ReadsTimes parseFromStr)
    (fromReal : UInt64 → Option DateTime) :
    (∀ (datetime : OffsetDateTime) held, datetime.naiveLocal.date.year < 10000 →
      HoldsEncoded (encodeOffsetDateTime time datetime) held → ∃ found,
        (SqlType.dateTime chrono fromReal).decode held = .ok found ∧
          OffsetDateTime.ofDateTime found = datetime) ∧
      (∀ (datetime : NaiveDateTime) held, datetime.date.year < 10000 →
        HoldsEncoded (encodePrimitiveDateTime time datetime) held →
          (SqlType.naiveDateTime chrono fromReal).decode held = .ok datetime) ∧
      (∀ (date : NaiveDate) held, date.year < 10000 →
        HoldsEncoded (encodeDate time date) held →
          (SqlType.naiveDate chrono).decode held = .ok date) ∧
      ∀ (timeOfDay : NaiveTime) held, HoldsEncoded (encodeTime time timeOfDay) held →
        (SqlType.naiveTime parseFromStr).decode held = .ok timeOfDay := by
  refine ⟨?_, ?_, ?_, ?_⟩
  · intro datetime held year_lt holds
    by_cases standard : Standard datetime.offset
    · obtain ⟨fraction, digits, isText⟩ := writes.rfc3339 datetime year_lt standard
      rw [encodeOffsetDateTime, isText] at holds
      obtain ⟨_, isOffset⟩ := standardSuffix_spec standard
      obtain ⟨isDecoded, _, _⟩ :=
        decodes_written fromReal documented _ (holds_formatted holds)
      refine ⟨_, isDecoded, OffsetDateTime.eq_iff.mpr ?_⟩
      rw [Written.decoded, dif_pos (by rw [isOffset]; exact standard.2)]
      refine ⟨?_, isOffset⟩
      simp only [OffsetDateTime.ofDateTime, Written.naiveLocal, clockOf_time digits]
    · obtain ⟨message, isError⟩ := writes.refuses datetime standard
      rw [encodeOffsetDateTime, isError] at holds
      obtain ⟨_, ⟨⟩, _⟩ := holds
  · intro datetime held year_lt holds
    obtain ⟨fraction, _, digits, isText⟩ := writes.dateTime datetime year_lt
    rw [encodePrimitiveDateTime, isText] at holds
    obtain ⟨_, _, isLocal⟩ := decodes_written fromReal documented _ (holds_formatted holds)
    rw [isLocal, decoded_naiveLocal]
    simp only [Written.naiveLocal, clockOf_time digits]
  · intro date held year_lt holds
    rw [encodeDate, writes.date date year_lt] at holds
    exact naiveDate_decode_dateText reads year_lt (holds_formatted holds)
  · intro timeOfDay held holds
    obtain ⟨fraction, _, digits, isText⟩ := writes.time timeOfDay
    rw [encodeTime, isText] at holds
    have isDecoded := naiveTime_decode_text readsTimes
      ⟨clockOf timeOfDay fraction, digits.digits_le, .none, by decide⟩ held.typeInfo
    have sameKind := holds_formatted holds
    rw [clockOf_time digits] at isDecoded
    cases held
    cases sameKind
    exact isDecoded

end ChronoReads

end Exchange

theorem whole_second_is_not_read : ∃ message,
    (SqlType.primitiveDateTime documentedTimeCrate).decode
      (TursoValue.text (documentedCrate.formatNaiveDateTime leapNight.naiveLocal "%F %T%.f")) =
        .error (.content message) := by
  have read := time_reads_what_chrono_wrote documentedTimeCrate_reads documentedCrate_writes
    writeTime_writesTimes
  exact (read.2.1 leapNight.naiveLocal _ (by decide) ⟨_, rfl, rfl⟩).1

theorem written_night_is_read : ∃ text,
    documentedTimeCrate.formatDateTime leapNight.naiveLocal defaultDescription = .ok text ∧
      (SqlType.naiveDateTime documentedCrate fun _ => none).decode (TursoValue.text text) =
        .ok leapNight.naiveLocal := by
  have read := chrono_reads_what_time_wrote documentedChrono_documented
    documentedTimeCrate_writes documentedCrate_readsDates documentedParseFromStr_readsTimes
    fun _ => none
  exact ⟨_, rfl, read.2.1 leapNight.naiveLocal _ (by decide) ⟨_, rfl, rfl⟩⟩

end SqlxTurso
