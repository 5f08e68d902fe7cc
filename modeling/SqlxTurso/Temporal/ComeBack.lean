import SqlxTurso.Temporal.TimeCrate

/-!
# What comes back from the other library

A date and time with an offset is encoded if the standard format has a place for the offset,
and every other value always is.  What is encoded is decoded as it was.
-/

namespace SqlxTurso

open Library

theorem holds_formatted {text : String} {value : TursoValueRef}
    (holds : HoldsEncoded (encodeFormatted (.ok text)) value) : value.kind = .text text :=
  holdsEncoded_text holds

theorem standardSuffix_ne_none {offset : Int} (standard : Standard offset) :
    standardSuffix offset standard ≠ .none := by
  rw [standardSuffix]
  split
  next => exact Suffix.noConfusion
  next => exact Suffix.noConfusion

theorem standardSuffix_spec {offset : Int} (standard : Standard offset) :
    (standardSuffix offset standard).InDay ∧
      (standardSuffix offset standard).seconds = offset := by
  have whole := standard.1
  have below := standard.2
  unfold standardSuffix
  split
  next isZero => exact ⟨trivial, isZero.symm⟩
  next =>
    constructor
    · change offset.natAbs / 3600 < 24
      omega
    · simp only [Suffix.seconds, decide_eq_true_eq]
      split
      next negative => omega
      next nonneg => omega

/-- A standard offset is read as it was written. -/
theorem offsetDateTime_standard {value : OffsetDateTime}
    (year_lt : value.naiveLocal.date.year < 10000) (standard : Standard value.offset)
    {fraction : List (Fin 10)} (digits : Digits fraction value.naiveLocal.time.nanosecond) :
    Written.offsetDateTime ⟨value.naiveLocal.date, year_lt, .t,
      clockOf value.naiveLocal.time fraction, standardSuffix value.offset standard⟩ =
        some value := by
  obtain ⟨inDay, isOffset⟩ := standardSuffix_spec standard
  refine (Written.offsetDateTime_eq_some_iff _ rfl).mpr ⟨inDay, ?_, isOffset.symm⟩
  rw [Written.naiveLocal]
  simp only [clockOf_time digits]

section ComeBack

variable {crate : TimeCrate} (reads : crate.Reads) (writes : crate.Writes)

include reads writes

theorem offsetDateTime_comes_back {value : OffsetDateTime}
    (year_lt : value.naiveLocal.date.year < 10000) :
    ((∃ stored, (encodeOffsetDateTime crate value).encoded = some stored) ↔
        Standard value.offset) ∧
      ∀ held, HoldsEncoded (encodeOffsetDateTime crate value) held →
        (SqlType.offsetDateTime crate).decode held = .ok value ∧
          ∃ message, (SqlType.primitiveDateTime crate).decode held =
            .error (.content message) := by
  by_cases standard : Standard value.offset
  · obtain ⟨fraction, digits, isText⟩ := writes.rfc3339 value year_lt standard
    rw [encodeOffsetDateTime, isText]
    refine ⟨iff_of_true ⟨_, rfl⟩ standard, ?_⟩
    intro held holds
    refine ⟨offset_decode_of_standard reads _ (holds_formatted holds) (.inl rfl)
      (offsetDateTime_standard year_lt standard digits), ?_⟩
    have primitive := primitive_decode_written reads _ (holds_formatted holds)
    rwa [if_neg (fun isPrimitive => standardSuffix_ne_none standard isPrimitive.2)] at primitive
  · obtain ⟨message, isError⟩ := writes.refuses value standard
    rw [encodeOffsetDateTime, isError]
    refine ⟨iff_of_false (by rintro ⟨_, ⟨⟩⟩) standard, ?_⟩
    rintro held ⟨_, ⟨⟩, _⟩

theorem primitiveDateTime_comes_back {value : NaiveDateTime} (year_lt : value.date.year < 10000) :
    (∃ stored, (encodePrimitiveDateTime crate value).encoded = some stored) ∧
      ∀ held, HoldsEncoded (encodePrimitiveDateTime crate value) held →
        (SqlType.primitiveDateTime crate).decode held = .ok value ∧
          (SqlType.offsetDateTime crate).decode held = .ok (.assumeUtc value) := by
  obtain ⟨fraction, nonempty, digits, isText⟩ := writes.dateTime value year_lt
  rw [encodePrimitiveDateTime, isText]
  refine ⟨⟨_, rfl⟩, ?_⟩
  intro held holds
  have asPrimitive := primitive_decode_written reads _ (holds_formatted holds)
  have asOffset := offset_decode_of_primitive reads _ (holds_formatted holds) (.inr rfl) rfl
  rw [if_pos ⟨nonempty, rfl⟩] at asPrimitive asOffset
  have sameLocal : Written.naiveLocal ⟨value.date, year_lt, .space, clockOf value.time fraction,
      .none⟩ = value := by
    rw [Written.naiveLocal]
    simp only [clockOf_time digits]
  rw [sameLocal] at asPrimitive asOffset
  exact ⟨asPrimitive, asOffset⟩

theorem date_comes_back {value : NaiveDate} (year_lt : value.year < 10000) :
    (∃ stored, (encodeDate crate value).encoded = some stored) ∧
      ∀ held, HoldsEncoded (encodeDate crate value) held →
        (SqlType.timeDate crate).decode held = .ok value := by
  rw [encodeDate, writes.date value year_lt]
  refine ⟨⟨_, rfl⟩, ?_⟩
  intro held holds
  exact date_decode_dateText reads year_lt (holds_formatted holds)

theorem time_comes_back (value : NaiveTime) :
    (∃ stored, (encodeTime crate value).encoded = some stored) ∧
      ∀ held, HoldsEncoded (encodeTime crate value) held →
        (SqlType.timeTime crate).decode held = .ok value := by
  obtain ⟨fraction, _, digits, isText⟩ := writes.time value
  rw [encodeTime, isText]
  refine ⟨⟨_, rfl⟩, ?_⟩
  intro held holds
  rw [time_decode_clock reads _ (holds_formatted holds), clockOf_time digits]

/-- What is encoded with the library comes back.  A date and time with an offset is encoded
exactly when the offset is in whole minutes below a day, and is never read without it.  The
other values are always encoded. -/
theorem time_values_come_back :
    (∀ value : OffsetDateTime, value.naiveLocal.date.year < 10000 →
      ((∃ stored, (encodeOffsetDateTime crate value).encoded = some stored) ↔
          Standard value.offset) ∧
        ∀ held, HoldsEncoded (encodeOffsetDateTime crate value) held →
          (SqlType.offsetDateTime crate).decode held = .ok value ∧
            ∃ message, (SqlType.primitiveDateTime crate).decode held =
              .error (.content message)) ∧
      (∀ value : NaiveDateTime, value.date.year < 10000 →
        (∃ stored, (encodePrimitiveDateTime crate value).encoded = some stored) ∧
          ∀ held, HoldsEncoded (encodePrimitiveDateTime crate value) held →
            (SqlType.primitiveDateTime crate).decode held = .ok value ∧
              (SqlType.offsetDateTime crate).decode held = .ok (.assumeUtc value)) ∧
      (∀ value : NaiveDate, value.year < 10000 →
        (∃ stored, (encodeDate crate value).encoded = some stored) ∧
          ∀ held, HoldsEncoded (encodeDate crate value) held →
            (SqlType.timeDate crate).decode held = .ok value) ∧
      ∀ value : NaiveTime,
        (∃ stored, (encodeTime crate value).encoded = some stored) ∧
          ∀ held, HoldsEncoded (encodeTime crate value) held →
            (SqlType.timeTime crate).decode held = .ok value :=
  ⟨fun _ => offsetDateTime_comes_back reads writes,
    fun _ => primitiveDateTime_comes_back reads writes,
    fun _ => date_comes_back reads writes, fun value => time_comes_back reads writes value⟩

end ComeBack

/-! ## A library that is documented -/

instance (offset : Int) : Decidable (Standard offset) := by
  unfold Standard
  infer_instance

theorem fractionOf_eq_nil_iff (nanosecond : Nat) :
    fractionOf nanosecond = [] ↔ nanosecond = 0 := by
  unfold fractionOf
  split
  next isZero => exact iff_of_true rfl isZero
  next notZero =>
    refine iff_of_false ?_ notZero
    split
    next => exact List.cons_ne_nil _ _
    next =>
      split
      next => exact List.cons_ne_nil _ _
      next => exact List.cons_ne_nil _ _

/-- The digits of a fraction, at least one. -/
def someDigits (nanosecond : Nat) : List (Fin 10) :=
  if nanosecond = 0 then [⟨0, Nat.succ_pos 9⟩] else fractionOf nanosecond

theorem someDigits_ne_nil (nanosecond : Nat) : someDigits nanosecond ≠ [] := by
  rw [someDigits]
  split
  next => exact List.cons_ne_nil _ _
  next notZero => exact fun isNil => notZero ((fractionOf_eq_nil_iff _).mp isNil)

theorem digits_someDigits (time : NaiveTime) :
    Digits (someDigits time.nanosecond) time.nanosecond := by
  rw [someDigits]
  split
  next isZero =>
    rw [isZero]
    exact ⟨by decide, by norm_num [fractionValue]⟩
  next => exact digits_fractionOf time

/-- What is read, or an error. -/
def parsedOr {α : Type} (result : Option α) : Except String α :=
  result.elim (.error "the input is invalid") .ok

@[simp] theorem parsedOr_toOption {α : Type} (result : Option α) :
    (parsedOr result).toOption = result := by
  cases result <;> rfl

/-- The library as it is documented, for the years of four digits and fractions of no, three,
six or nine digits. -/
def documentedTimeCrate : TimeCrate where
  formatRfc3339 value :=
    if year_lt : value.naiveLocal.date.year < 10000 then
      if standard : Standard value.offset then
        .ok (Written.text ⟨value.naiveLocal.date, year_lt, .t,
          clockOf value.naiveLocal.time (fractionOf value.naiveLocal.time.nanosecond),
          standardSuffix value.offset standard⟩)
      else .error "the offset_second component cannot be formatted into the requested format"
    else .error "the year component cannot be formatted into the requested format"
  formatDateTime value _ :=
    if year_lt : value.date.year < 10000 then
      .ok (Written.text ⟨value.date, year_lt, .space,
        clockOf value.time (someDigits value.time.nanosecond), .none⟩)
    else .error "the year component cannot be formatted into the requested format"
  formatDate value _ := .ok (dateText value)
  formatTime value _ :=
    .ok (String.ofList ((clockOf value (someDigits value.nanosecond)).write []))
  parseRfc3339 text :=
    parsedOr ((documentedChrono.parseFromRfc3339 text).map OffsetDateTime.ofDateTime)
  parseDateTime text description :=
    parsedOr ((readDescription description text).bind Reading.naiveDateTime)
  parseDate text description :=
    parsedOr ((readDescription description text).bind Reading.naiveDate)
  parseTime text description :=
    parsedOr ((readDescription description text).bind Reading.naiveTime)
  fromUnixTimestamp _ := .error "timestamp must be in the range"

theorem documentedTimeCrate_writes : documentedTimeCrate.Writes where
  rfc3339 value year_lt standard := by
    refine ⟨_, digits_fractionOf value.naiveLocal.time, ?_⟩
    rw [documentedTimeCrate]
    dsimp only
    rw [dif_pos year_lt, dif_pos standard]
  refuses value notStandard := by
    rw [documentedTimeCrate]
    dsimp only
    by_cases year_lt : value.naiveLocal.date.year < 10000
    · rw [dif_pos year_lt, dif_neg notStandard]
      exact ⟨_, rfl⟩
    · rw [dif_neg year_lt]
      exact ⟨_, rfl⟩
  dateTime value year_lt :=
    ⟨_, someDigits_ne_nil _, digits_someDigits value.time, dif_pos year_lt⟩
  date _ _ := rfl
  time value := ⟨_, someDigits_ne_nil _, digits_someDigits value, rfl⟩

/-- The standard format reads the letter or an offset below a day, after seconds. -/
theorem documented_rfc3339 (written : Written)
    (mayRead : written.separator = .t ∨ written.suffix = .none) :
    (documentedChrono.parseFromRfc3339 written.text).map OffsetDateTime.ofDateTime =
      written.offsetDateTime := by
  have offsetFormat : "%FT%T%.f%:z" = Layout.format ⟨.t, .seconds, .offset⟩ := by decide
  have zFormat : "%FT%T%.fZ" = Layout.format ⟨.t, .seconds, .z⟩ := by decide
  simp only [documentedChrono, offsetFormat, zFormat, written.readFormat_text]
  obtain ⟨date, year_lt, separator, clock, suffix⟩ := written
  cases clock with
  | minutes hour minute =>
      simp only [Written.layout, Clock.precision, Layout.mk.injEq, reduceCtorEq, false_and,
        and_false, if_false]
      rfl
  | seconds hour minute second fraction =>
      cases suffix with
      | none =>
          simp only [Written.layout, Suffix.zone, Layout.mk.injEq, reduceCtorEq, and_false,
            if_false]
          rfl
      | z =>
          cases mayRead.resolve_right Suffix.noConfusion
          simp only [Written.layout, Clock.precision, Suffix.zone, Layout.mk.injEq, reduceCtorEq,
            and_false, if_false, if_true, Option.bind_some,
            Written.naiveDateTime_read]
          rfl
      | offset negative hours minutes =>
          cases mayRead.resolve_right Suffix.noConfusion
          have inDay : (Suffix.offset negative hours minutes).seconds.natAbs < 86400 ↔
              hours.val < 24 := by
            have minutes_lt := minutes.isLt
            rw [Suffix.seconds]
            split
            next => omega
            next => omega
          simp only [Written.layout, Clock.precision, Suffix.zone, Layout.mk.injEq, reduceCtorEq,
            and_false, if_false, if_true, Option.bind_some, Written.dateTime_read,
            Written.offsetDateTime, inDay]
          split
          next => rfl
          next => rfl

theorem documentedTimeCrate_reads : documentedTimeCrate.Reads where
  rfc3339 written mayRead := by
    dsimp only [documentedTimeCrate]
    rw [parsedOr_toOption]
    exact documented_rfc3339 written mayRead
  dateTime written description _ := by
    dsimp only [documentedTimeCrate]
    rw [parsedOr_toOption]
  date value _ := by
    dsimp only [documentedTimeCrate]
    rw [parsedOr_toOption]
  time clock description _ := by
    dsimp only [documentedTimeCrate]
    rw [parsedOr_toOption]

/-- The end of a leap day, five and a half hours east. -/
def leapNight : OffsetDateTime := ⟨⟨leapDay.date, lastSecond⟩, 19800, by decide⟩

theorem leap_night_comes_back : ∃ text,
    documentedTimeCrate.formatRfc3339 leapNight = .ok text ∧
      (SqlType.offsetDateTime documentedTimeCrate).decode (TursoValue.text text) =
        .ok leapNight := by
  have comesBack := time_values_come_back documentedTimeCrate_reads documentedTimeCrate_writes
  exact ⟨_, rfl, ((comesBack.1 leapNight (by decide)).2 _ ⟨_, rfl, rfl⟩).1⟩

end SqlxTurso
