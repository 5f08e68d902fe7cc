import SqlxTurso.Temporal.Written

/-!
# Dates and times that are decoded from texts

The adapter tries one standard format and then twelve of its own, each with an offset first
and then without one.  The library for dates is a parameter, of which it is assumed that it
reads a text by the items of a format.
-/

namespace SqlxTurso

open Library

/-- The functions of the library for dates that read a text. -/
structure Chrono where
  parseFromRfc3339 : String → Option DateTime
  dateTimeParseFromStr (text format : String) : Option DateTime
  naiveDateTimeParseFromStr (text format : String) : Option NaiveDateTime

def sqliteDatetimeFormats : List String :=
  ["%F %T%.f", "%F %R", "%F %RZ", "%F %R%:z", "%F %T%.fZ", "%F %T%.f%:z", "%FT%R", "%FT%RZ",
    "%FT%R%:z", "%FT%T%.f", "%FT%T%.fZ", "%FT%T%.f%:z"]

section Decode

variable (chrono : Chrono) (value : String)

/-- The text is read with an offset, and else as a local time in UTC. -/
def decodeWithFormat (format : String) : Option DateTime :=
  match chrono.dateTimeParseFromStr value format with
  | some datetime => some datetime
  | none => (chrono.naiveDateTimeParseFromStr value format).map DateTime.fromUtc

def decodeChronoDatetimeFromText : Option DateTime :=
  match chrono.parseFromRfc3339 value with
  | some datetime => some datetime
  | none => sqliteDatetimeFormats.findSome? (decodeWithFormat chrono value)

end Decode

/-- The library reads texts that are written like dates and times as documented.  What the
standard format accepts is what is written; an offset has to be below a day, and a local
time does not look at one. -/
structure Chrono.Documented (chrono : Chrono) : Prop where
  rfc3339 (written : Written) (datetime : DateTime) :
    chrono.parseFromRfc3339 written.text = some datetime →
      datetime.naiveLocal = written.naiveLocal ∧ datetime.offset = written.suffix.seconds
  dateTime (written : Written) :
    ∀ format ∈ sqliteDatetimeFormats,
      chrono.dateTimeParseFromStr written.text format =
        (readFormat format written.text).bind Reading.dateTime
  naiveDateTime (written : Written) :
    ∀ format ∈ sqliteDatetimeFormats,
      chrono.naiveDateTimeParseFromStr written.text format =
        (readFormat format written.text).bind Reading.naiveDateTime

/-- The instant of the written local time less the written offset, if that is below a day. -/
def Written.instant (written : Written) : Option Int :=
  if written.suffix.seconds.natAbs < 86400 then
    some (written.naiveLocal.instant - written.suffix.seconds * 1000000000)
  else none

/-- The text is decoded to the instant that is written. -/
def DecodesToInstant (chrono : Chrono) (written : Written) : Prop :=
  (decodeChronoDatetimeFromText chrono written.text).map DateTime.instant = written.instant

/-! ## The formats -/

namespace Layout

def format (layout : Layout) : String :=
  "%F" ++ (match layout.separator with | .space => " " | .t => "T") ++
    (match layout.precision with | .minutes => "%R" | .seconds => "%T%.f") ++
    (match layout.zone with | .none => "" | .z => "Z" | .offset => "%:z")

/-- The layouts in the order in which their formats are tried. -/
def tried : List Layout :=
  [⟨.space, .seconds, .none⟩, ⟨.space, .minutes, .none⟩, ⟨.space, .minutes, .z⟩,
    ⟨.space, .minutes, .offset⟩, ⟨.space, .seconds, .z⟩, ⟨.space, .seconds, .offset⟩,
    ⟨.t, .minutes, .none⟩, ⟨.t, .minutes, .z⟩, ⟨.t, .minutes, .offset⟩,
    ⟨.t, .seconds, .none⟩, ⟨.t, .seconds, .z⟩, ⟨.t, .seconds, .offset⟩]

theorem mem_tried (layout : Layout) : layout ∈ tried := by
  rcases layout with ⟨separator, precision, zone⟩
  cases separator <;> cases precision <;> cases zone <;> decide

theorem items_format (layout : Layout) : Library.items layout.format.toList = layout.items := by
  rcases layout with ⟨separator, precision, zone⟩
  cases separator <;> cases precision <;> cases zone <;> decide

end Layout

/-- Every layout has its format. -/
theorem sqliteDatetimeFormats_eq :
    sqliteDatetimeFormats = Layout.tried.map Layout.format := by
  decide

theorem format_mem (layout : Layout) : layout.format ∈ sqliteDatetimeFormats := by
  rw [sqliteDatetimeFormats_eq]
  exact List.mem_map_of_mem layout.mem_tried

/-! ## What is decoded -/

namespace Written

variable (written : Written)

/-- The date and time that the adapter makes of a text. -/
def decoded : DateTime :=
  if below : written.suffix.seconds.natAbs < 86400 then
    ⟨written.naiveLocal, written.suffix.seconds, below⟩
  else .fromUtc written.naiveLocal

/-- A format reads the texts of its layout. -/
theorem readFormat_text (layout : Layout) :
    readFormat layout.format written.text =
      if layout = written.layout then some written.read else none := by
  rw [readFormat, layout.items_format, text, String.toList_ofList]
  exact written.readItems_layout layout

theorem dateTime_read :
    written.read.dateTime =
      if written.suffix.zone = .offset then
        if below : written.suffix.seconds.natAbs < 86400 then
          some ⟨written.naiveLocal, written.suffix.seconds, below⟩
        else none
      else none := by
  rw [Reading.dateTime, naiveDateTime_read, offset_read]
  by_cases hasOffset : written.suffix.zone = .offset
  · rw [if_pos hasOffset, if_pos hasOffset]
    rfl
  · rw [if_neg hasOffset, if_neg hasOffset]
    rfl

theorem seconds_eq_zero (noOffset : written.suffix.zone ≠ .offset) :
    written.suffix.seconds = 0 := by
  cases isSuffix : written.suffix with
  | none => rfl
  | z => rfl
  | offset negative hours minutes =>
      rw [isSuffix] at noOffset
      exact absurd rfl noOffset

/-- A text that is read by a format is read with its offset, or else in UTC. -/
theorem dateTime_read_getD :
    written.read.dateTime.getD (.fromUtc written.naiveLocal) = written.decoded := by
  rw [dateTime_read, decoded]
  by_cases hasOffset : written.suffix.zone = .offset
  · rw [if_pos hasOffset]
    split <;> rfl
  · rw [if_neg hasOffset]
    have noSeconds := written.seconds_eq_zero hasOffset
    rw [dif_pos (by rw [noSeconds]; decide)]
    simp only [noSeconds]
    rfl

end Written

section Documented

variable {chrono : Chrono} (documented : chrono.Documented) (written : Written)

include documented

theorem decodeWithFormat_text (layout : Layout) :
    decodeWithFormat chrono written.text layout.format =
      if layout = written.layout then some written.decoded else none := by
  rw [decodeWithFormat, documented.dateTime written _ (format_mem layout),
    documented.naiveDateTime written _ (format_mem layout), written.readFormat_text]
  by_cases same : layout = written.layout
  · rw [if_pos same, if_pos same, Option.bind_some, Option.bind_some,
      written.naiveDateTime_read, ← written.dateTime_read_getD]
    cases written.read.dateTime <;> rfl
  · rw [if_neg same, if_neg same]
    rfl

/-- The first format that reads a text is the one of its layout. -/
theorem findSome?_decodeWithFormat :
    sqliteDatetimeFormats.findSome? (decodeWithFormat chrono written.text) =
      some written.decoded := by
  have reads := decodeWithFormat_text documented written
  rw [sqliteDatetimeFormats_eq, List.findSome?_map]
  apply findSome?_of_only written.layout.mem_tried
  · exact (reads written.layout).trans (if_pos rfl)
  · intro layout _ differs
    exact (reads layout).trans (if_neg differs)

/-- Every text is decoded: to what is written, or to the local time in UTC when the offset
is out of bounds. -/
theorem decodeChronoDatetimeFromText_text :
    decodeChronoDatetimeFromText chrono written.text = some written.decoded := by
  rw [decodeChronoDatetimeFromText]
  cases standard : chrono.parseFromRfc3339 written.text with
  | none => exact findSome?_decodeWithFormat documented written
  | some datetime =>
      obtain ⟨sameLocal, sameOffset⟩ := documented.rfc3339 written datetime standard
      have below := datetime.offset_lt
      rw [sameOffset] at below
      rw [Written.decoded, dif_pos below]
      rcases datetime with ⟨naiveLocal, offset, _⟩
      cases sameLocal
      cases sameOffset
      rfl

/-- A text is decoded to the instant that is written exactly when the offset is below a
day. -/
theorem decodesToInstant_iff :
    DecodesToInstant chrono written ↔ written.suffix.seconds.natAbs < 86400 := by
  rw [DecodesToInstant, decodeChronoDatetimeFromText_text documented, Written.instant,
    Written.decoded]
  by_cases below : written.suffix.seconds.natAbs < 86400
  · rw [dif_pos below, if_pos below]
    exact iff_of_true rfl below
  · rw [dif_neg below, if_neg below]
    exact iff_of_false (by rintro ⟨⟩) below

end Documented

/-! ## A library that reads by the items -/

/-- The library as it is documented.  The standard format has the letter and seconds. -/
def documentedChrono : Chrono where
  parseFromRfc3339 text :=
    ((readFormat "%FT%T%.f%:z" text).bind Reading.dateTime).or
      (((readFormat "%FT%T%.fZ" text).bind Reading.naiveDateTime).map DateTime.fromUtc)
  dateTimeParseFromStr text format := (readFormat format text).bind Reading.dateTime
  naiveDateTimeParseFromStr text format := (readFormat format text).bind Reading.naiveDateTime

theorem documentedChrono_documented : documentedChrono.Documented where
  rfc3339 written datetime accepted := by
    have offsetFormat : "%FT%T%.f%:z" = Layout.format ⟨.t, .seconds, .offset⟩ := by decide
    have zFormat : "%FT%T%.fZ" = Layout.format ⟨.t, .seconds, .z⟩ := by decide
    simp only [documentedChrono, offsetFormat, zFormat, written.readFormat_text] at accepted
    rcases Option.or_eq_some_iff.mp accepted with withOffset | ⟨_, withZ⟩
    · obtain ⟨reading, isReading, isDateTime⟩ := Option.bind_eq_some_iff.mp withOffset
      split at isReading
      next =>
        cases isReading
        rw [written.dateTime_read] at isDateTime
        split_ifs at isDateTime
        cases isDateTime
        exact ⟨rfl, rfl⟩
      next => cases isReading
    · obtain ⟨naiveLocal, isLocal, rfl⟩ := Option.map_eq_some_iff.mp withZ
      obtain ⟨reading, isReading, isDateTime⟩ := Option.bind_eq_some_iff.mp isLocal
      split at isReading
      next sameLayout =>
        cases isReading
        rw [written.naiveDateTime_read] at isDateTime
        cases isDateTime
        have isZ : written.suffix.zone = .z := congrArg Layout.zone sameLayout.symm
        exact ⟨rfl, (written.seconds_eq_zero (by rw [isZ]; decide)).symm⟩
      next => cases isReading
  dateTime _ _ _ := rfl
  naiveDateTime _ _ _ := rfl

/-- The last day of February, half a second before noon, five and a half hours east. -/
def leapDay : Written :=
  ⟨⟨2024, 2, 29, by decide⟩, by decide, .t, .seconds 11 59 59 [5], .offset false 5 30⟩

theorem leapDay_decodesToInstant : DecodesToInstant documentedChrono leapDay :=
  (decodesToInstant_iff documentedChrono_documented leapDay).mpr (by decide)

/-- The beginning of a year with an offset of a day. -/
def wholeDay : Written :=
  ⟨⟨2024, 1, 1, by decide⟩, by decide, .t, .seconds 0 0 0 [], .offset false 24 0⟩

/-- An offset of a day is ignored. -/
theorem wholeDay_is_decoded :
    documentedChrono.Documented ∧ ¬DecodesToInstant documentedChrono wholeDay := by
  refine ⟨documentedChrono_documented, ?_⟩
  rw [DecodesToInstant, decodeChronoDatetimeFromText_text documentedChrono_documented]
  rintro ⟨⟩

end SqlxTurso
