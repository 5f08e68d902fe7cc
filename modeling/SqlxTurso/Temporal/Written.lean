import SqlxTurso.Library.Strftime

/-!
# Dates and times as SQLite writes them

A text has a date, a separator, a time with or without seconds, and nothing, a letter or an
offset at its end.  The parts that a format reads decide which texts it reads: it reads
those that are laid out like it and no others.
-/

namespace SqlxTurso

open Library

/-! ## Layouts -/

inductive Separator where
  | space
  | t
  deriving DecidableEq, Repr

def Separator.char : Separator → Char
  | space => ' '
  | t => 'T'

/-- Is the time written with its seconds? -/
inductive Precision where
  | minutes
  | seconds
  deriving DecidableEq, Repr

def Precision.items : Precision → List Item
  | minutes => [.number .hour, .literal ':', .number .minute]
  | seconds =>
      [.number .hour, .literal ':', .number .minute, .literal ':', .number .second, .fraction]

/-- What is written after the time. -/
inductive Zone where
  | none
  | z
  | offset
  deriving DecidableEq, Repr

def Zone.items : Zone → List Item
  | none => []
  | z => [.literal 'Z']
  | offset => [.offset]

structure Layout where
  separator : Separator
  precision : Precision
  zone : Zone
  deriving DecidableEq, Repr

def Layout.items (layout : Layout) : List Item :=
  [.number .year, .literal '-', .number .month, .literal '-', .number .day,
      .literal layout.separator.char] ++
    (layout.precision.items ++ layout.zone.items)

/-! ## Times -/

/-- A time with its digits.  There may be no fraction. -/
inductive Clock where
  | minutes (hour : Fin 24) (minute : Fin 60)
  | seconds (hour : Fin 24) (minute : Fin 60) (second : Fin 60) (fraction : List (Fin 10))
  deriving DecidableEq, Repr

/-- The characters of a fraction. -/
def fractionDigits (fraction : List (Fin 10)) : List Char :=
  fraction.map fun digit => digit.val.digitChar

theorem isDigit_of_mem_fractionDigits {fraction : List (Fin 10)} :
    ∀ char ∈ fractionDigits fraction, char.isDigit = true := by
  intro char isChar
  obtain ⟨digit, _, rfl⟩ := List.mem_map.mp isChar
  rw [Nat.isDigit_digitChar, decide_eq_true_iff]
  exact digit.isLt

namespace Clock

def precision : Clock → Precision
  | minutes _ _ => .minutes
  | seconds _ _ _ _ => .seconds

/-- The text of a time before the text that follows it. -/
def write (rest : List Char) : Clock → List Char
  | minutes hour minute => Field.hour.text hour ++ ':' :: (Field.minute.text minute ++ rest)
  | seconds hour minute second fraction =>
      let fractionText :=
        if fraction = [] then rest else '.' :: (fractionDigits fraction ++ rest)
      Field.hour.text hour ++ ':' :: (Field.minute.text minute ++
        ':' :: (Field.second.text second ++ fractionText))

/-- The time of day, to the nanosecond. -/
def time : Clock → NaiveTime
  | minutes hour minute =>
      ⟨hour, minute, 0, 0, hour.isLt, minute.isLt, by decide, by decide⟩
  | seconds hour minute second fraction =>
      ⟨hour, minute, second, nanoseconds (fractionDigits fraction), hour.isLt, minute.isLt,
        second.isLt, nanoseconds_lt isDigit_of_mem_fractionDigits⟩

/-- What is read of a time. -/
def read (reading : Reading) : Clock → Reading
  | minutes hour minute => (reading.set hour .hour).set minute .minute
  | seconds hour minute second fraction =>
      let whole := ((reading.set hour .hour).set minute .minute).set second .second
      if fraction = [] then whole
      else { whole with nanosecond := some (nanoseconds (fractionDigits fraction)) }

end Clock

/-- The end of a text.  An offset has the minutes of an hour. -/
inductive Suffix where
  | none
  | z
  | offset (negative : Bool) (hours : Fin 100) (minutes : Fin 60)
  deriving DecidableEq, Repr

namespace Suffix

def zone : Suffix → Zone
  | none => .none
  | z => .z
  | offset _ _ _ => .offset

def text : Suffix → List Char
  | none => []
  | z => ['Z']
  | offset negative hours minutes =>
      (if negative then '-' else '+') :: offsetText hours minutes

/-- The offset from UTC in seconds. -/
def seconds : Suffix → Int
  | none => 0
  | z => 0
  | offset negative hours minutes =>
      (if negative then -1 else 1) * ((hours.val * 60 + minutes.val) * 60 : Nat)

def read (reading : Reading) (suffix : Suffix) : Reading :=
  match suffix with
  | none => reading
  | z => reading
  | offset _ _ _ => { reading with offset := some suffix.seconds }

end Suffix

/-! ## What a format reads -/

section Reads

variable (reading : Reading)

/-- A zone reads the suffixes that are laid out like it. -/
theorem readItems_suffix (zone : Zone) (suffix : Suffix) :
    readItems reading suffix.text zone.items =
      if zone = suffix.zone then some (suffix.read reading) else none := by
  cases suffix with
  | none =>
      cases zone with
      | none => rfl
      | z => exact readItems_literal_nil reading [] 'Z'
      | offset => exact readItems_offset_nil reading []
  | z =>
      cases zone with
      | none => rfl
      | z => rfl
      | offset => exact readItems_offset_of_ne reading [] [] (by decide) (by decide)
  | offset negative hours minutes =>
      cases zone with
      | none => rfl
      | z =>
          have noLetter : (if negative then '-' else '+') ≠ 'Z' := by cases negative <;> decide
          exact readItems_literal_of_ne reading _ [] noLetter
      | offset =>
          have read := readItems_offset reading [] [] negative hours.isLt minutes.isLt
          rw [List.append_nil] at read
          exact read

/-- A zone does not read on where the seconds of a time begin. -/
theorem readItems_zone_of_colon (zone : Zone) (rest : List Char) :
    readItems reading (':' :: rest) zone.items = none := by
  cases zone with
  | none => rfl
  | z => exact readItems_literal_of_ne reading rest [] (by decide)
  | offset => exact readItems_offset_of_ne reading rest [] (by decide) (by decide)

/-- No suffix begins like seconds. -/
theorem readItems_colon_suffix (suffix : Suffix) (items : List Item) :
    readItems reading suffix.text (.literal ':' :: items) = none := by
  cases suffix with
  | none => exact readItems_literal_nil reading items ':'
  | z => exact readItems_literal_of_ne reading [] items (by decide)
  | offset negative hours minutes =>
      have noColon : (if negative then '-' else '+') ≠ ':' := by cases negative <;> decide
      exact readItems_literal_of_ne reading _ items noColon

theorem head_suffix (suffix : Suffix) :
    suffix.text.head? ≠ some '.' ∧ suffix.text.takeWhile Char.isDigit = [] := by
  cases suffix with
  | none => decide
  | z => decide
  | offset negative hours minutes => cases negative <;> exact ⟨by simp [Suffix.text], rfl⟩

/-- A fraction is read up to the suffix. -/
theorem readItems_fraction_suffix (fraction : List (Fin 10)) (suffix : Suffix)
    (items : List Item) :
    readItems reading
        (if fraction = [] then suffix.text
          else '.' :: (fractionDigits fraction ++ suffix.text)) (.fraction :: items) =
      readItems (if fraction = [] then reading
        else { reading with nanosecond := some (nanoseconds (fractionDigits fraction)) })
        suffix.text items := by
  by_cases noFraction : fraction = []
  · rw [if_pos noFraction, if_pos noFraction]
    exact readItems_fraction_absent reading items (head_suffix suffix).1
  · rw [if_neg noFraction, if_neg noFraction]
    exact readItems_fraction reading suffix.text items isDigit_of_mem_fractionDigits
      (by simpa [fractionDigits] using noFraction) (head_suffix suffix).2

theorem readItems_hourMinute (hour : Fin 24) (minute : Fin 60) (rest : List Char)
    (items : List Item) :
    readItems reading (Field.hour.text hour ++ ':' :: (Field.minute.text minute ++ rest))
        (.number .hour :: .literal ':' :: .number .minute :: items) =
      readItems ((reading.set hour .hour).set minute .minute) rest items := by
  have hour_lt : hour.val < 10 ^ Field.hour.width := Nat.lt_trans hour.isLt (by decide)
  have minute_lt : minute.val < 10 ^ Field.minute.width := Nat.lt_trans minute.isLt (by decide)
  rw [readItems_number reading _ _ hour_lt, readItems_literal,
    readItems_number _ _ _ minute_lt]

theorem readItems_second (hour : Fin 24) (minute second : Fin 60) (rest : List Char)
    (items : List Item) :
    readItems reading
        (Field.hour.text hour ++ ':' :: (Field.minute.text minute ++
          ':' :: (Field.second.text second ++ rest)))
        (.number .hour :: .literal ':' :: .number .minute :: .literal ':' ::
          .number .second :: items) =
      readItems (((reading.set hour .hour).set minute .minute).set second .second) rest
        items := by
  have second_lt : second.val < 10 ^ Field.second.width := Nat.lt_trans second.isLt (by decide)
  rw [readItems_hourMinute, readItems_literal, readItems_number _ _ _ second_lt]

/-- A time and what follows it are read by the items that are laid out like them. -/
theorem readItems_clock (precision : Precision) (zone : Zone) (clock : Clock)
    (suffix : Suffix) :
    readItems reading (clock.write suffix.text) (precision.items ++ zone.items) =
      if precision = clock.precision ∧ zone = suffix.zone then
        some (suffix.read (clock.read reading))
      else none := by
  cases clock with
  | minutes hour minute =>
      have start := readItems_hourMinute reading hour minute suffix.text
      cases precision with
      | minutes =>
          simp only [Clock.precision, true_and]
          exact (start _).trans (readItems_suffix _ zone suffix)
      | seconds =>
          rw [if_neg (by rintro ⟨⟨⟩, _⟩)]
          exact (start _).trans (readItems_colon_suffix _ suffix _)
  | seconds hour minute second fraction =>
      have start := readItems_hourMinute reading hour minute
      cases precision with
      | minutes =>
          rw [if_neg (by rintro ⟨⟨⟩, _⟩)]
          exact (start _ _).trans (readItems_zone_of_colon _ zone _)
      | seconds =>
          simp only [Clock.precision, true_and]
          apply (readItems_second reading hour minute second _ _).trans
          apply (readItems_fraction_suffix _ fraction suffix _).trans
          exact readItems_suffix _ zone suffix

end Reads

/-! ## What is read -/

theorem Suffix.naiveDateTime_read (reading : Reading) (suffix : Suffix) :
    (suffix.read reading).naiveDateTime = reading.naiveDateTime := by
  cases suffix <;> rfl

theorem Suffix.naiveTime_read (reading : Reading) (suffix : Suffix) :
    (suffix.read reading).naiveTime = reading.naiveTime := by
  cases suffix <;> rfl

theorem Suffix.offset_read {reading : Reading} (fresh : reading.offset = Option.none)
    (suffix : Suffix) :
    (suffix.read reading).offset =
      if suffix.zone = .offset then some suffix.seconds else Option.none := by
  cases suffix with
  | none => exact fresh
  | z => exact fresh
  | offset negative hours minutes => rfl

theorem Clock.naiveDate_read (reading : Reading) (clock : Clock) :
    (clock.read reading).naiveDate = reading.naiveDate := by
  cases clock with
  | minutes hour minute => rfl
  | seconds hour minute second fraction => cases fraction <;> rfl

theorem Clock.offset_read (reading : Reading) (clock : Clock) :
    (clock.read reading).offset = reading.offset := by
  cases clock with
  | minutes hour minute => rfl
  | seconds hour minute second fraction => cases fraction <;> rfl

/-- The time that is read is the one that is written. -/
theorem Clock.naiveTime_read {reading : Reading} (noSecond : reading.second = none)
    (noNanosecond : reading.nanosecond = none) (clock : Clock) :
    (clock.read reading).naiveTime = some clock.time := by
  cases clock with
  | minutes hour minute =>
      apply Reading.naiveTime_eq rfl rfl
      · exact congrArg (Option.getD · 0) noSecond
      · exact congrArg (Option.getD · 0) noNanosecond
  | seconds hour minute second fraction =>
      cases fraction with
      | nil =>
          apply Reading.naiveTime_eq rfl rfl rfl
          exact congrArg (Option.getD · 0) noNanosecond
      | cons digit fraction => exact Reading.naiveTime_eq rfl rfl rfl rfl

/-! ## Texts -/

/-- A date and time as it is written. -/
structure Written where
  date : NaiveDate
  year_lt : date.year < 10000
  separator : Separator
  clock : Clock
  suffix : Suffix

namespace Written

variable (written : Written)

def chars : List Char :=
  Field.year.text written.date.year ++ '-' :: (Field.month.text written.date.month ++
    '-' :: (Field.day.text written.date.day ++
      written.separator.char :: written.clock.write written.suffix.text))

def text : String := String.ofList written.chars

def layout : Layout :=
  ⟨written.separator, written.clock.precision, written.suffix.zone⟩

/-- The local time that is written. -/
def naiveLocal : NaiveDateTime := ⟨written.date, written.clock.time⟩

/-- What is read of the text. -/
def read : Reading :=
  written.suffix.read (written.clock.read
    { year := written.date.year, month := written.date.month, day := written.date.day })

theorem readItems_date (rest : List Char) (items : List Item) :
    readItems {}
        (Field.year.text written.date.year ++ '-' :: (Field.month.text written.date.month ++
          '-' :: (Field.day.text written.date.day ++ rest)))
        (.number .year :: .literal '-' :: .number .month :: .literal '-' :: .number .day ::
          items) =
      readItems
        { year := written.date.year, month := written.date.month, day := written.date.day }
        rest items := by
  have year_lt : written.date.year < 10 ^ Field.year.width := written.year_lt
  have month_lt : written.date.month < 10 ^ Field.month.width :=
    Nat.lt_of_le_of_lt written.date.month_le (by decide)
  have day_lt : written.date.day < 10 ^ Field.day.width :=
    Nat.lt_of_le_of_lt written.date.day_le (by decide)
  rw [readItems_number _ _ _ year_lt, readItems_literal, readItems_number _ _ _ month_lt,
    readItems_literal, readItems_number _ _ _ day_lt]
  rfl

/-- The items of a layout read the texts that are laid out like it. -/
theorem readItems_layout (layout : Layout) :
    readItems {} written.chars layout.items =
      if layout = written.layout then some written.read else none := by
  rcases layout with ⟨separator, precision, zone⟩
  apply (written.readItems_date _ _).trans
  by_cases sameSeparator : separator = written.separator
  · rw [sameSeparator]
    apply (readItems_literal _ _ _ _).trans
    apply (readItems_clock _ precision zone written.clock written.suffix).trans
    simp only [Layout.mk.injEq, layout, true_and]
    rfl
  · have differs : written.separator.char ≠ separator.char := by
      intro same
      apply sameSeparator
      cases separator <;> cases isSeparator : written.separator <;> simp_all [Separator.char]
    rw [if_neg (fun same => sameSeparator (congrArg Layout.separator same))]
    exact readItems_literal_of_ne _ _ _ differs

theorem naiveDateTime_read : written.read.naiveDateTime = some written.naiveLocal := by
  rw [read, Suffix.naiveDateTime_read, Reading.naiveDateTime, Clock.naiveDate_read,
    Clock.naiveTime_read rfl rfl]
  simp [Reading.naiveDate, naiveLocal, written.date.isDay]

theorem offset_read :
    written.read.offset =
      if written.suffix.zone = .offset then some written.suffix.seconds else none := by
  apply Suffix.offset_read
  rw [Clock.offset_read]

end Written

end SqlxTurso
