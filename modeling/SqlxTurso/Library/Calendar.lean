import Mathlib.Order.Basic

/-!
# Dates, times and instants

A date is one of the Gregorian calendar and a time is one of a day without leap seconds.
Both carry the proof that they exist.  An instant is counted in nanoseconds from the
beginning of 1970 in UTC.
-/

namespace SqlxTurso.Library

def isLeapYear (year : Nat) : Bool :=
  decide (year % 4 = 0 ∧ (year % 100 ≠ 0 ∨ year % 400 = 0))

/-- The lengths of the months of a year. -/
def monthLengths (year : Nat) : List Nat :=
  [31, if isLeapYear year then 29 else 28, 31, 30, 31, 30, 31, 31, 30, 31, 30, 31]

/-- Is there such a day in such a month of the year? -/
def IsDay (year month day : Nat) : Prop :=
  1 ≤ month ∧ 1 ≤ day ∧ ∃ length ∈ (monthLengths year)[month - 1]?, day ≤ length

instance (year month day : Nat) : Decidable (IsDay year month day) := by
  unfold IsDay
  infer_instance

structure NaiveDate where
  year : Nat
  month : Nat
  day : Nat
  isDay : IsDay year month day
  deriving DecidableEq

theorem length_le_of_mem_monthLengths {year length : Nat}
    (isLength : length ∈ monthLengths year) : length ≤ 31 := by
  rw [monthLengths] at isLength
  generalize isLeapYear year = leap at isLength
  revert length
  cases leap <;> decide

theorem NaiveDate.month_le (date : NaiveDate) : date.month ≤ 12 := by
  obtain ⟨_, _, length, isLength, _⟩ := date.isDay
  have within : date.month - 1 < 12 := (List.getElem?_eq_some_iff.mp isLength).1
  omega

theorem NaiveDate.day_le (date : NaiveDate) : date.day ≤ 31 := by
  obtain ⟨_, _, length, isLength, day_le⟩ := date.isDay
  exact Nat.le_trans day_le
    (length_le_of_mem_monthLengths (List.mem_of_getElem? isLength))

/-- The number of the date, counted from the first day of 1970. -/
def NaiveDate.epochDay (date : NaiveDate) : Int :=
  let leapYears := (date.year + 3) / 4 + (date.year + 399) / 400 - (date.year + 99) / 100
  let months := ((monthLengths date.year).take (date.month - 1)).foldl (· + ·) 0
  Int.ofNat (365 * date.year + leapYears + months + date.day) - 719529

example : (⟨1970, 1, 1, by decide⟩ : NaiveDate).epochDay = 0 := by decide

example : (⟨2000, 3, 1, by decide⟩ : NaiveDate).epochDay = 11017 := by decide

structure NaiveTime where
  hour : Nat
  minute : Nat
  second : Nat
  nanosecond : Nat
  hour_lt : hour < 24
  minute_lt : minute < 60
  second_lt : second < 60
  nanosecond_lt : nanosecond < 1000000000
  deriving DecidableEq

/-- The nanoseconds since midnight. -/
def NaiveTime.sinceMidnight (time : NaiveTime) : Int :=
  ((time.hour * 60 + time.minute) * 60 + time.second) * 1000000000 + time.nanosecond

structure NaiveDateTime where
  date : NaiveDate
  time : NaiveTime
  deriving DecidableEq

/-- The instant of a local time in UTC. -/
def NaiveDateTime.instant (datetime : NaiveDateTime) : Int :=
  datetime.date.epochDay * 86400000000000 + datetime.time.sinceMidnight

/-- A local time with its offset from UTC in seconds, which is below a day. -/
structure DateTime where
  naiveLocal : NaiveDateTime
  offset : Int
  offset_lt : offset.natAbs < 86400
  deriving DecidableEq

namespace DateTime

/-- The time in UTC with no offset. -/
def fromUtc (datetime : NaiveDateTime) : DateTime := ⟨datetime, 0, by decide⟩

def instant (datetime : DateTime) : Int :=
  datetime.naiveLocal.instant - datetime.offset * 1000000000

end DateTime

end SqlxTurso.Library
