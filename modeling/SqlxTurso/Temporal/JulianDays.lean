import Mathlib.Data.Rat.Floor
import Mathlib.Tactic.NormNum
import SqlxTurso.Library.Calendar
import SqlxTurso.Library.Parts

/-!
# Julian days that are decoded

A real number is a Julian day.  The adapter counts its seconds from the beginning of 1970
and rounds what is left of a second to nanoseconds.  Real numbers are exact here, and every
one of them is finite.
-/

namespace SqlxTurso

open Library

/-- Seconds and nanoseconds from the beginning of 1970, of which the library makes a date. -/
structure UnixTime where
  seconds : Int64
  nanos : UInt32
  deriving DecidableEq, Repr

namespace UnixTime

/-- The floor and the rounded rest.  Casts to integers saturate. -/
def split (timestamp : ℚ) : UnixTime :=
  let seconds := Int64.ofIntClamp ⌊timestamp⌋
  let nanos := roundHalfAway ((timestamp - seconds.toInt) * 1000000000)
  ⟨seconds, UInt32.ofNatClamp nanos.toNat⟩

def carry (time : UnixTime) : UnixTime :=
  if time.nanos = 1000000000 then ⟨time.seconds + 1, 0⟩ else time

/-- What the seconds and nanoseconds are for: the nanosecond nearest to the timestamp. -/
def nearest (timestamp : ℚ) : ℤ := round (timestamp * (1000000000 : ℤ))

/-- Order by the seconds first. -/
def key (time : UnixTime) : ℤ ×ₗ ℤ := toLex (time.seconds.toInt, time.nanos.toNat)

end UnixTime

/-- The seconds from the beginning of 1970 to a Julian day. -/
def timestamp (value : ℚ) : ℚ := (value - 2440587.5) * 86400

def unixTime (value : ℚ) : UnixTime := (UnixTime.split (timestamp value)).carry

section Decode

variable (timestampOpt : Int64 → UInt32 → Option DateTime)

def decodeChronoDatetimeFromInt (value : Int64) : Option DateTime := timestampOpt value 0

def decodeChronoDatetimeFromReal (value : ℚ) : Option DateTime :=
  timestampOpt (unixTime value).seconds (unixTime value).nanos

end Decode

/-- The library finds the instant of the seconds and nanoseconds, or none. -/
def ReadsUnixTimes (timestampOpt : Int64 → UInt32 → Option DateTime) : Prop :=
  ∀ seconds nanos, nanos.toNat < 1000000000 → ∀ datetime,
    timestampOpt seconds nanos = some datetime →
      datetime.instant = seconds.toInt * 1000000000 + nanos.toNat

/-- The seconds are far from the bounds of their type. -/
def InRange (value : ℚ) : Prop := |timestamp value| < 2 ^ 62

instance (value : ℚ) : Decidable (InRange value) :=
  inferInstanceAs (Decidable (|timestamp value| < 2 ^ 62))

/-- The decoder meets its purpose for a value: the nanoseconds are below a second, the second
that is carried fits, and the time is within half a nanosecond of the value. -/
structure Accurate (value : ℚ) : Prop where
  carry_fits : (UnixTime.split (timestamp value)).nanos = 1000000000 →
    (UnixTime.split (timestamp value)).seconds.toInt + 1 < 2 ^ 63
  nanos_lt : (unixTime value).nanos.toNat < 1000000000
  near : |((unixTime value).seconds.toInt : ℚ) +
    (unixTime value).nanos.toNat / 10 ^ 9 - timestamp value| ≤ 1 / (2 * 10 ^ 9)

/-! ## Seconds and nanoseconds -/

namespace UnixTime

variable {timestamp : ℚ} (inRange : |timestamp| < 2 ^ 62)

include inRange

theorem floor_within : -2 ^ 62 ≤ ⌊timestamp⌋ ∧ ⌊timestamp⌋ < 2 ^ 62 := by
  obtain ⟨low, high⟩ := abs_lt.mp inRange
  constructor
  · apply Int.le_floor.mpr
    push_cast
    exact low.le
  · apply Int.floor_lt.mpr
    push_cast
    exact high

theorem split_seconds : (split timestamp).seconds.toInt = ⌊timestamp⌋ := by
  obtain ⟨low, high⟩ := floor_within inRange
  apply Int64.toInt_ofIntClamp
  · exact le_trans (by decide) low
  · exact Int.le_trans high.le (by decide)

/-- The rest of a second is rounded to a billion nanoseconds at most, which fit their type. -/
theorem split_nanos :
    ((split timestamp).nanos.toNat : ℤ) =
        round ((timestamp - ⌊timestamp⌋) * (1000000000 : ℤ)) ∧
      (split timestamp).nanos.toNat ≤ 1000000000 := by
  have seconds : (Int64.ofIntClamp ⌊timestamp⌋).toInt = ⌊timestamp⌋ := split_seconds inRange
  have within : 0 ≤ round ((timestamp - ⌊timestamp⌋) * (1000000000 : ℤ)) ∧
      round ((timestamp - ⌊timestamp⌋) * (1000000000 : ℤ)) ≤ 1000000000 :=
    round_fraction_within timestamp (by decide)
  have nonneg : 0 ≤ (timestamp - ⌊timestamp⌋) * (1000000000 : ℤ) :=
    mul_nonneg (Int.fract_nonneg timestamp) (by norm_num)
  have nanos : (split timestamp).nanos =
      UInt32.ofNatClamp (round ((timestamp - ⌊timestamp⌋) * (1000000000 : ℤ))).toNat := by
    rw [← roundHalfAway_of_nonneg nonneg]
    simp only [split, seconds]
    rfl
  generalize round ((timestamp - ⌊timestamp⌋) * (1000000000 : ℤ)) = parts at within nanos ⊢
  have fits : parts.toNat < UInt32.size := by
    have small : parts.toNat ≤ 1000000000 := Int.toNat_le.mpr within.2
    exact Nat.lt_of_le_of_lt small (by decide)
  rw [nanos, UInt32.ofNatClamp_eq_ofNat _ fits, UInt32.toNat_ofNat_of_lt' fits]
  exact ⟨Int.toNat_of_nonneg within.1, Int.toNat_le.mpr within.2⟩

/-- The seconds and nanoseconds count the timestamp in nanoseconds. -/
theorem split_count :
    (split timestamp).seconds.toInt * 1000000000 + (split timestamp).nanos.toNat =
      nearest timestamp := by
  rw [split_seconds inRange, (split_nanos inRange).1]
  exact floor_mul_add_round timestamp 1000000000

theorem carry_fits : (split timestamp).seconds.toInt + 1 < 2 ^ 63 := by
  rw [split_seconds inRange]
  exact Int.lt_of_le_of_lt (Int.add_le_add_right (floor_within inRange).2.le 1) (by decide)

/-- With the carry they are the seconds in that count and the nanoseconds that are left. -/
theorem key_carry :
    (split timestamp).carry.key = wholes 1000000000 (nearest timestamp) := by
  rw [← split_count inRange, carry]
  by_cases full : (split timestamp).nanos = 1000000000
  · have fits : ((split timestamp).seconds + 1).toInt =
        (split timestamp).seconds.toInt + 1 := by
      have low := (split timestamp).seconds.le_toInt
      have high := carry_fits inRange
      rw [Int64.toInt_add, Int64.toInt_one]
      exact Int.bmod_eq_of_le (by omega) (by omega)
    rw [if_pos full, full]
    apply Eq.trans _ (wholes_carry (by decide) _).symm
    rw [key, fits]
    rfl
  · have below : (split timestamp).nanos.toNat < 1000000000 :=
      (split_nanos inRange).2.lt_of_ne fun isFull => full (UInt32.toNat.inj isFull)
    rw [if_neg full]
    exact (wholes_eq (Int.natCast_nonneg _) (Int.ofNat_lt.mpr below)).symm

end UnixTime

/-! ## The law -/

section Law

variable {value : ℚ} (inRange : InRange value)

include inRange

/-- The time counts the nanoseconds that are nearest to the value. -/
theorem key_unixTime :
    (unixTime value).key = wholes 1000000000 (UnixTime.nearest (timestamp value)) :=
  UnixTime.key_carry inRange

theorem unixTime_parts :
    (unixTime value).seconds.toInt = UnixTime.nearest (timestamp value) / 1000000000 ∧
      ((unixTime value).nanos.toNat : ℤ) =
        UnixTime.nearest (timestamp value) % 1000000000 :=
  Prod.mk.inj (toLex.injective (key_unixTime inRange))

theorem accurate_of_inRange : Accurate value where
  carry_fits _ := UnixTime.carry_fits inRange
  nanos_lt := by
    have below := Int.emod_lt_of_pos (UnixTime.nearest (timestamp value))
      (by decide : 0 < (1000000000 : ℤ))
    rw [← (unixTime_parts inRange).2] at below
    exact Int.ofNat_lt.mp below
  near := by
    obtain ⟨seconds, nanos⟩ := unixTime_parts inRange
    have positive : 0 < (1000000000 : ℤ) := by decide
    have close := abs_round_div_sub (timestamp value) positive
    rw [← UnixTime.nearest, ← wholes_sum _ positive, ← seconds, ← nanos, Int.cast_natCast] at close
    have scale : ((1000000000 : ℤ) : ℚ) = 10 ^ 9 := by norm_num
    rwa [scale] at close

/-- A whole number of seconds is decoded like the integer. -/
theorem unixTime_of_whole {seconds : Int64} (whole : timestamp value = seconds.toInt) :
    unixTime value = ⟨seconds, 0⟩ := by
  have same := unixTime_parts inRange
  have count : UnixTime.nearest (timestamp value) = seconds.toInt * 1000000000 := by
    rw [UnixTime.nearest, whole, ← Int.cast_mul, round_intCast]
  rw [count, Int.mul_ediv_cancel _ (by decide), Int.mul_emod_left] at same
  rcases decoded : unixTime value with ⟨decodedSeconds, nanos⟩
  rw [decoded] at same
  cases Int64.toInt.inj same.1
  have noNanos : nanos = 0 := UInt32.toNat.inj (Int.ofNat_inj.mp same.2)
  rw [noNanos]

theorem decodeChronoDatetimeFromReal_of_whole
    (timestampOpt : Int64 → UInt32 → Option DateTime) {seconds : Int64}
    (whole : timestamp value = seconds.toInt) :
    decodeChronoDatetimeFromReal timestampOpt value =
      decodeChronoDatetimeFromInt timestampOpt seconds := by
  rw [decodeChronoDatetimeFromReal, unixTime_of_whole inRange whole]
  rfl

/-- The instant that a value is decoded to is the nanosecond nearest to it. -/
theorem instant_of_decoded {timestampOpt : Int64 → UInt32 → Option DateTime}
    (documented : ReadsUnixTimes timestampOpt) {datetime : DateTime}
    (decoded : decodeChronoDatetimeFromReal timestampOpt value = some datetime) :
    datetime.instant = UnixTime.nearest (timestamp value) := by
  obtain ⟨seconds, nanos⟩ := unixTime_parts inRange
  rw [documented _ _ (accurate_of_inRange inRange).nanos_lt datetime decoded, seconds, nanos]
  exact Int.ediv_mul_add_emod _ _

end Law

/-- Half a second before 1970. -/
def halfSecondBefore : ℚ := 2440587.5 - 0.5 / 86400

/-- Less than half a nanosecond before the first second of 1970 is over. -/
def almostSecond : ℚ := 2440587.5 + (1 - 0.0000000004) / 86400

end SqlxTurso
