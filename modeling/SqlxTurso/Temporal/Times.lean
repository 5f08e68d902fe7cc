import Mathlib.Tactic.FieldSimp
import Mathlib.Tactic.Ring
import SqlxTurso.Temporal.Written
import SqlxTurso.Types.Decode

/-!
# Times that are decoded from texts

The adapter tries seven formats.  The first of them asks for the letters of a fraction and
reads no time; each of the others reads the times of one layout, and every layout has one.
The function of the library for dates that reads a text is a parameter.
-/

namespace SqlxTurso

open Library

/-! ## The decoder -/

def sqliteTimeFormats : List String :=
  ["%T.f", "%T%.f", "%R", "%RZ", "%T%.fZ", "%R%:z", "%T%.f%:z"]

section Decode

variable (parseFromStr : String → String → Option NaiveTime)

def decodeTimeWith (value : TursoValueRef) : List String → Except DecodeError NaiveTime
  | [] => do
      let text ← value.text
      .error (.content ("invalid time: " ++ text))
  | format :: formats => do
      let text ← value.text
      match parseFromStr text format with
      | some time => .ok time
      | none => decodeTimeWith value formats

/-- `chrono::NaiveTime`. -/
def SqlType.naiveTime : SqlType NaiveTime where
  typeInfo := ⟨"TIME"⟩
  compatible typeInfo := typeInfo.hasTimeAffinity || typeInfo.hasTextAffinity
  decode value := decodeTimeWith parseFromStr value sqliteTimeFormats

/-- A text is decoded by the first format that reads it. -/
theorem decodeTimeWith_text (typeInfo : TursoTypeInfo) (text : String)
    (formats : List String) :
    decodeTimeWith parseFromStr ⟨typeInfo, .text text⟩ formats =
      match formats.findSome? (parseFromStr text) with
      | some time => .ok time
      | none => .error (.content ("invalid time: " ++ text)) := by
  induction formats with
  | nil => rfl
  | cons format formats ih =>
      have step : decodeTimeWith parseFromStr ⟨typeInfo, .text text⟩ (format :: formats) =
          match parseFromStr text format with
          | some time => .ok time
          | none => decodeTimeWith parseFromStr ⟨typeInfo, .text text⟩ formats := rfl
      rw [step, List.findSome?_cons]
      cases parseFromStr text format with
      | none => exact ih
      | some time => rfl

end Decode

/-! ## Times that are written -/

/-- What the digits of a fraction say, in seconds. -/
def fractionValue : List (Fin 10) → ℚ
  | [] => 0
  | digit :: fraction => (digit.val + fractionValue fraction) / 10

namespace Clock

/-- The digits after the dot. -/
def fraction : Clock → List (Fin 10)
  | minutes _ _ => []
  | seconds _ _ _ fraction => fraction

/-- The time of day that the digits say, in seconds since midnight. -/
def secondOfDay : Clock → ℚ
  | minutes hour minute => (hour.val * 60 + minute.val) * 60
  | seconds hour minute second fraction =>
      (hour.val * 60 + minute.val) * 60 + second.val + fractionValue fraction

end Clock

/-- A time with up to nine digits after the dot, and an offset below 24 hours. -/
structure WrittenTime where
  clock : Clock
  digits_le : clock.fraction.length ≤ 9
  suffix : Suffix
  offset_lt : suffix.seconds.natAbs < 86400

namespace WrittenTime

def chars (written : WrittenTime) : List Char := written.clock.write written.suffix.text

def text (written : WrittenTime) : String := String.ofList written.chars

end WrittenTime

/-- The library reads texts that are written like times as documented: the whole text has to
be read, and an offset is not looked at. -/
def ReadsTimes (parseFromStr : String → String → Option NaiveTime) : Prop :=
  ∀ (written : WrittenTime), ∀ format ∈ sqliteTimeFormats,
    parseFromStr written.text format =
      (readFormat format written.text).bind Reading.naiveTime

/-! ## The formats -/

/-- How a time is laid out. -/
structure TimeLayout where
  precision : Precision
  zone : Zone
  deriving DecidableEq, Repr

namespace TimeLayout

def format (layout : TimeLayout) : String :=
  (match layout.precision with | .minutes => "%R" | .seconds => "%T%.f") ++
    (match layout.zone with | .none => "" | .z => "Z" | .offset => "%:z")

/-- The layouts in the order in which their formats are tried. -/
def tried : List TimeLayout :=
  [⟨.seconds, .none⟩, ⟨.minutes, .none⟩, ⟨.minutes, .z⟩, ⟨.seconds, .z⟩, ⟨.minutes, .offset⟩,
    ⟨.seconds, .offset⟩]

theorem mem_tried (layout : TimeLayout) : layout ∈ tried := by
  rcases layout with ⟨precision, zone⟩
  cases precision <;> cases zone <;> decide

theorem items_format (layout : TimeLayout) :
    Library.items layout.format.toList = layout.precision.items ++ layout.zone.items := by
  rcases layout with ⟨precision, zone⟩
  cases precision <;> cases zone <;> decide

end TimeLayout

/-- After the first format every layout has its own. -/
theorem sqliteTimeFormats_eq :
    sqliteTimeFormats = "%T.f" :: TimeLayout.tried.map TimeLayout.format := by
  decide

theorem timeFormat_mem (layout : TimeLayout) : layout.format ∈ sqliteTimeFormats := by
  rw [sqliteTimeFormats_eq]
  exact List.mem_cons_of_mem _ (List.mem_map_of_mem layout.mem_tried)

/-! ## What the formats read -/

section Reads

variable (reading : Reading)

/-- No fraction has the letter of the first format. -/
theorem readItems_letter (fraction : List (Fin 10)) (suffix : Suffix) :
    readItems reading
        (if fraction = [] then suffix.text
          else '.' :: (fractionDigits fraction ++ suffix.text))
        [.literal '.', .literal 'f'] = none := by
  cases fraction with
  | nil =>
      rw [if_pos rfl]
      cases isText : suffix.text with
      | nil => rfl
      | cons first rest =>
          apply readItems_literal_of_ne
          rintro rfl
          exact (head_suffix suffix).1 (by rw [isText]; rfl)
  | cons digit fraction =>
      have isDigit : digit.val.digitChar.isDigit = true := by
        rw [Nat.isDigit_digitChar, decide_eq_true_iff]
        exact digit.isLt
      rw [if_neg (List.cons_ne_nil _ _), readItems_literal]
      apply readItems_literal_of_ne
      intro isLetter
      have letter : 'f'.isDigit = true := by
        rw [← isLetter]
        exact isDigit
      exact absurd letter (by decide)

/-- The first format reads no time. -/
theorem readItems_slip (clock : Clock) (suffix : Suffix) :
    readItems reading (clock.write suffix.text) (Library.items "%T.f".toList) = none := by
  have isItems : Library.items "%T.f".toList =
      [.number .hour, .literal ':', .number .minute, .literal ':', .number .second,
        .literal '.', .literal 'f'] := by
    decide
  rw [isItems]
  cases clock with
  | minutes hour minute =>
      exact (readItems_hourMinute reading hour minute _ _).trans
        (readItems_colon_suffix _ suffix _)
  | seconds hour minute second fraction =>
      exact (readItems_second reading hour minute second _ _).trans
        (readItems_letter _ fraction suffix)

end Reads

namespace WrittenTime

variable (written : WrittenTime)

def layout : TimeLayout := ⟨written.clock.precision, written.suffix.zone⟩

/-- What is read of the text. -/
def read : Reading := written.suffix.read (written.clock.read {})

theorem readFormat_slip : readFormat "%T.f" written.text = none := by
  rw [readFormat, text, String.toList_ofList]
  exact readItems_slip {} written.clock written.suffix

/-- A format reads the times of its layout. -/
theorem readFormat_text (layout : TimeLayout) :
    readFormat layout.format written.text =
      if layout = written.layout then some written.read else none := by
  rw [readFormat, layout.items_format, text, String.toList_ofList]
  apply (readItems_clock {} layout.precision layout.zone written.clock written.suffix).trans
  rcases layout with ⟨precision, zone⟩
  simp only [WrittenTime.layout, TimeLayout.mk.injEq]
  rfl

theorem naiveTime_read : written.read.naiveTime = some written.clock.time := by
  rw [read, Suffix.naiveTime_read]
  exact Clock.naiveTime_read rfl rfl written.clock

end WrittenTime

/-! ## The time of day -/

/-- Zeros after the digits of a fraction do not change what it says. -/
theorem ofDigitChars_fraction {fraction : List (Fin 10)} {width : Nat}
    (digits_le : fraction.length ≤ width) :
    (Nat.ofDigitChars 10
        (fractionDigits fraction ++ List.replicate (width - fraction.length) '0') 0 : ℚ) =
      fractionValue fraction * 10 ^ width := by
  induction fraction generalizing width with
  | nil =>
      rw [fractionDigits, List.map_nil, List.nil_append, Nat.ofDigitChars_replicate_zero,
        Nat.mul_zero, fractionValue, zero_mul]
      rfl
  | cons digit fraction ih =>
      cases width with
      | zero => cases digits_le
      | succ width =>
          have rest := ih (Nat.le_of_succ_le_succ digits_le)
          have length_eq : (fractionDigits fraction ++
              List.replicate (width - fraction.length) '0').length = width := by
            rw [List.length_append, List.length_replicate, fractionDigits, List.length_map]
            exact Nat.add_sub_cancel' (Nat.le_of_succ_le_succ digits_le)
          have first : fractionDigits (digit :: fraction) ++
              List.replicate (width + 1 - (digit :: fraction).length) '0' =
                digit.val.digitChar :: (fractionDigits fraction ++
                  List.replicate (width - fraction.length) '0') := by
            rw [List.length_cons, Nat.add_sub_add_right]
            rfl
          rw [first, Nat.ofDigitChars_cons_digitChar_of_lt_ten digit.isLt,
            Nat.ofDigitChars_eq_ofDigitChars_zero, length_eq, Nat.mul_zero, Nat.zero_add]
          push_cast
          rw [rest, fractionValue]
          ring

/-- Up to nine digits are read to the nanosecond. -/
theorem nanoseconds_eq {fraction : List (Fin 10)} (digits_le : fraction.length ≤ 9) :
    (nanoseconds (fractionDigits fraction) : ℚ) = fractionValue fraction * 10 ^ 9 := by
  have length_eq : (fractionDigits fraction).length = fraction.length := List.length_map _
  have taken : (fractionDigits fraction ++ List.replicate 9 '0').take 9 =
      fractionDigits fraction ++ List.replicate (9 - fraction.length) '0' := by
    rw [List.take_append, length_eq, List.take_of_length_le (by rwa [length_eq]),
      List.take_replicate, Nat.min_eq_left (Nat.sub_le 9 _)]
  rw [nanoseconds, taken, ofDigitChars_fraction digits_le]

/-- A time with up to nine digits after the dot is the time of day that its digits say. -/
theorem Clock.sinceMidnight_time {clock : Clock} (digits_le : clock.fraction.length ≤ 9) :
    (clock.time.sinceMidnight : ℚ) = clock.secondOfDay * 10 ^ 9 := by
  cases clock with
  | minutes hour minute =>
      simp only [Clock.time, NaiveTime.sinceMidnight, Clock.secondOfDay]
      push_cast
      ring
  | seconds hour minute second fraction =>
      have exactly : (nanoseconds (fractionDigits fraction) : ℚ) =
          fractionValue fraction * 10 ^ 9 := nanoseconds_eq digits_le
      simp only [Clock.time, NaiveTime.sinceMidnight, Clock.secondOfDay]
      push_cast
      rw [exactly]
      ring

/-! ## What is decoded -/

section Documented

variable {parseFromStr : String → String → Option NaiveTime}
  (documented : ReadsTimes parseFromStr) (written : WrittenTime)

include documented

/-- The format of the layout is the only one that reads the text. -/
theorem findSome?_parseFromStr :
    sqliteTimeFormats.findSome? (parseFromStr written.text) = some written.clock.time := by
  have first : parseFromStr written.text "%T.f" = none := by
    rw [documented written _ (by decide), written.readFormat_slip]
    rfl
  have reads : ∀ layout : TimeLayout, parseFromStr written.text layout.format =
      if layout = written.layout then some written.clock.time else none := by
    intro layout
    rw [documented written _ (timeFormat_mem layout), written.readFormat_text]
    by_cases same : layout = written.layout
    · rw [if_pos same, if_pos same]
      exact written.naiveTime_read
    · rw [if_neg same, if_neg same]
      rfl
  rw [sqliteTimeFormats_eq, List.findSome?_cons, first, List.findSome?_map]
  apply findSome?_of_only written.layout.mem_tried
  · exact (reads written.layout).trans (if_pos rfl)
  · intro layout _ differs
    exact (reads layout).trans (if_neg differs)

theorem naiveTime_decode_text (typeInfo : TursoTypeInfo) :
    (SqlType.naiveTime parseFromStr).decode ⟨typeInfo, .text written.text⟩ =
      .ok written.clock.time := by
  apply (decodeTimeWith_text parseFromStr typeInfo written.text sqliteTimeFormats).trans
  rw [findSome?_parseFromStr documented written]

/-- Every text of a time is decoded, whatever its declared type, and to the time of day that
its digits say. -/
theorem every_time_is_read (typeInfo : TursoTypeInfo) :
    (SqlType.naiveTime parseFromStr).decode ⟨typeInfo, .text written.text⟩ =
        .ok written.clock.time ∧
      (written.clock.time.sinceMidnight : ℚ) = written.clock.secondOfDay * 10 ^ 9 :=
  ⟨naiveTime_decode_text documented written typeInfo,
    Clock.sinceMidnight_time written.digits_le⟩

end Documented

/-! ## Times that are encoded -/

def encodeNaiveTime (format : NaiveTime → String → String) (time : NaiveTime) : TursoValue :=
  .text (format time "%T%.f")

/-- The library writes the digits of a time as documented: a fraction says the nanoseconds. -/
def WritesTimes (format : NaiveTime → String → String) : Prop :=
  ∀ time : NaiveTime, ∃ written : WrittenTime,
    format time "%T%.f" = written.text ∧ written.suffix = .none ∧
      ∃ fraction : List (Fin 10),
        written.clock = .seconds ⟨time.hour, time.hour_lt⟩ ⟨time.minute, time.minute_lt⟩
          ⟨time.second, time.second_lt⟩ fraction ∧
        fractionValue fraction * 10 ^ 9 = time.nanosecond

/-- A time is decoded from the text that it is encoded to. -/
theorem encoded_time_is_decoded {parseFromStr : String → String → Option NaiveTime}
    (reads : ReadsTimes parseFromStr) {format : NaiveTime → String → String}
    (writes : WritesTimes format) (time : NaiveTime) :
    (SqlType.naiveTime parseFromStr).decode (encodeNaiveTime format time) = .ok time := by
  obtain ⟨written, isText, -, fraction, isClock, isNanosecond⟩ := writes time
  have decoded := naiveTime_decode_text reads written ⟨"TEXT"⟩
  have digits_le : fraction.length ≤ 9 := by
    have within := written.digits_le
    rwa [isClock] at within
  have nanosecond : nanoseconds (fractionDigits fraction) = time.nanosecond := by
    have exactly := nanoseconds_eq digits_le
    rw [isNanosecond] at exactly
    exact Nat.cast_injective exactly
  rw [encodeNaiveTime, isText]
  apply decoded.trans
  rw [isClock]
  cases time
  cases nanosecond
  rfl

/-! ## A library that is documented -/

/-- The last digits of a number. -/
def digitList : Nat → Nat → List (Fin 10)
  | 0, _ => []
  | width + 1, number =>
      ⟨number / 10 ^ width % 10, Nat.mod_lt _ (by decide)⟩ :: digitList width number

theorem length_digitList (width number : Nat) : (digitList width number).length = width := by
  induction width with
  | zero => rfl
  | succ width ih => rw [digitList, List.length_cons, ih]

theorem fractionValue_digitList (width number : Nat) :
    fractionValue (digitList width number) * 10 ^ width = (number % 10 ^ width : Nat) := by
  induction width with
  | zero => simp [digitList, fractionValue, Nat.mod_one]
  | succ width ih =>
      rw [digitList, fractionValue, Nat.mod_pow_succ, Nat.cast_add, ← ih]
      push_cast
      ring

/-- The digits of a fraction: none, three, six or nine. -/
def fractionOf (nanosecond : Nat) : List (Fin 10) :=
  if nanosecond = 0 then []
  else if nanosecond % 1000000 = 0 then digitList 3 (nanosecond / 1000000)
  else if nanosecond % 1000 = 0 then digitList 6 (nanosecond / 1000)
  else digitList 9 nanosecond

/-- Digits before zeros say a number of nanoseconds. -/
theorem fractionValue_of_dvd {width zeros nanosecond : Nat} (nine : width + zeros = 9)
    (below : nanosecond < 1000000000) (isMultiple : nanosecond % 10 ^ zeros = 0) :
    fractionValue (digitList width (nanosecond / 10 ^ zeros)) * 10 ^ 9 = nanosecond := by
  have quotient : nanosecond / 10 ^ zeros < 10 ^ width := by
    apply Nat.div_lt_of_lt_mul
    rw [← Nat.pow_add, Nat.add_comm, nine]
    exact below
  have value := fractionValue_digitList width (nanosecond / 10 ^ zeros)
  rw [Nat.mod_eq_of_lt quotient] at value
  have power : (10 : ℚ) ^ 9 = 10 ^ width * 10 ^ zeros := by rw [← pow_add, nine]
  rw [power, ← mul_assoc, value]
  exact_mod_cast Nat.div_mul_cancel (Nat.dvd_of_mod_eq_zero isMultiple)

theorem fractionOf_spec {nanosecond : Nat} (below : nanosecond < 1000000000) :
    (fractionOf nanosecond).length ≤ 9 ∧
      fractionValue (fractionOf nanosecond) * 10 ^ 9 = nanosecond := by
  unfold fractionOf
  split
  next none =>
    rw [none, fractionValue, zero_mul]
    exact ⟨by decide, rfl⟩
  split
  next three =>
    rw [length_digitList]
    exact ⟨by decide, fractionValue_of_dvd (by decide : 3 + 6 = 9) below three⟩
  split
  next six =>
    rw [length_digitList]
    exact ⟨by decide, fractionValue_of_dvd (by decide : 6 + 3 = 9) below six⟩
  next =>
    have nine := fractionValue_of_dvd (Nat.add_zero 9) below (Nat.mod_one nanosecond)
    rw [Nat.pow_zero, Nat.div_one] at nine
    rw [length_digitList]
    exact ⟨by decide, nine⟩

/-- The text of a time. -/
def writeTime (time : NaiveTime) : WrittenTime where
  clock := .seconds ⟨time.hour, time.hour_lt⟩ ⟨time.minute, time.minute_lt⟩
    ⟨time.second, time.second_lt⟩ (fractionOf time.nanosecond)
  digits_le := (fractionOf_spec time.nanosecond_lt).1
  suffix := .none
  offset_lt := by decide

theorem writeTime_writesTimes : WritesTimes fun time _ => (writeTime time).text :=
  fun time => ⟨writeTime time, rfl, rfl, fractionOf time.nanosecond, rfl,
    (fractionOf_spec time.nanosecond_lt).2⟩

/-- A time that is read by the items of a format. -/
def documentedParseFromStr (text format : String) : Option NaiveTime :=
  (readFormat format text).bind Reading.naiveTime

theorem documentedParseFromStr_readsTimes : ReadsTimes documentedParseFromStr :=
  fun _ _ _ => rfl

/-- The last millisecond of a day, five and a half hours west. -/
def lastMillisecond : WrittenTime :=
  ⟨.seconds (.last 23) (.last 59) (.last 59) [.last 9, .last 9, .last 9], by decide,
    .offset true ⟨5, by decide⟩ ⟨30, by decide⟩, by decide⟩

theorem lastMillisecond_is_read :
    (SqlType.naiveTime documentedParseFromStr).decode (TursoValue.text lastMillisecond.text) =
        .ok ⟨23, 59, 59, 999000000, by decide, by decide, by decide, by decide⟩ ∧
      (lastMillisecond.clock.time.sinceMidnight : ℚ) =
        lastMillisecond.clock.secondOfDay * 10 ^ 9 :=
  every_time_is_read documentedParseFromStr_readsTimes lastMillisecond ⟨"TEXT"⟩

end SqlxTurso
