import Mathlib.Algebra.Group.Nat.Defs
import SqlxTurso.Library.Calendar

/-!
# Texts that are read by a format

A format is a list of items, which read a text one after another.  A number takes as many
digits as its field is wide.  The whole text has to be read.
-/

namespace SqlxTurso.Library

/-- The fields of fixed width. -/
inductive Field where
  | year
  | month
  | day
  | hour
  | minute
  | second
  deriving DecidableEq, Repr

def Field.width : Field → Nat
  | year => 4
  | _ => 2

inductive Item where
  | number (field : Field)
  | fraction
  | offset
  | literal (char : Char)
  deriving DecidableEq, Repr

/-- The items of a format. -/
def items : List Char → List Item
  | '%' :: 'F' :: rest =>
      .number .year :: .literal '-' :: .number .month :: .literal '-' :: .number .day ::
        items rest
  | '%' :: 'T' :: rest =>
      .number .hour :: .literal ':' :: .number .minute :: .literal ':' :: .number .second ::
        items rest
  | '%' :: 'R' :: rest => .number .hour :: .literal ':' :: .number .minute :: items rest
  | '%' :: '.' :: 'f' :: rest => .fraction :: items rest
  | '%' :: ':' :: 'z' :: rest => .offset :: items rest
  | char :: rest => .literal char :: items rest
  | [] => []

/-- What has been read of a text. -/
structure Reading where
  year : Option Nat := none
  month : Option Nat := none
  day : Option Nat := none
  hour : Option Nat := none
  minute : Option Nat := none
  second : Option Nat := none
  nanosecond : Option Nat := none
  offset : Option Int := none
  deriving DecidableEq, Repr

def Reading.set (reading : Reading) (number : Nat) : Field → Reading
  | .year => { reading with year := some number }
  | .month => { reading with month := some number }
  | .day => { reading with day := some number }
  | .hour => { reading with hour := some number }
  | .minute => { reading with minute := some number }
  | .second => { reading with second := some number }

/-! ## Reading -/

def readNumber (width : Nat) (text : List Char) : Option (Nat × List Char) :=
  let digits := text.take width
  if digits.length = width ∧ digits.all Char.isDigit then
    some (Nat.ofDigitChars 10 digits 0, text.drop width)
  else none

def readLiteral (char : Char) : List Char → Option (List Char)
  | first :: rest => if first = char then some rest else none
  | [] => none

/-- The nanoseconds in a fraction of a second.  Digits after the ninth are dropped. -/
def nanoseconds (digits : List Char) : Nat :=
  Nat.ofDigitChars 10 ((digits ++ List.replicate 9 '0').take 9) 0

/-- A dot and digits, or nothing. -/
def readFraction : List Char → Option (Option Nat × List Char)
  | '.' :: rest =>
      let digits := rest.takeWhile Char.isDigit
      if digits = [] then none
      else some (some (nanoseconds digits), rest.dropWhile Char.isDigit)
  | text => some (none, text)

def readSign (char : Char) : Option Int :=
  if char = '+' then some 1 else if char = '-' then some (-1) else none

/-- A sign, hours, a colon and the minutes of an hour. -/
def readOffset : List Char → Option (Int × List Char)
  | sign :: text => do
      let sign ← readSign sign
      let (hours, text) ← readNumber 2 text
      let text ← readLiteral ':' text
      let (minutes, text) ← readNumber 2 text
      if minutes < 60 then some (sign * ((hours * 60 + minutes) * 60 : Nat), text) else none
  | [] => none

def readItem (reading : Reading) (text : List Char) : Item → Option (Reading × List Char)
  | .number field => do
      let (number, text) ← readNumber field.width text
      some (reading.set number field, text)
  | .fraction => do
      let (nanosecond, text) ← readFraction text
      some ({ reading with nanosecond := nanosecond.or reading.nanosecond }, text)
  | .offset => do
      let (offset, text) ← readOffset text
      some ({ reading with offset := some offset }, text)
  | .literal char => do
      let text ← readLiteral char text
      some (reading, text)

/-- Read a text to its end. -/
def readItems (reading : Reading) (text : List Char) : List Item → Option Reading
  | [] => if text = [] then some reading else none
  | item :: items => do
      let (reading, text) ← readItem reading text item
      readItems reading text items

/-- Read a text by a format. -/
def readFormat (format text : String) : Option Reading :=
  readItems {} text.toList (items format.toList)

/-! ## Dates and times that have been read -/

namespace Reading

variable (reading : Reading)

def naiveDate : Option NaiveDate := do
  let year ← reading.year
  let month ← reading.month
  let day ← reading.day
  if isDay : IsDay year month day then some ⟨year, month, day, isDay⟩ else none

def naiveTime : Option NaiveTime := do
  let hour ← reading.hour
  let minute ← reading.minute
  let second := reading.second.getD 0
  let nanosecond := reading.nanosecond.getD 0
  if valid : hour < 24 ∧ minute < 60 ∧ second < 60 ∧ nanosecond < 1000000000 then
    some ⟨hour, minute, second, nanosecond, valid.1, valid.2.1, valid.2.2.1, valid.2.2.2⟩
  else none

/-- An offset that has been read is not looked at. -/
def naiveDateTime : Option NaiveDateTime := do
  let date ← reading.naiveDate
  let time ← reading.naiveTime
  some ⟨date, time⟩

/-- An offset has to have been read, and to be below a day. -/
def dateTime : Option DateTime := do
  let naiveLocal ← reading.naiveDateTime
  let offset ← reading.offset
  if below : offset.natAbs < 86400 then some ⟨naiveLocal, offset, below⟩ else none

/-- A time that exists is read from its numbers.  Seconds may be missing. -/
theorem naiveTime_eq {reading : Reading} {time : NaiveTime}
    (hour : reading.hour = some time.hour) (minute : reading.minute = some time.minute)
    (second : reading.second.getD 0 = time.second)
    (nanosecond : reading.nanosecond.getD 0 = time.nanosecond) :
    reading.naiveTime = some time := by
  rw [naiveTime, hour, minute]
  simp only [Option.bind_eq_bind, Option.bind_some, second, nanosecond]
  exact dif_pos ⟨time.hour_lt, time.minute_lt, time.second_lt, time.nanosecond_lt⟩

end Reading

/-! ## Numbers that are written -/

/-- A number in so many digits. -/
def digitsText : Nat → Nat → List Char
  | 0, _ => []
  | width + 1, number => digitsText width (number / 10) ++ [(number % 10).digitChar]

@[simp] theorem length_digitsText (width number : Nat) :
    (digitsText width number).length = width := by
  induction width generalizing number with
  | zero => rfl
  | succ width ih => rw [digitsText, List.length_append, ih, List.length_singleton]

theorem isDigit_of_mem_digitsText {width number : Nat} {char : Char}
    (isChar : char ∈ digitsText width number) : char.isDigit = true := by
  induction width generalizing number with
  | zero => cases isChar
  | succ width ih =>
      rw [digitsText, List.mem_append, List.mem_singleton] at isChar
      rcases isChar with earlier | rfl
      · exact ih earlier
      · rw [Nat.isDigit_digitChar, decide_eq_true_iff]
        exact Nat.mod_lt number (by decide)

theorem ofDigitChars_digitsText {width number : Nat} (fits : number < 10 ^ width) :
    Nat.ofDigitChars 10 (digitsText width number) 0 = number := by
  induction width generalizing number with
  | zero =>
      rw [Nat.pow_zero, Nat.lt_one_iff] at fits
      rw [fits]
      rfl
  | succ width ih =>
      have quotient : number / 10 < 10 ^ width := by
        rw [Nat.pow_succ] at fits
        exact Nat.div_lt_of_lt_mul (by rwa [Nat.mul_comm] at fits)
      rw [digitsText, Nat.ofDigitChars_append, ih quotient,
        Nat.ofDigitChars_cons_digitChar_of_lt_ten (Nat.mod_lt number (by decide)),
        Nat.ofDigitChars_nil]
      exact Nat.div_add_mod number 10

theorem readNumber_digitsText {width number : Nat} (fits : number < 10 ^ width)
    (rest : List Char) :
    readNumber width (digitsText width number ++ rest) = some (number, rest) := by
  have taken : (digitsText width number ++ rest).take width = digitsText width number :=
    List.take_left' (length_digitsText width number)
  have left : (digitsText width number ++ rest).drop width = rest :=
    List.drop_left' (length_digitsText width number)
  have isDigits : (digitsText width number).all Char.isDigit = true :=
    List.all_eq_true.mpr fun _ isChar => isDigit_of_mem_digitsText isChar
  rw [readNumber, taken, left, ofDigitChars_digitsText fits]
  exact if_pos ⟨length_digitsText width number, isDigits⟩

theorem ofDigitChars_lt {digits : List Char} (isDigits : ∀ char ∈ digits, char.isDigit = true) :
    Nat.ofDigitChars 10 digits 0 < 10 ^ digits.length := by
  induction digits with
  | nil => simp
  | cons digit digits ih =>
      rw [List.forall_mem_cons] at isDigits
      have rest := ih isDigits.2
      have small : digit.toNat - '0'.toNat ≤ 9 := by
        have bounds := isDigits.1
        simp only [Char.isDigit, Bool.and_eq_true, decide_eq_true_eq] at bounds
        have upper : digit.toNat ≤ 57 := UInt32.le_iff_toNat_le.mp bounds.2
        exact Nat.sub_le_of_le_add upper
      rw [Nat.ofDigitChars_cons, Nat.ofDigitChars_eq_ofDigitChars_zero, Nat.mul_zero,
        Nat.zero_add, List.length_cons, Nat.pow_succ]
      calc
        10 ^ digits.length * (digit.toNat - '0'.toNat) + Nat.ofDigitChars 10 digits 0
          < 10 ^ digits.length * (digit.toNat - '0'.toNat) + 10 ^ digits.length :=
            Nat.add_lt_add_left rest _
        _ = 10 ^ digits.length * (digit.toNat - '0'.toNat + 1) := (Nat.mul_succ _ _).symm
        _ ≤ 10 ^ digits.length * 10 := Nat.mul_le_mul_left _ (Nat.succ_le_succ small)

theorem nanoseconds_lt {digits : List Char} (isDigits : ∀ char ∈ digits, char.isDigit = true) :
    nanoseconds digits < 1000000000 := by
  have nine : ((digits ++ List.replicate 9 '0').take 9).length = 9 := by simp
  have isDigit : ∀ char ∈ (digits ++ List.replicate 9 '0').take 9, char.isDigit = true := by
    intro char isChar
    rcases List.mem_append.mp (List.mem_of_mem_take isChar) with isDigit | isZero
    · exact isDigits char isDigit
    · rw [List.eq_of_mem_replicate isZero]
      rfl
  have bound := ofDigitChars_lt isDigit
  rwa [nine] at bound

/-- The text of a field. -/
def Field.text (field : Field) (number : Nat) : List Char := digitsText field.width number

/-- The text of an offset, up to its sign. -/
def offsetText (hours minutes : Nat) : List Char :=
  digitsText 2 hours ++ ':' :: digitsText 2 minutes

/-! ## Items that read what is written -/

section Items

variable (reading : Reading) (rest : List Char) (items : List Item)

theorem readItems_number {field : Field} {number : Nat} (fits : number < 10 ^ field.width) :
    readItems reading (field.text number ++ rest) (.number field :: items) =
      readItems (reading.set number field) rest items := by
  rw [readItems, readItem, Field.text, readNumber_digitsText fits]
  rfl

@[simp] theorem readItems_literal (char : Char) :
    readItems reading (char :: rest) (.literal char :: items) =
      readItems reading rest items := by
  rw [readItems, readItem, readLiteral, if_pos rfl]
  rfl

@[simp] theorem readItems_literal_nil (char : Char) :
    readItems reading [] (.literal char :: items) = none := rfl

theorem readItems_literal_of_ne {first char : Char} (differs : first ≠ char) :
    readItems reading (first :: rest) (.literal char :: items) = none := by
  rw [readItems, readItem, readLiteral, if_neg differs]
  rfl

theorem readItems_fraction {digits : List Char} (isDigits : ∀ char ∈ digits, char.isDigit = true)
    (nonempty : digits ≠ []) (ended : rest.takeWhile Char.isDigit = []) :
    readItems reading ('.' :: (digits ++ rest)) (.fraction :: items) =
      readItems { reading with nanosecond := some (nanoseconds digits) } rest items := by
  have run : (digits ++ rest).takeWhile Char.isDigit = digits := by
    rw [List.takeWhile_append_of_pos isDigits, ended, List.append_nil]
  have left : (digits ++ rest).dropWhile Char.isDigit = rest := by
    rw [List.dropWhile_append_of_pos isDigits]
    have whole := List.takeWhile_append_dropWhile (p := Char.isDigit) (l := rest)
    rwa [ended, List.nil_append] at whole
  rw [readItems, readItem, readFraction]
  simp only [run, left, if_neg nonempty]
  rfl

theorem readItems_fraction_absent {text : List Char} (absent : text.head? ≠ some '.') :
    readItems reading text (.fraction :: items) = readItems reading text items := by
  have nothing : readFraction text = some (none, text) := by
    rw [readFraction]
    intro rest isDot
    exact absent (by rw [isDot]; rfl)
  rw [readItems, readItem, nothing]
  rfl

theorem readItems_offset (negative : Bool) {hours minutes : Nat} (hours_lt : hours < 100)
    (minutes_lt : minutes < 60) :
    readItems reading ((if negative then '-' else '+') :: (offsetText hours minutes ++ rest))
        (.offset :: items) =
      readItems { reading with
        offset := some ((if negative then -1 else 1) * ((hours * 60 + minutes) * 60 : Nat)) }
        rest items := by
  have isSign : readSign (if negative then '-' else '+') =
      some (if negative then -1 else 1) := by
    cases negative <;> rfl
  have readHours : readNumber 2 (offsetText hours minutes ++ rest) =
      some (hours, ':' :: (digitsText 2 minutes ++ rest)) := by
    rw [offsetText, List.append_assoc]
    exact readNumber_digitsText hours_lt _
  have readColon : readLiteral ':' (':' :: (digitsText 2 minutes ++ rest)) =
      some (digitsText 2 minutes ++ rest) := by
    rw [readLiteral, if_pos rfl]
  have readMinutes : readNumber 2 (digitsText 2 minutes ++ rest) = some (minutes, rest) :=
    readNumber_digitsText (by omega) rest
  rw [readItems, readItem, readOffset, isSign]
  simp only [Option.bind_eq_bind, Option.bind_some, readHours, readColon, readMinutes,
    if_pos minutes_lt]

theorem readItems_offset_nil : readItems reading [] (.offset :: items) = none := rfl

theorem readItems_offset_of_ne {first : Char} (noPlus : first ≠ '+') (noMinus : first ≠ '-') :
    readItems reading (first :: rest) (.offset :: items) = none := by
  rw [readItems, readItem, readOffset, readSign, if_neg noPlus, if_neg noMinus]
  rfl

end Items

/-! ## Formats that are tried in turn -/

/-- When a single format of a list reads a text, it does not matter which come before it. -/
theorem findSome?_of_only {α β : Type} {read : α → Option β} {formats : List α} {format : α}
    {result : β} (isMember : format ∈ formats) (reads : read format = some result)
    (only : ∀ other ∈ formats, other ≠ format → read other = none) :
    formats.findSome? read = some result := by
  induction formats with
  | nil => cases isMember
  | cons first formats ih =>
      rw [List.forall_mem_cons] at only
      rw [List.findSome?_cons]
      by_cases same : first = format
      · rw [same, reads]
      · rw [only.1 same]
        exact ih ((List.mem_cons.mp isMember).resolve_left (Ne.symm same)) only.2

end SqlxTurso.Library
