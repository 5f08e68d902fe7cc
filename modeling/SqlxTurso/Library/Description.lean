import SqlxTurso.Library.Strftime

/-!
# Texts that are read by a description

A description names its items in brackets, and every other character stands for itself.
The digits of a fraction are an item, of which there is at least one; the dot before them
is a character of the description.
-/

namespace SqlxTurso.Library

inductive FormatItem where
  | number (field : Field)
  | subsecond
  | literal (char : Char)
  deriving DecidableEq, Repr

def namedFormatItems : List (String × FormatItem) :=
  [("year", .number .year), ("month", .number .month), ("day", .number .day),
    ("hour", .number .hour), ("minute", .number .minute), ("second", .number .second),
    ("subsecond", .subsecond)]

/-- The items of a description, of which a name may have begun. -/
def formatItems : Option (List Char) → List Char → List FormatItem
  | _, [] => []
  | none, '[' :: rest => formatItems (some []) rest
  | none, char :: rest => .literal char :: formatItems none rest
  | some name, ']' :: rest =>
      (namedFormatItems.lookup (String.ofList name)).toList ++ formatItems none rest
  | some name, char :: rest => formatItems (some (name ++ [char])) rest

/-- At least one digit. -/
def readSubsecond (text : List Char) : Option (Nat × List Char) :=
  let digits := text.takeWhile Char.isDigit
  if digits = [] then none else some (nanoseconds digits, text.dropWhile Char.isDigit)

def readFormatItem (reading : Reading) (text : List Char) :
    FormatItem → Option (Reading × List Char)
  | .number field => do
      let (number, text) ← readNumber field.width text
      some (reading.set number field, text)
  | .subsecond => do
      let (nanosecond, text) ← readSubsecond text
      some ({ reading with nanosecond := some nanosecond }, text)
  | .literal char => do
      let text ← readLiteral char text
      some (reading, text)

/-- Read a text to its end. -/
def readFormatItems (reading : Reading) (text : List Char) : List FormatItem → Option Reading
  | [] => if text = [] then some reading else none
  | item :: items => do
      let (reading, text) ← readFormatItem reading text item
      readFormatItems reading text items

/-- Read a text by a description. -/
def readDescription (description text : String) : Option Reading :=
  readFormatItems {} text.toList (formatItems none description.toList)

section FormatItems

variable (reading : Reading) (rest : List Char) (items : List FormatItem)

@[simp] theorem readFormatItems_nil (text : List Char) :
    readFormatItems reading text [] = if text = [] then some reading else none := rfl

theorem readFormatItems_number {field : Field} {number : Nat}
    (fits : number < 10 ^ field.width) :
    readFormatItems reading (field.text number ++ rest) (.number field :: items) =
      readFormatItems (reading.set number field) rest items := by
  rw [readFormatItems, readFormatItem, Field.text, readNumber_digitsText fits]
  rfl

@[simp] theorem readFormatItems_literal (char : Char) :
    readFormatItems reading (char :: rest) (.literal char :: items) =
      readFormatItems reading rest items := by
  rw [readFormatItems, readFormatItem, readLiteral, if_pos rfl]
  rfl

@[simp] theorem readFormatItems_literal_nil (char : Char) :
    readFormatItems reading [] (.literal char :: items) = none := rfl

theorem readFormatItems_literal_of_ne {first char : Char} (differs : first ≠ char) :
    readFormatItems reading (first :: rest) (.literal char :: items) = none := by
  rw [readFormatItems, readFormatItem, readLiteral, if_neg differs]
  rfl

/-- Text that does not begin with a character is not read where it is expected. -/
theorem readFormatItems_literal_of_head {text : List Char} {char : Char}
    (differs : text.head? ≠ some char) :
    readFormatItems reading text (.literal char :: items) = none := by
  cases text with
  | nil => exact readFormatItems_literal_nil reading items char
  | cons first rest =>
      apply readFormatItems_literal_of_ne
      rintro rfl
      exact differs rfl

theorem readFormatItems_subsecond {digits : List Char}
    (isDigits : ∀ char ∈ digits, char.isDigit = true) (nonempty : digits ≠ [])
    (ended : rest.takeWhile Char.isDigit = []) :
    readFormatItems reading (digits ++ rest) (.subsecond :: items) =
      readFormatItems { reading with nanosecond := some (nanoseconds digits) } rest
        items := by
  have run : (digits ++ rest).takeWhile Char.isDigit = digits := by
    rw [List.takeWhile_append_of_pos isDigits, ended, List.append_nil]
  have left : (digits ++ rest).dropWhile Char.isDigit = rest := by
    rw [List.dropWhile_append_of_pos isDigits]
    have whole := List.takeWhile_append_dropWhile (p := Char.isDigit) (l := rest)
    rwa [ended, List.nil_append] at whole
  rw [readFormatItems, readFormatItem, readSubsecond]
  simp only [run, left, if_neg nonempty]
  rfl

end FormatItems

end SqlxTurso.Library
