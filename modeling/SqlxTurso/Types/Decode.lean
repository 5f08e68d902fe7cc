import SqlxTurso.Types.TypeInfo

/-!
# Decoding values

A Rust type is decoded from a value by its storage class.  The type a value is declared
with is looked at by `compatible`, and by no decoder.
-/

namespace SqlxTurso

/-- Why a value is not decoded. -/
inductive DecodeError where
  /-- the adapter's error for a storage class that it does not take -/
  | adapter (message : String)
  | tryFromInt
  /-- an error of the library that reads the content -/
  | content (message : String)
  deriving DecidableEq, Repr

def DecodeError.unsupported (surface : String) : DecodeError :=
  .adapter (surface ++ " is not supported by sqlx-turso yet")

/-- A borrowed value. -/
abbrev TursoValueRef := TursoValue

namespace TursoValueRef

variable (value : TursoValueRef)

def integer : Except DecodeError Int64 :=
  match value.kind with
  | .integer value => .ok value
  | _ => .error (.unsupported "decoding non-integer Turso value as integer")

def real : Except DecodeError UInt64 :=
  match value.kind with
  | .real bits => .ok bits
  | .integer value => .ok value.toFloat.toBits
  | _ => .error (.unsupported "decoding non-real Turso value as float")

def text : Except DecodeError String :=
  match value.kind with
  | .text value => .ok value
  | _ => .error (.unsupported "decoding non-text Turso value as text")

def blob : Except DecodeError (List UInt8) :=
  match value.kind with
  | .blob value => .ok value
  | _ => .error (.unsupported "decoding non-blob Turso value as bytes")

end TursoValueRef

/-! ## Rust types -/

/-- What the adapter knows about a Rust type. -/
structure SqlType (α : Type) where
  typeInfo : TursoTypeInfo
  compatible : TursoTypeInfo → Bool
  decode : TursoValueRef → Except DecodeError α

namespace SqlType

/-- An integer type, given by its bounds. -/
def implIntegerType {α : Type} (low high : Int) (convert : Int64 → α) : SqlType α where
  typeInfo := ⟨"INTEGER"⟩
  compatible := TursoTypeInfo.hasIntegerAffinity
  decode value := do
    let value ← value.integer
    if low ≤ value.toInt ∧ value.toInt ≤ high then .ok (convert value) else .error .tryFromInt

def i8 : SqlType Int8 := implIntegerType (-128) 127 Int64.toInt8

def i16 : SqlType Int16 := implIntegerType (-32768) 32767 Int64.toInt16

def i32 : SqlType Int32 := implIntegerType (-2147483648) 2147483647 Int64.toInt32

def i64 : SqlType Int64 := implIntegerType (-9223372036854775808) 9223372036854775807 id

def u8 : SqlType UInt8 := implIntegerType 0 255 (·.toUInt64.toUInt8)

def u16 : SqlType UInt16 := implIntegerType 0 65535 (·.toUInt64.toUInt16)

def u32 : SqlType UInt32 := implIntegerType 0 4294967295 (·.toUInt64.toUInt32)

def u64 : SqlType UInt64 := implIntegerType 0 18446744073709551615 (·.toUInt64)

def bool : SqlType Bool where
  typeInfo := ⟨"BOOLEAN"⟩
  compatible typeInfo := typeInfo.hasBoolAffinity || typeInfo.hasIntegerAffinity
  decode value := do
    let value ← value.integer
    .ok (value != 0)

/-- A float type, given by its conversion from a 64-bit pattern. -/
def implFloatType {α : Type} (convert : UInt64 → α) : SqlType α where
  typeInfo := ⟨"REAL"⟩
  compatible := TursoTypeInfo.hasRealAffinity
  decode value := do
    let bits ← value.real
    .ok (convert bits)

def f32 : SqlType Float32 := implFloatType fun bits => (Float.ofBits bits).toFloat32

/-- A 64-bit float is its bit pattern. -/
def f64 : SqlType UInt64 := implFloatType id

def string : SqlType String where
  typeInfo := ⟨"TEXT"⟩
  compatible := TursoTypeInfo.hasTextAffinity
  decode value := value.text

/-- `Vec<u8>`. -/
def bytes : SqlType (List UInt8) where
  typeInfo := ⟨"BLOB"⟩
  compatible typeInfo := typeInfo.hasBlobAffinity || typeInfo.hasTextAffinity
  decode value := value.blob

end SqlType

/-! ## What is decoded -/

section Decoded

variable {value : TursoValueRef}

theorem integer_eq_ok_iff {number : Int64} :
    value.integer = .ok number ↔ value.kind = .integer number := by
  unfold TursoValueRef.integer
  cases value.kind <;> simp

theorem real_eq_ok_iff {bits : UInt64} :
    value.real = .ok bits ↔ value.kind = .real bits ∨
      ∃ number, value.kind = .integer number ∧ number.toFloat.toBits = bits := by
  unfold TursoValueRef.real
  cases value.kind <;> simp

theorem string_eq_ok_iff {text : String} :
    SqlType.string.decode value = .ok text ↔ value.kind = .text text := by
  simp only [SqlType.string, TursoValueRef.text]
  cases value.kind <;> simp

theorem bytes_eq_ok_iff {bytes : List UInt8} :
    SqlType.bytes.decode value = .ok bytes ↔ value.kind = .blob bytes := by
  simp only [SqlType.bytes, TursoValueRef.blob]
  cases value.kind <;> simp

/-- A decoder in two steps succeeds when both do. -/
theorem bind_eq_ok_iff {α β : Type} {first : Except DecodeError α}
    {next : α → Except DecodeError β} {result : β} :
    (first >>= next) = .ok result ↔ ∃ value, first = .ok value ∧ next value = .ok result := by
  cases first with
  | error error =>
      constructor
      · intro isOk
        cases isOk
      · rintro ⟨_, isOk, _⟩
        cases isOk
  | ok value =>
      constructor
      · intro isOk
        exact ⟨value, rfl, isOk⟩
      · rintro ⟨_, isOk, kept⟩
        cases isOk
        exact kept

theorem implIntegerType_eq_ok_iff {α : Type} {low high : Int} {convert : Int64 → α}
    {result : α} :
    (SqlType.implIntegerType low high convert).decode value = .ok result ↔
      ∃ number, value.kind = .integer number ∧ (low ≤ number.toInt ∧ number.toInt ≤ high) ∧
        convert number = result := by
  simp only [SqlType.implIntegerType, bind_eq_ok_iff, integer_eq_ok_iff]
  refine exists_congr fun number => and_congr_right fun _ => ?_
  split
  next inRange => simp [inRange]
  next outOfRange => simp [outOfRange]

/-- Every 64-bit integer is in the range of `i64`. -/
theorem i64_eq_ok_iff {number : Int64} :
    SqlType.i64.decode value = .ok number ↔ value.kind = .integer number := by
  rw [SqlType.i64, implIntegerType_eq_ok_iff]
  constructor
  · rintro ⟨other, isInteger, _, rfl⟩
    exact isInteger
  · intro isInteger
    exact ⟨number, isInteger, ⟨number.le_toInt, number.toInt_le⟩, rfl⟩

theorem bool_eq_ok_iff {result : Bool} :
    SqlType.bool.decode value = .ok result ↔
      ∃ number, value.kind = .integer number ∧ (number != 0) = result := by
  simp only [SqlType.bool, bind_eq_ok_iff, integer_eq_ok_iff, Except.ok.injEq]

theorem f64_eq_ok_iff {bits : UInt64} :
    SqlType.f64.decode value = .ok bits ↔ value.kind = .real bits ∨
      ∃ number, value.kind = .integer number ∧ number.toFloat.toBits = bits := by
  simp only [SqlType.f64, SqlType.implFloatType, bind_eq_ok_iff, id, Except.ok.injEq,
    exists_eq_right, real_eq_ok_iff]

end Decoded

/-- The libraries that read the content of some types: UUIDs, and a type read from JSON. -/
structure ContentCrates where
  Uuid : Type
  fromSlice : List UInt8 → Except String Uuid
  parseStr : String → Except String Uuid
  Json : Type
  decodeFromString : String → Except String Json
  decodeFromBytes : List UInt8 → Except String Json

namespace SqlType

variable (crates : ContentCrates)

/-- The content that a library read, or its error. -/
def fromContent {α : Type} : Except String α → Except DecodeError α
  | .ok value => .ok value
  | .error message => .error (.content message)

def uuid : SqlType crates.Uuid where
  typeInfo := ⟨"BLOB"⟩
  compatible := bytes.compatible
  decode value :=
    match value.kind with
    | .blob bytes => fromContent (crates.fromSlice bytes)
    | .text text => fromContent (crates.parseStr text)
    | _ => .error (.unsupported "decoding non-blob/text Turso value as uuid")

/-- A way to write UUIDs, which are read from texts only. -/
def uuidText : SqlType crates.Uuid where
  typeInfo := ⟨"TEXT"⟩
  compatible := string.compatible
  decode value := do
    let text ← value.text
    fromContent (crates.parseStr text)

def uuidHyphenated : SqlType crates.Uuid := uuidText crates

def uuidSimple : SqlType crates.Uuid := uuidText crates

def json : SqlType crates.Json where
  typeInfo := ⟨"TEXT"⟩
  compatible := string.compatible
  decode value :=
    match value.kind with
    | .text text => fromContent (crates.decodeFromString text)
    | .blob bytes => fromContent (crates.decodeFromBytes bytes)
    | _ => .error (.unsupported "decoding non-text/blob Turso value as json")

end SqlType

/-- The Rust types that are decoded, those for dates and times apart. -/
inductive RustType where
  | i8
  | i16
  | i32
  | i64
  | u8
  | u16
  | u32
  | u64
  | bool
  | f32
  | f64
  | string
  | bytes
  | uuid
  | uuidHyphenated
  | uuidSimple
  | json
  deriving DecidableEq, Repr

namespace RustType

variable (crates : ContentCrates)

/-- What is decoded for a type. -/
abbrev Result : RustType → Type
  | i8 => Int8
  | i16 => Int16
  | i32 => Int32
  | i64 => Int64
  | u8 => UInt8
  | u16 => UInt16
  | u32 => UInt32
  | u64 => UInt64
  | bool => Bool
  | f32 => Float32
  | f64 => UInt64
  | string => String
  | bytes => List UInt8
  | uuid => crates.Uuid
  | uuidHyphenated => crates.Uuid
  | uuidSimple => crates.Uuid
  | json => crates.Json

def sqlType : (type : RustType) → SqlType (type.Result crates)
  | i8 => SqlType.i8
  | i16 => SqlType.i16
  | i32 => SqlType.i32
  | i64 => SqlType.i64
  | u8 => SqlType.u8
  | u16 => SqlType.u16
  | u32 => SqlType.u32
  | u64 => SqlType.u64
  | bool => SqlType.bool
  | f32 => SqlType.f32
  | f64 => SqlType.f64
  | string => SqlType.string
  | bytes => SqlType.bytes
  | uuid => SqlType.uuid crates
  | uuidHyphenated => SqlType.uuidHyphenated crates
  | uuidSimple => SqlType.uuidSimple crates
  | json => SqlType.json crates

end RustType

end SqlxTurso
