import SqlxTurso.Arguments
import SqlxTurso.Types.Compatible

/-!
# Encoding values

A Rust type that is bound is written as one value of a storage class, whose name is the
type it is given.  Every type that is decoded can be bound, except for `u64`, which may
not fit into the engine's integers.
-/

namespace SqlxTurso

/-- The libraries that read the content of some types write it too. -/
structure ContentWriters (crates : ContentCrates) where
  asBytes : crates.Uuid → List UInt8
  hyphenated : crates.Uuid → String
  simple : crates.Uuid → String
  encodeToString : crates.Json → Except String String

namespace Encode

/-- An integer type, given by its conversion to 64 bits. -/
def implIntegerType {α : Type} (into : α → Int64) (value : α) : Encoding :=
  .writes (.integer (into value))

def i8 : Int8 → Encoding := implIntegerType Int8.toInt64

def i16 : Int16 → Encoding := implIntegerType Int16.toInt64

def i32 : Int32 → Encoding := implIntegerType Int32.toInt64

def i64 : Int64 → Encoding := implIntegerType id

def u8 : UInt8 → Encoding := implIntegerType (·.toUInt64.toInt64)

def u16 : UInt16 → Encoding := implIntegerType (·.toUInt64.toInt64)

def u32 : UInt32 → Encoding := implIntegerType (·.toUInt64.toInt64)

def bool (value : Bool) : Encoding := .writes (.integer (if value then 1 else 0))

/-- A float type, given by its conversion to a 64-bit pattern. -/
def implFloatType {α : Type} (into : α → UInt64) (value : α) : Encoding :=
  .writes (.real (into value))

def f32 : Float32 → Encoding := implFloatType fun value => value.toFloat.toBits

def f64 : UInt64 → Encoding := implFloatType id

/-- A string, borrowed, owned or shared. -/
def string (value : String) : Encoding := .writes (.text value)

/-- Bytes, borrowed or owned. -/
def bytes (value : List UInt8) : Encoding := .writes (.blob value)

section Contents

variable {crates : ContentCrates} (writers : ContentWriters crates)

def uuid (value : crates.Uuid) : Encoding := .writes (.blob (writers.asBytes value))

def uuidHyphenated (value : crates.Uuid) : Encoding :=
  .writes (.text (writers.hyphenated value))

def uuidSimple (value : crates.Uuid) : Encoding := .writes (.text (writers.simple value))

/-- The only type that may fail to encode, and it does before it writes anything. -/
def json (value : crates.Json) : Encoding :=
  match writers.encodeToString value with
  | .ok text => .writes (.text text)
  | .error error => .fails [] error

end Contents

/-- An optional value.  None is reported to the buffer. -/
def implEncodeForOption {α : Type} (encode : α → Encoding) : Option α → Encoding
  | some value => encode value
  | none => .isNull

end Encode

/-- Add values one after the other, as a caller does that stops at the first error. -/
def TursoArguments.addAll (arguments : TursoArguments) :
    List Encoding → Except String TursoArguments
  | [] => .ok arguments
  | value :: values =>
      match arguments.add value with
      | (.ok (), arguments) => arguments.addAll values
      | (.error error, _) => .error error

theorem TursoArguments.addAll_eq_ok_iff {arguments result : TursoArguments}
    {values : List Encoding} :
    arguments.addAll values = .ok result ↔
      ∃ added, encodings values = some added ∧ result.values = arguments.values ++ added := by
  induction values generalizing arguments with
  | nil =>
      simp only [addAll, encodings, List.mapM_nil, Except.ok.injEq]
      constructor
      · rintro rfl
        exact ⟨[], rfl, (List.append_nil _).symm⟩
      · rintro ⟨_, ⟨⟩, same⟩
        rw [List.append_nil] at same
        cases result
        cases same
        rfl
  | cons value values ih =>
      rw [addAll, encodings_cons]
      cases hasEncoding : value.encoded with
      | none =>
          cases value with
          | writes value => cases hasEncoding
          | isNull => cases hasEncoding
          | fails written error => simp [add_fails]
      | some first =>
          rw [add_of_encoded _ hasEncoding]
          simp only [ih, Option.bind_some, Option.map_eq_some_iff]
          constructor
          · rintro ⟨added, areOthers, isResult⟩
            exact ⟨first :: added, ⟨added, areOthers, rfl⟩, by simpa using isResult⟩
          · rintro ⟨_, ⟨added, areOthers, rfl⟩, isResult⟩
            exact ⟨added, areOthers, by simpa using isResult⟩

/-- The values of a buffer are the encodings, in order. -/
theorem encodings_getElem? {values : List Encoding} {added : List TursoValue}
    (areEncodings : encodings values = some added) {index : Nat} {value : Encoding}
    (isValue : values[index]? = some value) :
    ∃ stored, value.encoded = some stored ∧ added[index]? = some stored := by
  induction values generalizing added index with
  | nil => cases isValue
  | cons first values ih =>
      rw [encodings_cons] at areEncodings
      obtain ⟨head, isHead, mapped⟩ := Option.bind_eq_some_iff.mp areEncodings
      obtain ⟨others, areOthers, rfl⟩ := Option.map_eq_some_iff.mp mapped
      cases index with
      | zero =>
          cases isValue
          exact ⟨head, isHead, rfl⟩
      | succ index => exact ih areOthers isValue

/-! ## Numbers -/

/-- The values of an integer type are numbers that a conversion from 64 bits keeps. -/
structure Numbers {α : Type} (low high : Int) (convert : Int64 → α) (number : α → Int) :
    Prop where
  injective : Function.Injective number
  inRange : ∀ value, low ≤ number value ∧ number value ≤ high
  kept : ∀ stored : Int64, low ≤ stored.toInt → stored.toInt ≤ high →
    number (convert stored) = stored.toInt

/-- An integer type reads the integers that are numbers of it, and reads each as the same
number. -/
theorem Numbers.decode_eq_ok_iff {α : Type} {low high : Int} {convert : Int64 → α}
    {number : α → Int} (numbers : Numbers low high convert number) {value : TursoValueRef}
    {result : α} :
    (SqlType.implIntegerType low high convert).decode value = .ok result ↔
      ∃ stored, value.kind = .integer stored ∧ stored.toInt = number result := by
  rw [implIntegerType_eq_ok_iff]
  refine exists_congr fun stored => and_congr_right fun _ => ?_
  constructor
  · rintro ⟨⟨atLeast, atMost⟩, rfl⟩
    exact (numbers.kept stored atLeast atMost).symm
  · intro same
    have inRange := numbers.inRange result
    rw [← same] at inRange
    exact ⟨inRange, numbers.injective ((numbers.kept stored inRange.1 inRange.2).trans same)⟩

/-- An integer that an integer type does not read is out of its range. -/
theorem implIntegerType_integer {α : Type} {low high : Int} {convert : Int64 → α}
    {value : TursoValueRef} {stored : Int64} (isStored : value.kind = .integer stored)
    (fails : ¬∃ result, (SqlType.implIntegerType low high convert).decode value =
      .ok result) :
    (SqlType.implIntegerType low high convert).decode value = .error .tryFromInt := by
  have isInteger : value.integer = .ok stored := integer_eq_ok_iff.mpr isStored
  have decodes : (SqlType.implIntegerType low high convert).decode value =
      if low ≤ stored.toInt ∧ stored.toInt ≤ high then .ok (convert stored)
      else .error .tryFromInt := by
    rw [SqlType.implIntegerType]
    dsimp only
    rw [isInteger]
    rfl
  rw [decodes] at fails ⊢
  split at fails
  next => exact absurd ⟨_, rfl⟩ fails
  next outOfRange => rw [if_neg outOfRange]

theorem numbers_i8 : Numbers (-128) 127 Int64.toInt8 Int8.toInt where
  injective _ _ := Int8.toInt.inj
  inRange value := ⟨value.le_toInt, value.toInt_le⟩
  kept stored atLeast atMost := by
    rw [Int64.toInt_toInt8]
    exact Int.bmod_eq_of_le (by omega) (by omega)

theorem numbers_i16 : Numbers (-32768) 32767 Int64.toInt16 Int16.toInt where
  injective _ _ := Int16.toInt.inj
  inRange value := ⟨value.le_toInt, value.toInt_le⟩
  kept stored atLeast atMost := by
    rw [Int64.toInt_toInt16]
    exact Int.bmod_eq_of_le (by omega) (by omega)

theorem numbers_i32 : Numbers (-2147483648) 2147483647 Int64.toInt32 Int32.toInt where
  injective _ _ := Int32.toInt.inj
  inRange value := ⟨value.le_toInt, value.toInt_le⟩
  kept stored atLeast atMost := by
    rw [Int64.toInt_toInt32]
    exact Int.bmod_eq_of_le (by omega) (by omega)

theorem numbers_i64 :
    Numbers (-9223372036854775808) 9223372036854775807 id Int64.toInt where
  injective _ _ := Int64.toInt.inj
  inRange value := ⟨value.le_toInt, value.toInt_le⟩
  kept _ _ _ := rfl

/-- The bits of a number that is not negative are the number. -/
theorem toUInt64_of_nonneg {stored : Int64} (nonneg : 0 ≤ stored.toInt) :
    (stored.toUInt64.toNat : Int) = stored.toInt := by
  have sameBits : stored.toInt = if 2 * stored.toUInt64.toNat < 2 ^ 64 then
      (stored.toUInt64.toNat : Int) else (stored.toUInt64.toNat : Int) - (2 ^ 64 : Nat) :=
    BitVec.toInt_eq_toNat_cond _
  have bounded := stored.toUInt64.toNat_lt
  split at sameBits
  next => exact sameBits.symm
  next => omega

theorem numbers_u8 : Numbers 0 255 (·.toUInt64.toUInt8) fun value => (value.toNat : Int) where
  injective _ _ same := UInt8.toNat.inj (Int.ofNat.inj same)
  inRange value := ⟨by omega, by have := value.toNat_lt; omega⟩
  kept stored atLeast atMost := by
    have sameBits := toUInt64_of_nonneg atLeast
    rw [UInt64.toNat_toUInt8]
    omega

theorem numbers_u16 :
    Numbers 0 65535 (·.toUInt64.toUInt16) fun value => (value.toNat : Int) where
  injective _ _ same := UInt16.toNat.inj (Int.ofNat.inj same)
  inRange value := ⟨by omega, by have := value.toNat_lt; omega⟩
  kept stored atLeast atMost := by
    have sameBits := toUInt64_of_nonneg atLeast
    rw [UInt64.toNat_toUInt16]
    omega

theorem numbers_u32 :
    Numbers 0 4294967295 (·.toUInt64.toUInt32) fun value => (value.toNat : Int) where
  injective _ _ same := UInt32.toNat.inj (Int.ofNat.inj same)
  inRange value := ⟨by omega, by have := value.toNat_lt; omega⟩
  kept stored atLeast atMost := by
    have sameBits := toUInt64_of_nonneg atLeast
    rw [UInt64.toNat_toUInt32]
    omega

theorem numbers_u64 :
    Numbers 0 18446744073709551615 (·.toUInt64) fun value => (value.toNat : Int) where
  injective _ _ same := UInt64.toNat.inj (Int.ofNat.inj same)
  inRange value := ⟨by omega, by have := value.toNat_lt; omega⟩
  kept _ atLeast _ := toUInt64_of_nonneg atLeast

/-- An unsigned number of at most 32 bits is written as the same number. -/
theorem toInt64_of_small {value : UInt64} (small : value.toNat < 4294967296) :
    value.toInt64.toInt = value.toNat := by
  refine BitVec.toInt_eq_toNat_of_lt ?_
  change 2 * value.toNat < 2 ^ 64
  omega

/-! ## Every type -/

namespace RustType

variable {crates : ContentCrates}

/-- The number that a value of an integer type is. -/
def number : (type : RustType) → type.Result crates → Option Int
  | i8, value => some value.toInt
  | i16, value => some value.toInt
  | i32, value => some value.toInt
  | i64, value => some value.toInt
  | u8, value => some value.toNat
  | u16, value => some value.toNat
  | u32, value => some value.toNat
  | u64, value => some value.toNat
  | _, _ => none

def isInteger : RustType → Bool
  | i8 | i16 | i32 | i64 | u8 | u16 | u32 | u64 => true
  | _ => false

theorem number_of_isInteger {type : RustType} (isInteger : type.isInteger = true)
    (result : type.Result crates) : ∃ number, type.number result = some number := by
  cases type with
  | i8 | i16 | i32 | i64 | u8 | u16 | u32 | u64 => exact ⟨_, rfl⟩
  | _ => cases isInteger

theorem compatible_of_isInteger {type : RustType} (isInteger : type.isInteger = true) :
    (type.sqlType crates).compatible = TursoTypeInfo.hasIntegerAffinity := by
  cases type with
  | i8 | i16 | i32 | i64 | u8 | u16 | u32 | u64 => rfl
  | _ => cases isInteger

/-- Of an integer type exactly the value that is the stored number is read. -/
theorem decode_number_iff {type : RustType} {result : type.Result crates} {number : Int}
    (isNumber : type.number result = some number) {value : TursoValueRef} :
    (type.sqlType crates).decode value = .ok result ↔
      ∃ stored, value.kind = .integer stored ∧ stored.toInt = number := by
  cases type with
  | i8 => cases isNumber; exact numbers_i8.decode_eq_ok_iff
  | i16 => cases isNumber; exact numbers_i16.decode_eq_ok_iff
  | i32 => cases isNumber; exact numbers_i32.decode_eq_ok_iff
  | i64 => cases isNumber; exact numbers_i64.decode_eq_ok_iff
  | u8 => cases isNumber; exact numbers_u8.decode_eq_ok_iff
  | u16 => cases isNumber; exact numbers_u16.decode_eq_ok_iff
  | u32 => cases isNumber; exact numbers_u32.decode_eq_ok_iff
  | u64 => cases isNumber; exact numbers_u64.decode_eq_ok_iff
  | _ => cases isNumber

/-- An integer that is no number of an integer type is out of its range. -/
theorem decode_integer {type : RustType} (isInteger : type.isInteger = true)
    {value : TursoValueRef} {stored : Int64} (isStored : value.kind = .integer stored) :
    (∃ result, (type.sqlType crates).decode value = .ok result ∧
        type.number result = some stored.toInt) ∨
      (type.sqlType crates).decode value = .error .tryFromInt := by
  cases decoded : (type.sqlType crates).decode value with
  | ok result =>
      obtain ⟨number, isNumber⟩ := number_of_isInteger isInteger result
      obtain ⟨other, isOther, rfl⟩ := (decode_number_iff isNumber).mp decoded
      cases isStored.symm.trans isOther
      exact .inl ⟨result, rfl, isNumber⟩
  | error error =>
      right
      cases type with
      | i8 | i16 | i32 | i64 | u8 | u16 | u32 | u64 =>
          rw [← decoded]
          refine implIntegerType_integer isStored ?_
          rintro ⟨result, isOk⟩
          cases decoded.symm.trans isOk
      | _ => cases isInteger

variable (writers : ContentWriters crates)

def encode : (type : RustType) → type ≠ .u64 → type.Result crates → Encoding
  | i8, _ => Encode.i8
  | i16, _ => Encode.i16
  | i32, _ => Encode.i32
  | i64, _ => Encode.i64
  | u8, _ => Encode.u8
  | u16, _ => Encode.u16
  | u32, _ => Encode.u32
  | u64, isEncoded => absurd rfl isEncoded
  | bool, _ => Encode.bool
  | f32, _ => Encode.f32
  | f64, _ => Encode.f64
  | string, _ => Encode.string
  | bytes, _ => Encode.bytes
  | uuid, _ => Encode.uuid writers
  | uuidHyphenated, _ => Encode.uuidHyphenated writers
  | uuidSimple, _ => Encode.uuidSimple writers
  | json, _ => Encode.json writers

variable {writers} {type : RustType} {value : type.Result crates} {isEncoded : type ≠ .u64}

theorem encode_number {number : Int} (isNumber : type.number value = some number) :
    ∃ stored, type.encode writers isEncoded value = .writes (.integer stored) ∧
      stored.toInt = number := by
  cases type with
  | i8 => cases isNumber; exact ⟨_, rfl, Int8.toInt_toInt64 _⟩
  | i16 => cases isNumber; exact ⟨_, rfl, Int16.toInt_toInt64 _⟩
  | i32 => cases isNumber; exact ⟨_, rfl, Int32.toInt_toInt64 _⟩
  | i64 => cases isNumber; exact ⟨_, rfl, rfl⟩
  | u8 =>
      cases isNumber
      have bounded := UInt8.toNat_lt value
      exact ⟨_, rfl, toInt64_of_small (by rw [UInt8.toNat_toUInt64]; omega)⟩
  | u16 =>
      cases isNumber
      have bounded := UInt16.toNat_lt value
      exact ⟨_, rfl, toInt64_of_small (by rw [UInt16.toNat_toUInt64]; omega)⟩
  | u32 =>
      cases isNumber
      have bounded := UInt32.toNat_lt value
      exact ⟨_, rfl, toInt64_of_small (by rw [UInt32.toNat_toUInt64]; omega)⟩
  | u64 => exact absurd rfl isEncoded
  | _ => cases isNumber

/-- A value comes back from what was written of it: a float of 32 bits from the one of 64
bits, and a content from what its library wrote. -/
def ReadsBack (writers : ContentWriters crates) : (type : RustType) → type.Result crates → Prop
  | f32, value => (Float.ofBits value.toFloat.toBits).toFloat32 = value
  | uuid, value => crates.fromSlice (writers.asBytes value) = .ok value
  | uuidHyphenated, value => crates.parseStr (writers.hyphenated value) = .ok value
  | uuidSimple, value => crates.parseStr (writers.simple value) = .ok value
  | json, value => ∀ text, writers.encodeToString value = .ok text →
      crates.decodeFromString text = .ok value
  | _, _ => True

/-- Decoding looks at the storage class only. -/
theorem decode_withTypeInfo (stored : TursoValue) (typeInfo : TursoTypeInfo) :
    (type.sqlType crates).decode (stored.withTypeInfo typeInfo) =
      (type.sqlType crates).decode stored := by
  have sameKind : (stored.withTypeInfo typeInfo).kind = stored.kind := by
    rw [TursoValue.withTypeInfo]
    split
    next => rfl
    next => rfl
  cases type <;>
    simp only [sqlType, SqlType.i8, SqlType.i16, SqlType.i32, SqlType.i64, SqlType.u8,
      SqlType.u16, SqlType.u32, SqlType.u64, SqlType.bool, SqlType.f32, SqlType.f64,
      SqlType.string, SqlType.bytes, SqlType.uuid, SqlType.uuidHyphenated,
      SqlType.uuidSimple, SqlType.uuidText, SqlType.json, SqlType.implIntegerType,
      SqlType.implFloatType, TursoValueRef.integer, TursoValueRef.real, TursoValueRef.text,
      TursoValueRef.blob, sameKind]

theorem fromContent_eq_ok_iff {α : Type} {content : Except String α} {result : α} :
    SqlType.fromContent content = .ok result ↔ content = .ok result := by
  cases content <;> simp [SqlType.fromContent]

/-- What was written of a value is decoded as that value exactly when it reads back. -/
theorem decode_encode_iff {stored : TursoValue}
    (isStored : type.encode writers isEncoded value = .writes stored) :
    (type.sqlType crates).decode stored = .ok value ↔ type.ReadsBack writers value := by
  cases isNumber : type.number value with
  | some number =>
      have writes : ∃ stored, type.encode writers isEncoded value =
          .writes (.integer stored) ∧ stored.toInt = number := encode_number isNumber
      obtain ⟨_, isWritten, same⟩ := writes
      cases isStored.symm.trans isWritten
      refine iff_of_true ((decode_number_iff isNumber).mpr ⟨_, rfl, same⟩) ?_
      cases type with
      | i8 | i16 | i32 | i64 | u8 | u16 | u32 | u64 => trivial
      | _ => cases isNumber
  | none =>
      cases type with
      | i8 | i16 | i32 | i64 | u8 | u16 | u32 | u64 => cases isNumber
      | bool =>
          cases isStored
          refine iff_of_true (bool_eq_ok_iff.mpr ⟨_, rfl, ?_⟩) trivial
          cases value with
          | false => rfl
          | true => rfl
      | f32 =>
          cases isStored
          exact Except.ok.injEq _ _ |>.to_iff
      | f64 =>
          cases isStored
          exact iff_of_true (f64_eq_ok_iff.mpr (.inl rfl)) trivial
      | string =>
          cases isStored
          exact iff_of_true (string_eq_ok_iff.mpr rfl) trivial
      | bytes =>
          cases isStored
          exact iff_of_true (bytes_eq_ok_iff.mpr rfl) trivial
      | uuid =>
          cases isStored
          exact fromContent_eq_ok_iff
      | uuidHyphenated =>
          cases isStored
          exact fromContent_eq_ok_iff
      | uuidSimple =>
          cases isStored
          exact fromContent_eq_ok_iff
      | json =>
          rw [encode, Encode.json] at isStored
          cases encoded : writers.encodeToString value with
          | error error =>
              rw [encoded] at isStored
              cases isStored
          | ok text =>
              rw [encoded] at isStored
              cases isStored
              refine fromContent_eq_ok_iff.trans ?_
              rw [ReadsBack, encoded]
              simp

/-- The type that is written with the values of a Rust type. -/
def writtenAs : RustType → TursoTypeInfo
  | i8 | i16 | i32 | i64 | u8 | u16 | u32 | u64 | bool => ⟨"INTEGER"⟩
  | f32 | f64 => ⟨"REAL"⟩
  | string | uuidHyphenated | uuidSimple | json => ⟨"TEXT"⟩
  | bytes | uuid => ⟨"BLOB"⟩

theorem compatible_writtenAs (type : RustType) :
    (type.sqlType crates).compatible type.writtenAs = true := by
  rw [compatible_eq]
  cases type <;> decide

theorem writtenAs_typed (type : RustType) : type.writtenAs.isNull = false := by
  cases type <;> decide

/-- A value that has an encoding is written. -/
theorem writes_of_encoded {stored : TursoValue}
    (isStored : (type.encode writers isEncoded value).encoded = some stored) :
    type.encode writers isEncoded value = .writes stored := by
  cases type with
  | u64 => exact absurd rfl isEncoded
  | json =>
      rw [encode, Encode.json] at isStored ⊢
      cases encoded : writers.encodeToString value with
      | error error =>
          rw [encoded] at isStored
          cases isStored
      | ok text =>
          rw [encoded] at isStored
          cases isStored
          rfl
  | _ =>
      cases isStored
      rfl

/-- A value that is written has the type that the engine's value has of itself. -/
theorem own_type {stored : TursoValue}
    (isStored : type.encode writers isEncoded value = .writes stored) :
    TursoValue.fromTurso stored.intoTurso = stored ∧ stored.kind ≠ .null ∧
      stored.typeInfo = type.writtenAs := by
  cases type with
  | u64 => exact absurd rfl isEncoded
  | json =>
      rw [encode, Encode.json] at isStored
      cases encoded : writers.encodeToString value with
      | error error =>
          rw [encoded] at isStored
          cases isStored
      | ok text =>
          rw [encoded] at isStored
          cases isStored
          exact ⟨rfl, Turso.Value.noConfusion, rfl⟩
  | _ =>
      cases isStored
      exact ⟨rfl, Turso.Value.noConfusion, rfl⟩

end RustType

end SqlxTurso
