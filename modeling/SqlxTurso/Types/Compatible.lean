import SqlxTurso.Types.Decode

/-!
# Compatible types

A Rust type accepts a declared type through the affinities that its `compatible` asks
for.  It should then decode what is stored in the class of that affinity.
-/

namespace SqlxTurso

/-- The affinities that the adapter tells from a name. -/
inductive AffinityPredicate where
  | integer
  | bool
  | text
  | blob
  | real
  deriving DecidableEq, Repr

namespace AffinityPredicate

def holds : AffinityPredicate → TursoTypeInfo → Bool
  | integer => TursoTypeInfo.hasIntegerAffinity
  | bool => TursoTypeInfo.hasBoolAffinity
  | text => TursoTypeInfo.hasTextAffinity
  | blob => TursoTypeInfo.hasBlobAffinity
  | real => TursoTypeInfo.hasRealAffinity

/-- The storage class of an affinity. -/
def storage : AffinityPredicate → StorageClass
  | integer => .integer
  | bool => .integer
  | text => .text
  | blob => .blob
  | real => .real

end AffinityPredicate

namespace RustType

variable (crates : ContentCrates)

/-- The affinities through which a type accepts a declared type. -/
def accepted : RustType → List AffinityPredicate
  | i8 | i16 | i32 | i64 | u8 | u16 | u32 | u64 => [.integer]
  | bool => [.bool, .integer]
  | f32 | f64 => [.real]
  | string => [.text]
  | bytes | uuid => [.blob, .text]
  | uuidHyphenated | uuidSimple | json => [.text]

theorem compatible_eq (type : RustType) (typeInfo : TursoTypeInfo) :
    (type.sqlType crates).compatible typeInfo = type.accepted.any (·.holds typeInfo) := by
  cases type <;>
    simp [sqlType, accepted, AffinityPredicate.holds, SqlType.i8, SqlType.i16, SqlType.i32,
      SqlType.i64, SqlType.u8, SqlType.u16, SqlType.u32, SqlType.u64, SqlType.implIntegerType,
      SqlType.bool, SqlType.f32, SqlType.f64, SqlType.implFloatType, SqlType.string,
      SqlType.bytes, SqlType.uuid, SqlType.uuidHyphenated, SqlType.uuidSimple,
      SqlType.uuidText, SqlType.json]

/-- The type accepts the declared type through one affinity and no other. -/
def AcceptsThrough (type : RustType) (typeInfo : TursoTypeInfo)
    (predicate : AffinityPredicate) : Prop :=
  (type.sqlType crates).compatible typeInfo = true ∧
    ∀ other ∈ type.accepted, (other.holds typeInfo = true ↔ other = predicate)

end RustType

/-! ## Rejected classes -/

/-- The adapter does not take the storage class. -/
def Rejected {α : Type} (result : Except DecodeError α) : Prop :=
  ∃ message, result = .error (.adapter message)

theorem rejected_bind {α β : Type} {first : Except DecodeError α}
    {next : α → Except DecodeError β} (takes : ∀ value, ¬Rejected (next value)) :
    Rejected (first >>= next) ↔ Rejected first := by
  cases first with
  | ok value =>
      constructor
      · intro rejected
        exact absurd rejected (takes value)
      · rintro ⟨message, isError⟩
        cases isError
  | error error =>
      constructor
      · rintro ⟨message, isError⟩
        cases isError
        exact ⟨message, rfl⟩
      · rintro ⟨message, isError⟩
        cases isError
        exact ⟨message, rfl⟩

theorem not_rejected_ok {α : Type} (value : α) : ¬Rejected (.ok value) := by
  rintro ⟨message, isError⟩
  cases isError

theorem rejected_unsupported {α : Type} (surface : String) :
    Rejected (.error (.unsupported surface) : Except DecodeError α) := ⟨_, rfl⟩

theorem not_rejected_fromContent {α : Type} (result : Except String α) :
    ¬Rejected (SqlType.fromContent result) := by
  rintro ⟨message, isError⟩
  cases result <;> cases isError

section Accessors

variable (value : TursoValueRef)

theorem rejected_integer : Rejected value.integer ↔ value.kind.storageClass ≠ some .integer := by
  unfold TursoValueRef.integer Rejected
  cases value.kind <;> simp [DecodeError.unsupported, Turso.Value.storageClass]

theorem rejected_real :
    Rejected value.real ↔
      value.kind.storageClass ≠ some .real ∧ value.kind.storageClass ≠ some .integer := by
  unfold TursoValueRef.real Rejected
  cases value.kind <;> simp [DecodeError.unsupported, Turso.Value.storageClass]

theorem rejected_text : Rejected value.text ↔ value.kind.storageClass ≠ some .text := by
  unfold TursoValueRef.text Rejected
  cases value.kind <;> simp [DecodeError.unsupported, Turso.Value.storageClass]

theorem rejected_blob : Rejected value.blob ↔ value.kind.storageClass ≠ some .blob := by
  unfold TursoValueRef.blob Rejected
  cases value.kind <;> simp [DecodeError.unsupported, Turso.Value.storageClass]

theorem rejected_implIntegerType {α : Type} (low high : Int) (convert : Int64 → α) :
    Rejected ((SqlType.implIntegerType low high convert).decode value) ↔
      value.kind.storageClass ≠ some .integer := by
  rw [← rejected_integer]
  apply rejected_bind
  intro number
  split
  · exact not_rejected_ok _
  · rintro ⟨message, isError⟩
    cases isError

theorem rejected_bool :
    Rejected (SqlType.bool.decode value) ↔ value.kind.storageClass ≠ some .integer := by
  rw [← rejected_integer]
  exact rejected_bind fun _ => not_rejected_ok _

theorem rejected_implFloatType {α : Type} (convert : UInt64 → α) :
    Rejected ((SqlType.implFloatType convert).decode value) ↔
      value.kind.storageClass ≠ some .real ∧ value.kind.storageClass ≠ some .integer := by
  rw [← rejected_real]
  exact rejected_bind fun _ => not_rejected_ok _

variable (crates : ContentCrates)

theorem rejected_uuid :
    Rejected ((SqlType.uuid crates).decode value) ↔
      value.kind.storageClass ≠ some .blob ∧ value.kind.storageClass ≠ some .text := by
  simp only [SqlType.uuid]
  cases value.kind <;>
    simp [not_rejected_fromContent, rejected_unsupported, Turso.Value.storageClass]

theorem rejected_uuidText :
    Rejected ((SqlType.uuidText crates).decode value) ↔
      value.kind.storageClass ≠ some .text := by
  rw [← rejected_text]
  exact rejected_bind fun _ => not_rejected_fromContent _

theorem rejected_json :
    Rejected ((SqlType.json crates).decode value) ↔
      value.kind.storageClass ≠ some .text ∧ value.kind.storageClass ≠ some .blob := by
  simp only [SqlType.json]
  cases value.kind <;>
    simp [not_rejected_fromContent, rejected_unsupported, Turso.Value.storageClass]

end Accessors

namespace RustType

variable (crates : ContentCrates)

/-- The storage classes that the decoder of a type takes. -/
def takes : RustType → List StorageClass
  | i8 | i16 | i32 | i64 | u8 | u16 | u32 | u64 | bool => [.integer]
  | f32 | f64 => [.real, .integer]
  | string => [.text]
  | bytes => [.blob]
  | uuid => [.blob, .text]
  | uuidHyphenated | uuidSimple => [.text]
  | json => [.text, .blob]

theorem rejected_decode_iff (type : RustType) (value : TursoValueRef) :
    Rejected ((type.sqlType crates).decode value) ↔
      ∀ storage ∈ type.takes, value.kind.storageClass ≠ some storage := by
  cases type with
  | bool => exact (rejected_bool value).trans (by simp [takes])
  | f32 => exact (rejected_implFloatType value _).trans (by simp [takes])
  | f64 => exact (rejected_implFloatType value _).trans (by simp [takes])
  | string => exact (rejected_text value).trans (by simp [takes])
  | bytes => exact (rejected_blob value).trans (by simp [takes])
  | uuid => exact (rejected_uuid value crates).trans (by simp [takes])
  | uuidHyphenated => exact (rejected_uuidText value crates).trans (by simp [takes])
  | uuidSimple => exact (rejected_uuidText value crates).trans (by simp [takes])
  | json => exact (rejected_json value crates).trans (by simp [takes])
  | _ => exact (rejected_implIntegerType value _ _ _).trans (by simp [takes])

end RustType

/-- What a type accepts through one affinity is decoded from the storage class of that
affinity, except for byte vectors, which accept text columns and reject texts. -/
theorem compatible_is_decodable_iff (crates : ContentCrates) (type : RustType)
    (typeInfo : TursoTypeInfo) (predicate : AffinityPredicate)
    (accepts : type.AcceptsThrough crates typeInfo predicate) (value : TursoValueRef)
    (stored : value.kind.storageClass = some predicate.storage) :
    ¬Rejected ((type.sqlType crates).decode value) ↔
      ¬(type = .bytes ∧ predicate = .text) := by
  have isAccepted : predicate ∈ type.accepted := by
    have holds := accepts.1
    rw [RustType.compatible_eq, List.any_eq_true] at holds
    obtain ⟨other, isOther, otherHolds⟩ := holds
    rw [← (accepts.2 other isOther).mp otherHolds]
    exact isOther
  rw [RustType.rejected_decode_iff, stored]
  cases type <;> cases predicate <;>
    simp_all [RustType.accepted, RustType.takes, AffinityPredicate.storage]

/-- Libraries that read UUIDs of sixteen bytes, and nothing else. -/
def bytesOnly : ContentCrates where
  Uuid := List UInt8
  fromSlice bytes := if bytes.length = 16 then .ok bytes else .error "invalid length"
  parseStr _ := .error "invalid character"
  Json := Unit
  decodeFromString _ := .error "expected value"
  decodeFromBytes _ := .error "expected value"

theorem uuid_of_blob_is_decodable :
    ¬Rejected ((RustType.uuid.sqlType bytesOnly).decode
      ((TursoValue.blob (List.replicate 16 0)).withTypeInfo ⟨"Blob"⟩)) :=
  (compatible_is_decodable_iff bytesOnly .uuid ⟨"Blob"⟩ .blob ⟨by decide, by decide⟩ _
    rfl).mpr (by decide)

/-- A byte vector accepts a text column, and its decoder rejects the texts there. -/
theorem text_is_rejected_as_bytes :
    RustType.bytes.AcceptsThrough bytesOnly ⟨"TEXT"⟩ .text ∧
      (TursoValue.text "abc").kind.storageClass = some AffinityPredicate.text.storage ∧
      Rejected ((RustType.bytes.sqlType bytesOnly).decode (TursoValue.text "abc")) :=
  ⟨⟨by decide, by decide⟩, rfl, _, rfl⟩

end SqlxTurso
