import SqlxTurso.Connection.Streaming
import SqlxTurso.Types.Encode
import SqlxTurso.Types.TypeChecking

/-!
# Reading back what was bound

A value that is bound to a query is encoded, put into the argument buffer, handed to the
engine without the type it was written with, and given the declared type of a column on its
way back.  It is decoded as the same value again, and its type is compatible unless the
column declares another one.
-/

namespace SqlxTurso

open Library Async Sql

variable {crates : ContentCrates} (writers : ContentWriters crates)

/-- A value of a Rust type that can be bound, or NULL in its place. -/
structure Binding (crates : ContentCrates) where
  type : RustType
  isEncoded : type ≠ .u64
  value : Option (type.Result crates)

namespace Binding

def encoding (binding : Binding crates) : Encoding :=
  Encode.implEncodeForOption (binding.type.encode writers binding.isEncoded) binding.value

def sqlType (binding : Binding crates) : SqlType (binding.type.Result crates) :=
  binding.type.sqlType crates

/-- The type is compatible with a column: it has no declared type, or one that is. -/
def Accepted (binding : Binding crates) (typeInfo : TursoTypeInfo) : Prop :=
  typeInfo.isNull = true ∨ binding.sqlType.compatible typeInfo = true

/-- How a binding is found in a column with a declared type. -/
structure FoundAs (binding : Binding crates) (typeInfo : TursoTypeInfo) (value : TursoValue) :
    Prop where
  isNull : value.kind = .null ↔ binding.value = none
  typed : binding.value ≠ none → value.typeInfo.isNull = false
  compatible : ∀ bound, binding.value = some bound →
    (binding.sqlType.compatible value.typeInfo = true ↔ binding.Accepted typeInfo)
  decodes : ∀ bound, binding.value = some bound →
    (binding.sqlType.decode value = .ok bound ↔ binding.type.ReadsBack writers bound)

end Binding

/-- An integer type reads a value as this number, or reports it to be out of range where it
has no such number. -/
structure ReadsNumber (crates : ContentCrates) (type : RustType) (number : Int)
    (value : TursoValue) : Prop where
  notNull : value.kind ≠ .null
  typed : value.typeInfo.isNull = false
  compatible : (type.sqlType crates).compatible value.typeInfo = true
  decodes : ∀ result, (type.sqlType crates).decode value = .ok result ↔
    type.number result = some number
  outOfRange : (∃ result : type.Result crates, type.number result = some number) ∨
    (type.sqlType crates).decode value = .error .tryFromInt

/-- The first row is made of the arguments, one in each column, and the engine does not
fail right after it. -/
structure HandsBack (arguments : TursoArguments) (columns : List TursoColumn)
    (rows : Turso.Rows) : Prop where
  first : ∃ rest, rows.rows = arguments.intoTursoValues :: rest ∧
    (rest ≠ [] ∨ rows.failure = none)
  inColumns : columns.length = arguments.values.length

/-! ## The first row -/

/-- The first row is returned where the engine does not fail right after it. -/
theorem FetchStream.firstRow_of_rows {columns : List TursoColumn} {rows : Turso.Rows}
    {row : Turso.Row} {rest : List Turso.Row} (isRow : rows.rows = row :: rest)
    (goesOn : rest ≠ [] ∨ rows.failure = none) (complete : columns.length ≤ row.length) :
    (FetchStream.unfolded (.rows rows columns none)).firstRow =
      .ok (some (typedRow columns row)) := by
  obtain ⟨list, failure, changes⟩ := rows
  cases isRow
  have valued := FetchState.rowValues_eq complete
  cases rest with
  | nil =>
      cases goesOn.resolve_left (fun notNil => notNil rfl)
      apply firstRow_of_row
      simp only [FetchState.next, FetchState.nextRow, Turso.Rows.next, valued]
      rfl
  | cons ahead rest =>
      apply firstRow_of_row
      simp only [FetchState.next, FetchState.nextRow, Turso.Rows.next, valued]
      rfl

theorem typedRow_tryGetRaw {columns : List TursoColumn} {row : Turso.Row} {index : Nat}
    {column : TursoColumn} {value : Turso.Value} (isColumn : columns[index]? = some column)
    (isValue : row[index]? = some value) :
    (typedRow columns row).tryGetRaw index =
      .ok ((TursoValue.fromTurso value).withTypeInfo column.typeInfo) := by
  have inColumns : ¬index ≥ (typedRow columns row).columns.length :=
    Nat.not_le.mpr (List.getElem?_eq_some_iff.mp isColumn).1
  rw [TursoRow.tryGetRaw, if_neg inColumns]
  simp only [typedRow, typedValues, List.getElem?_zipWith, isColumn, isValue]

/-! ## One value -/

theorem withTypeInfo_kind (value : TursoValue) (typeInfo : TursoTypeInfo) :
    (value.withTypeInfo typeInfo).kind = value.kind := by
  rw [TursoValue.withTypeInfo]
  split
  next => rfl
  next => rfl

/-- A value that has a type still has one in a column, whether or not that declares one. -/
theorem withTypeInfo_typed {value : TursoValue} (typed : value.typeInfo.isNull = false)
    (typeInfo : TursoTypeInfo) : (value.withTypeInfo typeInfo).typeInfo.isNull = false := by
  rw [TursoValue.withTypeInfo]
  split
  next => exact typed
  next notUndeclared => exact Bool.eq_false_iff.mpr notUndeclared

namespace Binding

variable {writers} {binding : Binding crates} {stored : TursoValue} {row : TursoRow}
  {index : Nat} {typeInfo : TursoTypeInfo}

variable (typeInfo) in
/-- What is found of a value that was bound, by the type of its column. -/
theorem foundAs (isStored : (binding.encoding writers).encoded = some stored) :
    binding.FoundAs writers typeInfo
      ((TursoValue.fromTurso stored.intoTurso).withTypeInfo typeInfo) := by
  obtain ⟨type, isEncoded, value⟩ := binding
  cases value with
  | none =>
      cases isStored
      exact ⟨iff_of_true (withTypeInfo_kind _ _) rfl, fun notNone => absurd rfl notNone,
        fun _ => nofun, fun _ => nofun⟩
  | some value =>
      have isWritten := RustType.writes_of_encoded isStored
      obtain ⟨isOwn, notNull, ownType⟩ := RustType.own_type isWritten
      rw [isOwn]
      refine ⟨?_, ?_, ?_, ?_⟩
      · rw [withTypeInfo_kind]
        exact iff_of_false notNull nofun
      · intro
        apply withTypeInfo_typed
        rw [ownType, RustType.writtenAs_typed]
      · rintro _ ⟨⟩
        rw [TursoValue.withTypeInfo, Accepted, sqlType]
        split
        next isUndeclared =>
          refine iff_of_true ?_ (.inl isUndeclared)
          rw [ownType, RustType.compatible_writtenAs]
        next notUndeclared => exact (or_iff_right notUndeclared).symm
      · rintro _ ⟨⟩
        rw [sqlType, RustType.decode_withTypeInfo]
        exact RustType.decode_encode_iff isWritten

/-- What an integer type makes of an integer that was bound with any integer type. -/
theorem decode_number {number : Int} {value : binding.type.Result crates}
    (isValue : binding.value = some value) (isNumber : binding.type.number value = some number)
    (isStored : (binding.encoding writers).encoded = some stored)
    (accepted : typeInfo.isNull = true ∨ typeInfo.hasIntegerAffinity = true)
    {other : RustType} (isInteger : other.isInteger = true) :
    ReadsNumber crates other number
      ((TursoValue.fromTurso stored.intoTurso).withTypeInfo typeInfo) := by
  have writes : ∃ stored, binding.type.encode writers binding.isEncoded value =
      .writes (.integer stored) ∧ stored.toInt = number := RustType.encode_number isNumber
  obtain ⟨written, isWritten, rfl⟩ := writes
  rw [encoding, isValue, Encode.implEncodeForOption, isWritten] at isStored
  cases isStored
  change ReadsNumber crates other written.toInt
    ((TursoValue.integer written).withTypeInfo typeInfo)
  have isTyped : (TursoValue.integer written).typeInfo.isNull = false :=
    RustType.writtenAs_typed .i64
  have isKind : ((TursoValue.integer written).withTypeInfo typeInfo).kind = .integer written :=
    withTypeInfo_kind _ _
  refine ⟨?_, withTypeInfo_typed isTyped typeInfo, ?_, ?_, ?_⟩
  · rw [isKind]
    exact Turso.Value.noConfusion
  · rw [RustType.compatible_of_isInteger isInteger, TursoValue.withTypeInfo]
    split
    next =>
      change (⟨"INTEGER"⟩ : TursoTypeInfo).hasIntegerAffinity = true
      decide
    next notUndeclared => exact accepted.resolve_left notUndeclared
  · intro result
    obtain ⟨number, isNumber⟩ := RustType.number_of_isInteger isInteger result
    refine (RustType.decode_number_iff isNumber).trans ?_
    rw [isKind, isNumber]
    constructor
    · rintro ⟨_, ⟨⟩, same⟩
      rw [same]
    · rintro ⟨same⟩
      exact ⟨written, rfl, rfl⟩
  · rcases RustType.decode_integer isInteger isKind with ⟨result, _, isNumber⟩ | fails
    · exact .inl ⟨result, isNumber⟩
    · exact .inr fails

end Binding

/-! ## Whole queries -/

section Queries

variable {σ : Type} {engine : Engine σ} {sql : String} {persistent : Bool}
  {world after : World σ} {stream : FetchStream} {bindings : List (Binding crates)}
  {arguments : TursoArguments}

/-- The first row that hands the bound values back is returned, and has each of them. -/
theorem fetchOptional_handsBack {columns : List TursoColumn} {rows : Turso.Rows}
    (bound : ({} : TursoArguments).addAll (bindings.map (Binding.encoding writers)) =
      .ok arguments)
    (ran : fetchManySql engine sql persistent (some arguments) world =
      (.returned (.unfolded (.rows rows columns none)), after))
    (handsBack : HandsBack arguments columns rows) :
    fetchOptional engine { sql, persistent, arguments := .ok (some arguments) } world =
        (.returned (some (typedRow columns arguments.intoTursoValues)), after) ∧
      ∀ index binding column, bindings[index]? = some binding →
        columns[index]? = some column →
        ∃ stored, (binding.encoding writers).encoded = some stored ∧
          (typedRow columns arguments.intoTursoValues).tryGetRaw index =
            .ok ((TursoValue.fromTurso stored.intoTurso).withTypeInfo column.typeInfo) := by
  obtain ⟨rest, isFirst, goesOn⟩ := handsBack.first
  have complete : columns.length ≤ arguments.intoTursoValues.length := by
    rw [handsBack.inColumns, TursoArguments.intoTursoValues, List.length_map]
  constructor
  · rw [fetchOptional_of_returned ran, FetchStream.firstRow_of_rows isFirst goesOn complete]
    rfl
  · intro index binding column isBinding isColumn
    obtain ⟨added, areEncodings, areValues⟩ := TursoArguments.addAll_eq_ok_iff.mp bound
    have isEncoding : (bindings.map (Binding.encoding writers))[index]? =
        some (binding.encoding writers) := by
      rw [List.getElem?_map, isBinding]
      rfl
    obtain ⟨stored, isStored, isAdded⟩ := encodings_getElem? areEncodings isEncoding
    refine ⟨stored, isStored, typedRow_tryGetRaw isColumn ?_⟩
    rw [TursoArguments.intoTursoValues, areValues, List.nil_append, List.getElem?_map, isAdded]
    rfl

variable (single : (inspectSql sql).mayContainMultipleStatements = false)
  (bound : ({} : TursoArguments).addAll (bindings.map (Binding.encoding writers)) =
    .ok arguments)
  (ran : fetchManySql engine sql persistent (some arguments) world =
    (.returned stream, after))

include single bound ran

/-- The values of a query reach the engine in order, and where its first row hands them back
each of them is found as it was bound: it is NULL where none was, and any other value is read
as the one that was bound exactly if its column accepts the type and its content reads
back. -/
theorem bound_values_are_read_back :
    encodings (bindings.map (Binding.encoding writers)) = some arguments.values ∧
      ∃ columns rows, Streams engine (some arguments) columns rows stream ∧
      (HandsBack arguments columns rows → ∃ row,
        fetchOptional engine { sql, persistent, arguments := .ok (some arguments) } world =
          (.returned (some row), after) ∧
        ∀ index binding column, bindings[index]? = some binding →
          columns[index]? = some column → ∃ value,
          row.tryGetRaw index = .ok value ∧ binding.FoundAs writers column.typeInfo value ∧
          ∀ (reader : RowReader) bound, binding.value = some bound →
            (reader.tryGet binding.sqlType row index = .ok bound ↔
              binding.Accepted column.typeInfo ∧ binding.type.ReadsBack writers bound)) := by
  obtain ⟨added, areEncodings, areValues⟩ := TursoArguments.addAll_eq_ok_iff.mp bound
  obtain ⟨columns, rows, streams⟩ := streams_of_returned single ran
  rw [areValues]
  refine ⟨areEncodings, columns, rows, streams, ?_⟩
  intro handsBack
  obtain ⟨_, _, _, _, _, rfl⟩ := streams
  obtain ⟨isFetched, stored⟩ := fetchOptional_handsBack writers bound ran handsBack
  refine ⟨_, isFetched, ?_⟩
  intro index binding column isBinding isColumn
  obtain ⟨value, isStored, raw⟩ := stored index binding column isBinding isColumn
  have found := Binding.foundAs column.typeInfo isStored
  refine ⟨_, raw, found, ?_⟩
  intro reader bound isBound
  have notNone : binding.value ≠ none := Option.ne_none_iff_exists'.mpr ⟨bound, isBound⟩
  rw [reader.tryGet_iff raw (notNone ∘ found.isNull.mp) (found.typed notNone),
    found.compatible bound isBound, found.decodes bound isBound]

/-- An integer that is bound with one type and read with another is never wrapped around: it
is read as the same number, or reported to be out of range where the type has no such
number. -/
theorem bound_integers_are_never_wrapped :
    ∃ columns rows, Streams engine (some arguments) columns rows stream ∧
      (HandsBack arguments columns rows → ∃ row,
        fetchOptional engine { sql, persistent, arguments := .ok (some arguments) } world =
          (.returned (some row), after) ∧
        ∀ index binding bound number column other,
          bindings[index]? = some binding → binding.value = some bound →
          binding.type.number bound = some number → columns[index]? = some column →
          (column.typeInfo.isNull = true ∨ column.typeInfo.hasIntegerAffinity = true) →
          RustType.isInteger other = true → ∃ value,
          row.tryGetRaw index = .ok value ∧ ReadsNumber crates other number value ∧
          ∀ (reader : RowReader) (result : other.Result crates),
            reader.tryGet (other.sqlType crates) row index = .ok result ↔
              other.number result = some number) := by
  obtain ⟨columns, rows, streams⟩ := streams_of_returned single ran
  refine ⟨columns, rows, streams, ?_⟩
  intro handsBack
  obtain ⟨_, _, _, _, _, rfl⟩ := streams
  obtain ⟨isFetched, stored⟩ := fetchOptional_handsBack writers bound ran handsBack
  refine ⟨_, isFetched, ?_⟩
  intro index binding bound number column other isBinding isBound isNumber isColumn accepted
    isInteger
  obtain ⟨_, isStored, raw⟩ := stored index binding column isBinding isColumn
  have readsNumber := Binding.decode_number isBound isNumber isStored accepted isInteger
  refine ⟨_, raw, readsNumber, ?_⟩
  intro reader result
  rw [reader.tryGet_iff raw readsNumber.notNull readsNumber.typed, readsNumber.decodes,
    and_iff_right readsNumber.compatible]

end Queries

/-- Libraries that no UUID and no JSON is written with. -/
def noWriters : ContentWriters noContent where
  asBytes _ := []
  hyphenated _ := ""
  simple _ := ""
  encodeToString _ := .error "key must be a string"

/-- An integer, a NULL and a truth value. -/
def threeBindings : List (Binding noContent) :=
  [⟨.i32, RustType.noConfusion, some (-7)⟩, ⟨.string, RustType.noConfusion, none⟩,
    ⟨.bool, RustType.noConfusion, some true⟩]

/-- An engine that hands them back, the last one in a column of texts. -/
def echoingEngine : Engine Unit :=
  answeringEngine [⟨"a", none⟩, ⟨"b", some "TEXT"⟩, ⟨"c", some "TEXT"⟩]
    { rows := [[.integer (-7), .null, .integer 1]] }

theorem three_bindings_are_read_back :
    ∃ row first second third, (fetchOptional echoingEngine
        { sql := "SELECT ?1, ?2, ?3", arguments := .ok (some
          ⟨[.integer (-7), .null, .integer 1]⟩) } freshWorld).1 = .returned (some row) ∧
      row.tryGetRaw 0 = .ok first ∧ SqlType.i32.decode first = .ok (-7) ∧
      RowReader.plain.tryGet SqlType.i32 row 0 = .ok (-7) ∧
      row.tryGetRaw 1 = .ok second ∧ second.kind = .null ∧
      row.tryGetRaw 2 = .ok third ∧ SqlType.bool.compatible third.typeInfo = false := by
  have ran : fetchManySql echoingEngine "SELECT ?1, ?2, ?3" true
      (some ⟨[.integer (-7), .null, .integer 1]⟩) freshWorld = (.returned _, _) := rfl
  have bound : ({} : TursoArguments).addAll (threeBindings.map (Binding.encoding noWriters)) =
      .ok ⟨[.integer (-7), .null, .integer 1]⟩ := rfl
  obtain ⟨_, columns, rows, ⟨_, _, _, _, _, isStream⟩, handedBack⟩ :=
    bound_values_are_read_back noWriters (by decide) bound ran
  cases isStream
  obtain ⟨row, isFetched, isRead⟩ := handedBack ⟨⟨[], rfl, .inr rfl⟩, rfl⟩
  obtain ⟨first, isFirst, foundFirst, firstRead⟩ := isRead 0 _ _ rfl rfl
  obtain ⟨second, isSecond, foundSecond, _⟩ := isRead 1 _ _ rfl rfl
  obtain ⟨third, isThird, foundThird, _⟩ := isRead 2 _ _ rfl rfl
  refine ⟨row, first, second, third, congrArg Prod.fst isFetched, isFirst,
    (foundFirst.decodes (-7) rfl).mpr trivial,
    (firstRead RowReader.plain (-7) rfl).mpr ⟨.inl rfl, trivial⟩, isSecond,
    foundSecond.isNull.mpr rfl, isThird, Bool.eq_false_iff.mpr fun compatible => ?_⟩
  rcases (foundThird.compatible true rfl).mp compatible with isNull | isBool
  · exact absurd isNull (by decide)
  · exact absurd isBool (by decide)

/-- A number of 16 bits is read with another type that has it, and not with one of 8 bits. -/
theorem bound_number_is_out_of_range :
    ∃ row value, (fetchOptional
        (answeringEngine [⟨"a", some "INT"⟩] { rows := [[.integer 300]] })
        { sql := "SELECT ?1", arguments := .ok (some ⟨[.integer 300]⟩) } freshWorld).1 =
          .returned (some row) ∧
      row.tryGetRaw 0 = .ok value ∧ SqlType.u64.decode value = .ok 300 ∧
      RowReader.plain.tryGet SqlType.u64 row 0 = .ok 300 ∧
      SqlType.i8.decode value = .error .tryFromInt := by
  have ran : fetchManySql (answeringEngine [⟨"a", some "INT"⟩] { rows := [[.integer 300]] })
      "SELECT ?1" true (some ⟨[.integer 300]⟩) freshWorld = (.returned _, _) := rfl
  have bound : ({} : TursoArguments).addAll (List.map (Binding.encoding noWriters)
      [⟨.i16, RustType.noConfusion, some (300 : Int16)⟩]) = .ok ⟨[.integer 300]⟩ := rfl
  obtain ⟨columns, rows, ⟨_, _, _, _, _, isStream⟩, handedBack⟩ :=
    bound_integers_are_never_wrapped noWriters (by decide) bound ran
  cases isStream
  obtain ⟨row, isFetched, isRead⟩ := handedBack ⟨⟨[], rfl, .inr rfl⟩, rfl⟩
  obtain ⟨value, isValue, wide, isWide⟩ :=
    isRead 0 _ 300 300 _ .u64 rfl rfl rfl rfl (.inr (by decide)) rfl
  obtain ⟨other, isOther, narrow, _⟩ :=
    isRead 0 _ 300 300 _ .i8 rfl rfl rfl rfl (.inr (by decide)) rfl
  cases isValue.symm.trans isOther
  refine ⟨row, value, congrArg Prod.fst isFetched, isValue, (wide.decodes 300).mpr rfl,
    (isWide RowReader.plain 300).mpr rfl, narrow.outOfRange.resolve_left ?_⟩
  rintro ⟨result, isNumber⟩
  have inRange := numbers_i8.inRange result
  have same : result.toInt = 300 := Option.some.inj isNumber
  omega

end SqlxTurso
