import Mathlib.Algebra.Group.Int.Defs
import SqlxTurso.Connection.Fetch
import SqlxTurso.Library.Collect
import SqlxTurso.Types.Decode

/-!
# `Any` rows

A row fetched through the `Any` backend holds each value as one of six kinds.  The kind
is read off the type that the value carries, which is the declared type of its column
wherever that has one.
-/

namespace SqlxTurso

/-- What a value of the `Any` backend is told to be, as far as the adapter tells. -/
inductive AnyTypeInfoKind where
  | null
  | bool
  | bigInt
  | double
  | text
  | blob
  deriving DecidableEq, Repr

def anyTypeInfoKind (typeInfo : TursoTypeInfo) : AnyTypeInfoKind :=
  if typeInfo.isNull then .null
  else if typeInfo.hasBoolAffinity then .bool
  else if typeInfo.hasIntegerAffinity then .bigInt
  else if typeInfo.hasRealAffinity then .double
  else if typeInfo.hasBlobAffinity then .blob
  else .text

/-- A value of the `Any` backend.  A double is its bit pattern. -/
inductive AnyValueKind where
  | null (kind : AnyTypeInfoKind)
  | bool (value : Bool)
  | bigInt (value : Int64)
  | double (bits : UInt64)
  | text (value : String)
  | blob (value : List UInt8)
  deriving DecidableEq, Repr

structure AnyColumn where
  ordinal : Nat
  name : String
  typeInfo : AnyTypeInfoKind
  deriving DecidableEq, Repr

def AnyColumn.tryFrom (column : TursoColumn) : AnyColumn where
  ordinal := column.ordinal
  name := column.name
  typeInfo := anyTypeInfoKind column.typeInfo

structure AnyRow where
  columns : List AnyColumn
  values : List AnyValueKind
  deriving DecidableEq, Repr

/-- Decode a value with the type that the kind of its own type stands for. -/
def decodeAny (value : TursoValueRef) : Except DecodeError AnyValueKind :=
  if value.kind = .null then .ok (.null (anyTypeInfoKind value.typeInfo))
  else
    match anyTypeInfoKind value.typeInfo with
    | .null => .ok (.null .null)
    | .bool => .bool <$> SqlType.bool.decode value
    | .bigInt => .bigInt <$> SqlType.i64.decode value
    | .double => .double <$> SqlType.f64.decode value
    | .text => .text <$> SqlType.string.decode value
    | .blob => .blob <$> SqlType.bytes.decode value

/-- SQLx's conversion of a row, `AnyRow::map_from`. -/
structure AnyCrate where
  Error : Type
  mapFrom : TursoRow → Except Error AnyRow

/-- A row with one value for each column, and columns that know their places. -/
def TursoRow.InOrder (row : TursoRow) : Prop :=
  row.columns.map (·.ordinal) = List.range row.values.length

/-- The conversion converts each column, and decodes each value by itself. -/
def AnyCrate.DecodesEach (crate : AnyCrate) : Prop :=
  ∀ row : TursoRow, row.InOrder → ∀ anyRow,
    crate.mapFrom row = .ok anyRow ↔
      anyRow.columns = row.columns.map AnyColumn.tryFrom ∧
        List.Forall₂ (fun value anyValue => decodeAny value = .ok anyValue) row.values
          anyRow.values

/-- `TryFrom<TursoRow>` for `Any` rows. -/
def AnyRow.tryFrom (crate : AnyCrate) (row : TursoRow) : Except crate.Error AnyRow :=
  crate.mapFrom row

/-! ## Content -/

/-- An integer that a 64-bit float holds exactly. -/
def ExactAsFloat (number : Int64) : Prop :=
  ∃ (mantissa : Int) (exponent : Nat),
    number.toInt = mantissa * 2 ^ exponent ∧ -2 ^ 53 ≤ mantissa ∧ mantissa ≤ 2 ^ 53

/-- An `Any` value has the content of an engine's value. -/
def SameContent : Turso.Value → AnyValueKind → Prop
  | .null, .null _ => True
  | .integer number, .bigInt other => other = number
  | .integer number, .bool other => number = if other then 1 else 0
  | .integer number, .double bits => bits = number.toFloat.toBits ∧ ExactAsFloat number
  | .real bits, .double other => other = bits
  | .text text, .text other => other = text
  | .blob bytes, .blob other => other = bytes
  | _, _ => False

/-- An `Any` row has the content of a native row. -/
def SameContents (native : TursoRow) (anyRow : AnyRow) : Prop :=
  List.Forall₂ (fun value anyValue => SameContent value.kind anyValue) native.values
    anyRow.values

/-- A value that the kind of a declared type can hold. -/
def TursoTypeInfo.Fits (typeInfo : TursoTypeInfo) : Turso.Value → Prop
  | .null => True
  | .integer number =>
      if typeInfo.hasBoolAffinity then number = 0 ∨ number = 1
      else
        typeInfo.hasIntegerAffinity = true ∨
          (typeInfo.hasRealAffinity = true ∧ ExactAsFloat number)
  | .real _ =>
      typeInfo.hasRealAffinity = true ∧ typeInfo.hasBoolAffinity = false ∧
        typeInfo.hasIntegerAffinity = false
  | .text _ =>
      typeInfo.hasBoolAffinity = false ∧ typeInfo.hasIntegerAffinity = false ∧
        typeInfo.hasRealAffinity = false ∧ typeInfo.hasBlobAffinity = false
  | .blob _ => typeInfo.hasBlobAffinity = true

/-- A value fits a column that declares no type, or whose type fits it. -/
def FitsDeclared (declType : Option String) (value : Turso.Value) : Prop :=
  ∀ name, declType = some name → name = TursoTypeInfo.null.name ∨
    (⟨name⟩ : TursoTypeInfo).Fits value

/-! ## Single values -/

section Values

variable {typeInfo : TursoTypeInfo}

/-- Nothing else is told about a type named like a blob. -/
theorem TursoTypeInfo.only_blob (blob : typeInfo.hasBlobAffinity = true) :
    typeInfo.hasBoolAffinity = false ∧ typeInfo.hasIntegerAffinity = false ∧
      typeInfo.hasRealAffinity = false := by
  have isNamed := beq_iff_eq.mp blob
  refine ⟨?_, ?_, ?_⟩
  · simp only [hasBoolAffinity, TursoTypeInfo.isNamed, isNamed]
    decide
  · simp only [hasIntegerAffinity_eq, contains_of_isNamed _ blob]
    decide
  · simp only [hasRealAffinity, contains_of_isNamed _ blob]
    decide

/-- The kind of a declared type, by the first affinity that its name has. -/
theorem anyTypeInfoKind_cases (notNull : typeInfo.isNull = false) :
    (anyTypeInfoKind typeInfo = .blob ∧ typeInfo.hasBlobAffinity = true) ∨
      (typeInfo.hasBlobAffinity = false ∧
        ((anyTypeInfoKind typeInfo = .bool ∧ typeInfo.hasBoolAffinity = true) ∨
          (typeInfo.hasBoolAffinity = false ∧
            ((anyTypeInfoKind typeInfo = .bigInt ∧ typeInfo.hasIntegerAffinity = true) ∨
              (typeInfo.hasIntegerAffinity = false ∧
                ((anyTypeInfoKind typeInfo = .double ∧ typeInfo.hasRealAffinity = true) ∨
                  (typeInfo.hasRealAffinity = false ∧
                    anyTypeInfoKind typeInfo = .text))))))) := by
  simp only [anyTypeInfoKind, notNull, Bool.false_eq_true, ↓reduceIte]
  cases blob : typeInfo.hasBlobAffinity with
  | true => simp [TursoTypeInfo.only_blob blob]
  | false => split_ifs <;> simp_all

/-- The truth value of an integer is the same content only for zero and one. -/
theorem sameContent_bool (number : Int64) :
    SameContent (.integer number) (.bool (number != 0)) ↔ number = 0 ∨ number = 1 := by
  by_cases isZero : number = 0
  · simp [SameContent, isZero]
  · simp [SameContent, isZero]

theorem map_eq_ok_iff {α : Type} {wrap : α → AnyValueKind} {result : Except DecodeError α}
    {anyValue : AnyValueKind} :
    wrap <$> result = .ok anyValue ↔ ∃ value, result = .ok value ∧ wrap value = anyValue := by
  have inTwoSteps : wrap <$> result = result >>= fun value => .ok (wrap value) := by
    cases result <;> rfl
  rw [inTwoSteps, bind_eq_ok_iff]
  simp only [Except.ok.injEq]

/-- A value with a type is decoded to its own content exactly when it fits the type. -/
theorem decodeAny_sameContent_iff (notNull : typeInfo.isNull = false) (kind : Turso.Value) :
    (∃ anyValue, decodeAny ⟨typeInfo, kind⟩ = .ok anyValue ∧ SameContent kind anyValue) ↔
      typeInfo.Fits kind := by
  by_cases isNull : kind = .null
  · rw [isNull]
    exact ⟨fun _ => trivial, fun _ => ⟨_, rfl, trivial⟩⟩
  rcases anyTypeInfoKind_cases notNull with ⟨isKind, blob⟩ | ⟨noBlob, ⟨isKind, bool⟩ |
    ⟨noBool, ⟨isKind, integer⟩ | ⟨noInteger, ⟨isKind, real⟩ | ⟨noReal, isKind⟩⟩⟩⟩
  · have others := TursoTypeInfo.only_blob blob
    simp only [decodeAny, isNull, isKind, ↓reduceIte, map_eq_ok_iff, bytes_eq_ok_iff]
    cases kind <;> simp [TursoTypeInfo.Fits, blob, others, SameContent] at isNull ⊢
  · simp only [decodeAny, isNull, isKind, ↓reduceIte, map_eq_ok_iff, bool_eq_ok_iff]
    cases kind <;> simp [TursoTypeInfo.Fits, noBlob, bool, sameContent_bool] at isNull ⊢
  · simp only [decodeAny, isNull, isKind, ↓reduceIte, map_eq_ok_iff, i64_eq_ok_iff]
    cases kind <;> simp [TursoTypeInfo.Fits, noBlob, noBool, integer, SameContent] at isNull ⊢
  · simp only [decodeAny, isNull, isKind, ↓reduceIte, map_eq_ok_iff, f64_eq_ok_iff]
    cases kind <;>
      simp [TursoTypeInfo.Fits, noBlob, noBool, noInteger, real, SameContent] at isNull ⊢
  · simp only [decodeAny, isNull, isKind, ↓reduceIte, map_eq_ok_iff, string_eq_ok_iff]
    cases kind <;>
      simp [TursoTypeInfo.Fits, noBool, noInteger, noReal, noBlob, SameContent] at isNull ⊢

/-- A value fits the type that it has before it is given a declared one. -/
theorem own_type_fits {kind : Turso.Value} (notNull : kind ≠ .null) :
    (TursoValue.fromTurso kind).typeInfo.isNull = false ∧
      (TursoValue.fromTurso kind).typeInfo.Fits kind := by
  cases kind with
  | null => exact absurd rfl notNull
  | integer number =>
      have ownType : (TursoValue.fromTurso (.integer number)).typeInfo = ⟨"INTEGER"⟩ := rfl
      rw [ownType, TursoTypeInfo.Fits, if_neg (by decide)]
      exact ⟨by decide, .inl (by decide)⟩
  | real bits =>
      simp only [TursoValue.fromTurso, TursoValue.real, TursoTypeInfo.Fits]
      decide
  | text text =>
      simp only [TursoValue.fromTurso, TursoValue.text, TursoTypeInfo.Fits]
      decide
  | blob bytes =>
      simp only [TursoValue.fromTurso, TursoValue.blob, TursoTypeInfo.Fits]
      decide

theorem fromTurso_eq (kind : Turso.Value) :
    TursoValue.fromTurso kind = ⟨(TursoValue.fromTurso kind).typeInfo, kind⟩ := by
  cases kind <;> rfl

theorem declared_kind (kind : Turso.Value) (typeInfo : TursoTypeInfo) :
    ((TursoValue.fromTurso kind).withTypeInfo typeInfo).kind = kind := by
  rw [TursoValue.withTypeInfo, fromTurso_eq]
  split <;> rfl

/-- The value in a column that declares a type, or none. -/
theorem decodeAny_fits_iff (declType : Option String) (kind : Turso.Value) :
    (∃ anyValue,
        decodeAny ((TursoValue.fromTurso kind).withTypeInfo
          ((declType.map TursoTypeInfo.mk).getD .null)) = .ok anyValue ∧
        SameContent kind anyValue) ↔
      FitsDeclared declType kind := by
  by_cases isNull : kind = .null
  · subst isNull
    constructor
    · intro _ name _
      exact .inr trivial
    · intro _
      refine ⟨_, if_pos (declared_kind _ _), trivial⟩
  obtain ⟨ownNotNull, ownFits⟩ := own_type_fits isNull
  have keepsOwn : ∀ typeInfo : TursoTypeInfo, typeInfo.isNull = true →
      ∃ anyValue, decodeAny ((TursoValue.fromTurso kind).withTypeInfo typeInfo) = .ok anyValue ∧
        SameContent kind anyValue := by
    intro typeInfo typeNull
    rw [TursoValue.withTypeInfo, if_pos typeNull, fromTurso_eq]
    exact (decodeAny_sameContent_iff ownNotNull kind).mpr ownFits
  cases declType with
  | none => exact iff_of_true (keepsOwn _ rfl) fun name isName => nomatch isName
  | some name =>
      cases typeNull : TursoTypeInfo.isNull ⟨name⟩ with
      | true =>
          refine iff_of_true (keepsOwn _ typeNull) ?_
          rintro _ ⟨⟩
          exact .inl (of_decide_eq_true typeNull)
      | false =>
          rw [Option.map_some, Option.getD_some, TursoValue.withTypeInfo, typeNull,
            if_neg Bool.false_ne_true, fromTurso_eq, decodeAny_sameContent_iff typeNull]
          constructor
          · rintro fits _ ⟨⟩
            exact .inr fits
          · intro fits
            exact (fits name rfl).resolve_left (of_decide_eq_false typeNull)

end Values

/-! ## Fetched rows -/

/-- What a column of the engine has to do with a value of the row that is fetched. -/
def HoldsValue (column : Turso.Column) (value : TursoValue) : Prop :=
  ∃ kind, value = (TursoValue.fromTurso kind).withTypeInfo
    ((column.declType.map TursoTypeInfo.mk).getD .null)

theorem holdsValue_of_rowValues {columns : List Turso.Column} {row : Turso.Row}
    {values : List TursoValue}
    (valued : FetchState.rowValues (tursoColumns columns) row = .ok values) :
    List.Forall₂ HoldsValue columns values := by
  rw [FetchState.rowValues, Library.mapM_eq_ok_iff, tursoColumns, List.mapIdx_mapIdx,
    List.mapIdx_eq_zipIdx_map, List.forall₂_map_left_iff] at valued
  rw [← List.zipIdx_map_fst 0 columns, List.forall₂_map_left_iff]
  refine valued.imp fun place value isValue => ?_
  dsimp only [Function.comp_apply] at isValue
  split at isValue
  next kind _ =>
    cases isValue
    exact ⟨kind, rfl⟩
  next => cases isValue

theorem row_of_next {cursor : Turso.Rows} {columns : List TursoColumn}
    {pendingRow : Option Turso.Row} {native : TursoRow} {rest : FetchState}
    (fetched : (FetchState.rows cursor columns pendingRow).next =
      .ok (some (.row native, rest))) :
    native.columns = columns ∧ ∃ row, FetchState.rowValues columns row = .ok native.values := by
  rw [FetchState.next] at fetched
  split at fetched
  next => cases fetched
  next => cases fetched
  next row cursor _ =>
    cases valued : FetchState.rowValues columns row with
    | error error =>
        rw [valued] at fetched
        cases fetched
    | ok values =>
        rw [valued] at fetched
        cases ahead : cursor.next with
        | mk pending after =>
            cases pending with
            | error error =>
                simp only [ahead] at fetched
                cases fetched
            | ok pending =>
                simp only [ahead] at fetched
                cases fetched
                exact ⟨rfl, row, valued⟩

theorem inOrder_of_tursoColumns {columns : List Turso.Column} {values : List TursoValue}
    (sameLength : values.length = columns.length) :
    TursoRow.InOrder ⟨tursoColumns columns, values⟩ := by
  rw [TursoRow.InOrder, tursoColumns, List.mapIdx_eq_zipIdx_map, List.map_map, sameLength,
    List.range_eq_range', ← List.zipIdx_map_snd]
  rfl

/-- A row is converted to an `Any` row of the same content exactly when each of its values
fits the declared type of its column. -/
theorem any_row_agrees_iff (crate : AnyCrate) (decodes : crate.DecodesEach)
    {cursor : Turso.Rows} {columns : List Turso.Column} {pendingRow : Option Turso.Row}
    {native : TursoRow} {rest : FetchState}
    (fetched : (FetchState.rows cursor (tursoColumns columns) pendingRow).next =
      .ok (some (.row native, rest))) :
    (∃ anyRow, AnyRow.tryFrom crate native = .ok anyRow ∧ SameContents native anyRow) ↔
      List.Forall₂ (fun column value => FitsDeclared column.declType value.kind) columns
        native.values := by
  rcases native with ⟨nativeColumns, values⟩
  obtain ⟨isColumns, row, valued⟩ := row_of_next fetched
  cases isColumns
  have holdsValues := holdsValue_of_rowValues valued
  have inOrder := inOrder_of_tursoColumns holdsValues.length_eq.symm
  have fitsEach : ∀ (column : Turso.Column) value, HoldsValue column value →
      ((∃ anyValue, decodeAny value = .ok anyValue ∧ SameContent value.kind anyValue) ↔
        FitsDeclared column.declType value.kind) := by
    rintro column _ ⟨kind, rfl⟩
    rw [declared_kind]
    exact decodeAny_fits_iff column.declType kind
  rw [← Library.forall_mem_iff_forall₂ fitsEach holdsValues, ← Library.exists_forall₂_iff]
  constructor
  · rintro ⟨anyRow, converted, sameContent⟩
    exact ⟨anyRow.values, Library.forall₂_and_iff.mpr
      ⟨((decodes _ inOrder anyRow).mp converted).2, sameContent⟩⟩
  · rintro ⟨anyValues, related⟩
    obtain ⟨decoded, sameContent⟩ := Library.forall₂_and_iff.mp related
    exact ⟨⟨_, anyValues⟩, (decodes _ inOrder _).mpr ⟨rfl, decoded⟩, sameContent⟩

/-- Decode the values one after the other. -/
def mapInTurn (row : TursoRow) : Except DecodeError AnyRow := do
  let values ← row.values.mapM decodeAny
  .ok ⟨row.columns.map AnyColumn.tryFrom, values⟩

def inTurn : AnyCrate := ⟨DecodeError, mapInTurn⟩

theorem inTurn_decodesEach : inTurn.DecodesEach := by
  rintro row _ ⟨columns, values⟩
  rw [← Library.mapM_eq_ok_iff]
  refine Iff.trans (bind_eq_ok_iff : mapInTurn row = _ ↔ _) ?_
  constructor
  · rintro ⟨_, decoded, isRow⟩
    cases isRow
    exact ⟨rfl, decoded⟩
  · rintro ⟨rfl, decoded⟩
    exact ⟨values, decoded, rfl⟩

/-- A row of a table with a column of integers and one of texts. -/
def namedNumber : TursoRow where
  columns := tursoColumns [⟨"id", some "BIGINT"⟩, ⟨"name", some "VARCHAR(20)"⟩]
  values := [⟨⟨"BIGINT"⟩, .integer 7⟩, ⟨⟨"VARCHAR(20)"⟩, .text "x"⟩]

theorem named_number_is_converted :
    ∃ anyRow, AnyRow.tryFrom inTurn namedNumber = .ok anyRow ∧
      SameContents namedNumber anyRow := by
  have fetched : (FetchState.rows ⟨[[.integer 7, .text "x"]], none, 0⟩
      (tursoColumns [⟨"id", some "BIGINT"⟩, ⟨"name", some "VARCHAR(20)"⟩]) none).next =
        .ok (some (.row namedNumber, .queryResult ⟨0⟩)) := by
    decide +kernel
  refine (any_row_agrees_iff inTurn inTurn_decodesEach fetched).mpr (.cons ?_ (.cons ?_ .nil))
  · rintro _ ⟨⟩
    refine .inr ?_
    rw [TursoTypeInfo.Fits, if_neg (by decide)]
    exact .inl (by decide)
  · rintro _ ⟨⟩
    exact .inr ⟨by decide, by decide, by decide, by decide⟩

/-- The row of a table with a price. -/
def price : TursoRow where
  columns := tursoColumns [⟨"price", some "DECIMAL"⟩]
  values := [⟨⟨"DECIMAL"⟩, .integer 5⟩]

/-- A decimal column may hold an integer, which the adapter then decodes as a text. -/
theorem decimal_is_not_converted :
    (declaredAffinity (some "DECIMAL")).admits .integer = true ∧ inTurn.DecodesEach ∧
      (FetchState.rows ⟨[[.integer 5]], none, 0⟩
        (tursoColumns [⟨"price", some "DECIMAL"⟩]) none).next =
          .ok (some (.row price, .queryResult ⟨0⟩)) ∧
      ¬∃ anyRow, AnyRow.tryFrom inTurn price = .ok anyRow := by
  refine ⟨by decide, inTurn_decodesEach, by decide +kernel, ?_⟩
  rintro ⟨anyRow, converted⟩
  cases converted

end SqlxTurso
