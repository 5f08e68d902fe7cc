import SqlxTurso.Connection.Described
import SqlxTurso.Connection.ReadBack
import SqlxTurso.Library.Converted
import SqlxTurso.Types.AnyRow

/-!
# Fetching through the `Any` backend

The `Any` backend hands a query to the connection and converts what comes back, item by item.
The statement runs as it does natively.  What is fetched has the same contents exactly where
every value fits the type that its column declares.
-/

namespace SqlxTurso

open Library Async Sql

/-- A value that is bound through the `Any` backend.  A double is its bit pattern. -/
inductive AnyArgument where
  | null
  | bool (value : Bool)
  | smallInt (value : Int16)
  | integer (value : Int32)
  | bigInt (value : Int64)
  | real (value : Float32)
  | double (bits : UInt64)
  | text (value : String)
  | blob (value : List UInt8)

def AnyArgument.encoding : AnyArgument → Encoding
  | null => Encode.implEncodeForOption Encode.i32 none
  | bool value => Encode.bool value
  | smallInt value => Encode.i16 value
  | integer value => Encode.i32 value
  | bigInt value => Encode.i64 value
  | real value => Encode.f32 value
  | double bits => Encode.f64 bits
  | text value => Encode.string value
  | blob value => Encode.bytes value

/-- SQLx's part of the backend: the conversion of a row, whose errors are errors of SQLx, and
`AnyArguments::convert_into`. -/
structure AnyLibrary extends AnyCrate where
  report : Error → SqlxError
  convertInto : List AnyArgument → Except String TursoArguments

structure AnyQueryResult where
  rowsAffected : Nat := 0
  lastInsertId : Option Int64 := none
  deriving DecidableEq, Repr

namespace AnyQueryResult

def fromTurso (result : TursoQueryResult) : AnyQueryResult where
  rowsAffected := result.rowsAffected
  lastInsertId := none

end AnyQueryResult

/-- Either a query result or a row. -/
inductive AnyItem where
  | queryResult (result : AnyQueryResult)
  | row (row : AnyRow)
  deriving DecidableEq, Repr

/-- The stream of a fetch, of which each item is converted when it is polled. -/
structure AnyStream where
  native : FetchStream
  deriving DecidableEq, Repr

namespace AnyConnectionBackend

variable {σ κ : Type} (engine : Engine σ) (library : AnyLibrary) (cursor : Turso.Cursor κ)

def tryFrom (row : TursoRow) : Except SqlxError AnyRow :=
  (AnyRow.tryFrom library.toAnyCrate row).mapError library.report

def convertItem : FetchItem → Except SqlxError AnyItem
  | .queryResult result => .ok (.queryResult (.fromTurso result))
  | .row row => (tryFrom library row).map .row

def convertArguments : Option (List AnyArgument) → Except SqlxError (Option TursoArguments)
  | none => .ok none
  | some values =>
      match library.convertInto values with
      | .ok arguments => .ok (some arguments)
      | .error error => .error (.encode error)

def fetchMany (sql : String) (persistent : Bool) (arguments : Option (List AnyArgument)) :
    Program σ AnyStream := do
  let arguments ← liftExcept (convertArguments library arguments)
  let native ← fetchManySql engine sql persistent arguments
  pure ⟨native⟩

/-- The first row of the native stream is the only one that is converted. -/
def fetchOptional (sql : String) (persistent : Bool) (arguments : Option (List AnyArgument)) :
    Program σ (Option AnyRow) := do
  let arguments ← liftExcept (convertArguments library arguments)
  let stream ← fetchManySql engine sql persistent arguments
  let row ← liftExcept stream.firstRow
  match row with
  | some row => liftExcept ((tryFrom library row).map some)
  | none => pure none

/-- A number of polls of a stream over a cursor. -/
def polls (count : Nat) (stream : RowStream κ) :
    List (Option (Except SqlxError AnyItem)) ×
      List (Except Turso.Error (Option Turso.Row)) :=
  Unfolding.pollsConverted (RowStream.next cursor) (convertItem library) count (some stream)

/-- Any number of polls give the first of these items, and nothing after. -/
def Gives (stream : RowStream κ) (items : List (Except SqlxError AnyItem)) : Prop :=
  ∀ count, (polls library cursor count stream).1 = Unfolding.firsts count items

end AnyConnectionBackend

/-! ## Rows -/

/-- An `Any` row has the columns and the contents of a native row. -/
structure AnyRow.Follows (native : TursoRow) (anyRow : AnyRow) : Prop where
  columns : anyRow.columns = native.columns.map AnyColumn.tryFrom
  contents : SameContents native anyRow

/-- Each value of a row fits what its column declares. -/
def FitsColumns (columns : List TursoColumn) (row : Turso.Row) : Prop :=
  ∀ entry ∈ columns.zip row,
    entry.1.typeInfo.isNull = true ∨ entry.1.typeInfo.Fits entry.2

section Rows

variable {columns : List TursoColumn} {row : Turso.Row} {library : AnyLibrary}

theorem typedValues_eq : typedValues columns row = (columns.zip row).map fun entry =>
    (TursoValue.fromTurso entry.2).withTypeInfo entry.1.typeInfo :=
  List.map_uncurry_zip_eq_zipWith.symm

/-- A value in a column is decoded to its content exactly when it fits. -/
theorem decodeAny_withTypeInfo_iff (typeInfo : TursoTypeInfo) (kind : Turso.Value) :
    (∃ anyValue, decodeAny ((TursoValue.fromTurso kind).withTypeInfo typeInfo) = .ok anyValue ∧
        SameContent kind anyValue) ↔
      typeInfo.isNull = true ∨ typeInfo.Fits kind := by
  refine (decodeAny_fits_iff (some typeInfo.name) kind).trans ?_
  constructor
  · intro fits
    exact (fits typeInfo.name rfl).imp_left decide_eq_true
  · rintro fits _ ⟨⟩
    exact fits.imp_left of_decide_eq_true

/-- A row of the engine is converted by converting its columns and decoding its values. -/
theorem tryFrom_eq_ok_iff (decodes : library.DecodesEach)
    (numbered : Numbered columns) (complete : columns.length ≤ row.length) {anyRow : AnyRow} :
    AnyConnectionBackend.tryFrom library (typedRow columns row) = .ok anyRow ↔
      anyRow.columns = columns.map AnyColumn.tryFrom ∧
        List.Forall₂ (fun value anyValue => decodeAny value = .ok anyValue)
          (typedValues columns row) anyRow.values := by
  have inOrder : (typedRow columns row).InOrder := by
    change columns.map _ = List.range (typedValues columns row).length
    rw [typedValues_eq, List.length_map, List.length_zip, Nat.min_eq_left complete]
    exact numbered
  refine Iff.trans ?_ (decodes _ inOrder anyRow)
  rw [AnyConnectionBackend.tryFrom, AnyRow.tryFrom]
  cases library.mapFrom (typedRow columns row) with
  | error error => simp only [Except.mapError, reduceCtorEq]
  | ok found => simp only [Except.mapError, Except.ok.injEq]

/-- A row of the engine is converted with its contents exactly when each value fits. -/
theorem tryFrom_contents_iff (decodes : library.DecodesEach)
    (numbered : Numbered columns) (complete : columns.length ≤ row.length) :
    (∃ anyRow, AnyConnectionBackend.tryFrom library (typedRow columns row) =
        .ok anyRow ∧ SameContents (typedRow columns row) anyRow) ↔
      FitsColumns columns row := by
  have fitsEach : FitsColumns columns row ↔
      ∀ value ∈ typedValues columns row,
        ∃ anyValue, decodeAny value = .ok anyValue ∧ SameContent value.kind anyValue := by
    rw [FitsColumns, typedValues_eq, List.forall_mem_map]
    refine forall₂_congr fun entry _ => ?_
    rw [declared_kind]
    exact (decodeAny_withTypeInfo_iff entry.1.typeInfo entry.2).symm
  simp only [fitsEach, ← exists_forall₂_iff, tryFrom_eq_ok_iff decodes numbered complete]
  constructor
  · rintro ⟨anyRow, ⟨_, decoded⟩, sameContents⟩
    exact ⟨anyRow.values, forall₂_and_iff.mpr ⟨decoded, sameContents⟩⟩
  · rintro ⟨anyValues, related⟩
    obtain ⟨decoded, sameContents⟩ := forall₂_and_iff.mp related
    exact ⟨⟨_, anyValues⟩, ⟨rfl, decoded⟩, sameContents⟩

/-- The columns of a row that is converted are its own. -/
theorem tryFrom_follows_iff (decodes : library.DecodesEach)
    (numbered : Numbered columns) (complete : columns.length ≤ row.length) :
    (∃ anyRow, AnyConnectionBackend.tryFrom library (typedRow columns row) =
        .ok anyRow ∧ AnyRow.Follows (typedRow columns row) anyRow) ↔
      FitsColumns columns row := by
  rw [← tryFrom_contents_iff decodes numbered complete]
  refine exists_congr fun anyRow => and_congr_right fun converted => ?_
  have sameColumns := ((tryFrom_eq_ok_iff decodes numbered complete).mp converted).1
  exact ⟨fun follows => follows.contents, fun contents => ⟨sameColumns, contents⟩⟩

/-- The contents are those of the row, where it has a column for each value. -/
theorem sameContents_iff (inColumns : row.length ≤ columns.length) {anyRow : AnyRow} :
    SameContents (typedRow columns row) anyRow ↔
      List.Forall₂ SameContent row anyRow.values := by
  have kinds : (typedValues columns row).map (·.kind) = row := by
    rw [typedValues_eq, List.map_map]
    refine Eq.trans ?_ (List.map_snd_zip inColumns)
    exact List.map_congr_left fun entry _ => declared_kind _ _
  rw [← kinds, List.forall₂_map_left_iff, kinds]
  rfl

/-- Where no column declares a type, the values have the types of their own. -/
theorem typedValues_undeclared
    (undeclared : ∀ column ∈ columns, column.typeInfo.isNull = true)
    (inColumns : row.length ≤ columns.length) :
    typedValues columns row = row.map TursoValue.fromTurso := by
  rw [typedValues_eq, ← congrArg (List.map TursoValue.fromTurso) (List.map_snd_zip inColumns),
    List.map_map]
  refine List.map_congr_left fun entry isEntry => ?_
  exact if_pos (undeclared entry.1 (List.of_mem_zip isEntry).1)

end Rows

/-! ## Streams -/

namespace AnyConnectionBackend

section Streams

variable {κ : Type} {cursor : Turso.Cursor κ} {opened final : κ} {columns : List TursoColumn}
  {rows : List Turso.Row} {failure : Option Turso.Error} {changes : Nat} {library : AnyLibrary}

/-- The items of a native stream, each converted by itself. -/
def convertedItems (library : AnyLibrary) (columns : List TursoColumn) (rows : List Turso.Row)
    (failure : Option Turso.Error) (changes : Nat) : List (Except SqlxError AnyItem) :=
  (RowStream.itemsOf columns rows failure changes).map (· >>= convertItem library)

/-- A stream over a cursor gives the converted items, and asks for no more than the native
one. -/
theorem gives_convertedItems (hands : cursor.Hands opened rows failure final)
    (complete : ∀ row ∈ rows, columns.length ≤ row.length) :
    Gives library cursor (.rows opened columns none)
        (convertedItems library columns rows failure (cursor.nChange final)) ∧
      ∀ count, (polls library cursor count (.rows opened columns none)).2 <+:
        answersOf rows failure :=
  forall_and.mp fun count => (RowStream.yields_opened hands complete).pollsConverted count

theorem gives_iff {stream : RowStream κ} {items others : List (Except SqlxError AnyItem)}
    (gives : Gives library cursor stream items) :
    Gives library cursor stream others ↔ items = others := by
  rw [← Unfolding.firsts_inj]
  exact forall_congr' fun count => by rw [gives count]

/-- Rows that are all converted, and the count of changes after them. -/
def allConverted (anyRows : List AnyRow) (changes : Nat) : List (Except SqlxError AnyItem) :=
  anyRows.map (fun anyRow => .ok (.row anyRow)) ++ [.ok (.queryResult ⟨changes, none⟩)]

theorem allConverted_cons (anyRow : AnyRow) (anyRows : List AnyRow) :
    allConverted (anyRow :: anyRows) changes =
      .ok (.row anyRow) :: allConverted anyRows changes := rfl

/-- A stream that fails gives an error. -/
theorem convertedItems_of_failure {error : Turso.Error} {anyRows : List AnyRow} :
    convertedItems library columns rows (some error) changes ≠ allConverted anyRows changes := by
  intro same
  have isLast : Except.error (mapTursoError error) ∈
      convertedItems library columns rows (some error) changes := by
    rw [convertedItems, RowStream.itemsOf, List.map_append]
    exact List.mem_append_right _ List.mem_cons_self
  rw [same, allConverted, List.mem_append, List.mem_map, List.mem_singleton] at isLast
  rcases isLast with ⟨_, _, isError⟩ | isError
  · cases isError
  · cases isError

/-- A stream that does not fail gives its rows and the count of changes if the rows are
converted. -/
theorem convertedItems_eq_iff {anyRows : List AnyRow} :
    convertedItems library columns rows none changes = allConverted anyRows changes ↔
      List.Forall₂ (fun row anyRow => tryFrom library (typedRow columns row) = .ok anyRow)
        rows anyRows := by
  have cons : ∀ row rest, convertedItems library columns (row :: rest) none changes =
      (tryFrom library (typedRow columns row)).map .row ::
        convertedItems library columns rest none changes := fun _ _ => rfl
  have nil : convertedItems library columns [] none changes = allConverted [] changes := rfl
  induction rows generalizing anyRows with
  | nil =>
      cases anyRows with
      | nil => exact iff_of_true nil .nil
      | cons anyRow anyRows =>
          refine iff_of_false ?_ nofun
          rw [nil, allConverted_cons]
          intro same
          cases same
  | cons row rest ih =>
      cases anyRows with
      | nil =>
          refine iff_of_false ?_ nofun
          rw [cons, allConverted]
          cases tryFrom library (typedRow columns row) <;> nofun
      | cons anyRow anyRows =>
          rw [cons, allConverted_cons, List.cons.injEq, List.forall₂_cons]
          refine and_congr ?_ ih
          cases tryFrom library (typedRow columns row) with
          | error error => simp [Except.map]
          | ok found => simp [Except.map]

/-- All rows come with their columns and contents, and the count of changes after them,
exactly when the engine does not fail and every value fits. -/
theorem gives_allConverted_iff (hands : cursor.Hands opened rows failure final)
    (complete : ∀ row ∈ rows, columns.length ≤ row.length) (decodes : library.DecodesEach)
    (numbered : Numbered columns) :
    (∃ anyRows, Gives library cursor (.rows opened columns none)
        (allConverted anyRows (cursor.nChange final)) ∧
      List.Forall₂ (fun row => AnyRow.Follows (typedRow columns row)) rows anyRows) ↔
      failure = none ∧ ∀ row ∈ rows, FitsColumns columns row := by
  simp only [gives_iff (gives_convertedItems hands complete).1]
  cases failure with
  | some error =>
      refine iff_of_false ?_ (fun ⟨noFailure, _⟩ => by cases noFailure)
      rintro ⟨anyRows, same, _⟩
      exact convertedItems_of_failure same
  | none =>
      simp only [convertedItems_eq_iff, true_and, ← forall₂_and_iff, exists_forall₂_iff]
      exact forall₂_congr fun row isRow =>
        tryFrom_follows_iff decodes numbered (complete row isRow)

/-- The count of changes is given exactly when the engine does not fail, whether or not the
rows before it are converted. -/
theorem queryResult_mem_iff {result : AnyQueryResult} :
    .ok (.queryResult result) ∈ convertedItems library columns rows failure changes ↔
      result = ⟨changes, none⟩ ∧ failure = none := by
  have noRow : ∀ rows : List Turso.Row, Except.ok (AnyItem.queryResult result) ∉
      (rows.map fun row => Except.ok (FetchItem.row (typedRow columns row))).map
        (· >>= convertItem library) := by
    intro rows
    rw [List.map_map, List.mem_map]
    rintro ⟨row, _, isResult⟩
    change (tryFrom library (typedRow columns row)).map AnyItem.row = _ at isResult
    cases converted : tryFrom library (typedRow columns row) with
    | error error =>
        rw [converted] at isResult
        cases isResult
    | ok anyRow =>
        rw [converted] at isResult
        cases isResult
  cases failure with
  | none =>
      rw [convertedItems, RowStream.itemsOf, List.map_append, List.mem_append,
        or_iff_right (noRow rows)]
      change _ ∈ [Except.ok (AnyItem.queryResult ⟨changes, none⟩)] ↔ _
      simp
  | some error =>
      rw [convertedItems, RowStream.itemsOf, List.map_append, List.mem_append,
        or_iff_right (noRow _)]
      refine iff_of_false (fun isLast => ?_) fun isEnd => Option.some_ne_none error isEnd.2
      cases List.mem_singleton.mp isLast

end Streams

section Queries

variable {σ : Type} {engine : Engine σ} {library : AnyLibrary} {sql : String}
  {persistent : Bool} {arguments : Option (List AnyArgument)}
  {bound : Option TursoArguments} {world after : World σ}

/-- Arguments that are not converted end a fetch before anything is sent. -/
theorem fetchMany_of_unconverted {error : SqlxError}
    (unconverted : convertArguments library arguments = .error error) :
    fetchMany engine library sql persistent arguments world = (.failed error, world) := by
  rw [fetchMany, unconverted]
  rfl

theorem fetchMany_of_converted (converted : convertArguments library arguments = .ok bound) :
    fetchMany engine library sql persistent arguments world =
      match fetchManySql engine sql persistent bound world with
      | (.returned native, after) => (.returned ⟨native⟩, after)
      | (.failed error, after) => (.failed error, after)
      | (.dropped, after) => (.dropped, after) := by
  rw [fetchMany, converted]
  change (fetchManySql engine sql persistent bound >>= fun native =>
    (pure (AnyStream.mk native) : Program σ AnyStream)) world = _
  rw [bind_apply]
  cases fetchManySql engine sql persistent bound world with
  | mk outcome after => cases outcome <;> rfl

/-- A stream is returned for converted arguments, by the native fetch. -/
theorem native_of_returned {stream : AnyStream}
    (ran : fetchMany engine library sql persistent arguments world =
      (.returned stream, after)) :
    ∃ bound, convertArguments library arguments = .ok bound ∧
      fetchManySql engine sql persistent bound world = (.returned stream.native, after) := by
  cases converted : convertArguments library arguments with
  | error error =>
      rw [fetchMany_of_unconverted converted] at ran
      cases ran
  | ok bound =>
      refine ⟨bound, rfl, ?_⟩
      rw [fetchMany_of_converted converted] at ran
      cases native : fetchManySql engine sql persistent bound world with
      | mk outcome reached =>
          rw [native] at ran
          cases outcome with
          | returned stream =>
              cases ran
              rfl
          | failed error => cases ran
          | dropped => cases ran

theorem fetchOptional_of_native {native : FetchStream}
    (converted : convertArguments library arguments = .ok bound)
    (ran : fetchManySql engine sql persistent bound world = (.returned native, after)) :
    fetchOptional engine library sql persistent arguments world =
      match native.firstRow with
      | .ok (some row) => liftExcept ((tryFrom library row).map some) after
      | .ok none => (.returned none, after)
      | .error error => (.failed error, after) := by
  rw [fetchOptional, converted]
  change (fetchManySql engine sql persistent bound >>= _) world = _
  rw [bind_apply, ran]
  dsimp only
  rw [bind_apply]
  rcases native.firstRow with error | _ | row
  · rfl
  · rfl
  · rfl

theorem liftExcept_map_some_iff {α : Type} {result : Except SqlxError α} {value : α} :
    (liftExcept (result.map some) : Program σ (Option α)) after =
        (.returned (some value), after) ↔ result = .ok value := by
  cases result with
  | error error =>
      refine iff_of_false (fun same => ?_) (fun same => by cases same)
      cases same
  | ok found =>
      constructor
      · rintro ⟨⟩
        rfl
      · rintro ⟨⟩
        rfl

section FirstRow

variable {columns : List TursoColumn} {rows : Turso.Rows} {first : Turso.Row}
  (converted : convertArguments library arguments = .ok bound)
  (ran : fetchManySql engine sql persistent bound world =
    (.returned (.unfolded (.rows rows columns none)), after))

include converted ran

/-- Where the engine does not fail right after it, the first row is returned if it is
converted. -/
theorem fetchOptional_of_first {rest : List Turso.Row} (isRows : rows.rows = first :: rest)
    (goesOn : rest ≠ [] ∨ rows.failure = none) (inRow : columns.length ≤ first.length)
    {anyRow : AnyRow} :
    fetchOptional engine library sql persistent arguments world =
        (.returned (some anyRow), after) ↔
      tryFrom library (typedRow columns first) = .ok anyRow := by
  rw [fetchOptional_of_native converted ran,
    FetchStream.firstRow_of_rows isRows goesOn inRow]
  exact liftExcept_map_some_iff

/-- The first row is returned with its contents exactly when it is found and its values fit;
the rows after it do not have to. -/
theorem fetchOptional_follows_iff (decodes : library.DecodesEach) (numbered : Numbered columns)
    (isFirst : first ∈ rows.rows.head?)
    (complete : ∀ row ∈ rows.rows, columns.length ≤ row.length) :
    (∃ anyRow, fetchOptional engine library sql persistent arguments world =
        (.returned (some anyRow), after) ∧
      AnyRow.Follows (typedRow columns first) anyRow) ↔
      (rows.rows.length = 1 → rows.failure = none) ∧ FitsColumns columns first := by
  obtain ⟨rest, isRows⟩ := List.head?_eq_some_iff.mp isFirst
  have firstIn : first ∈ rows.rows := isRows ▸ List.mem_cons_self
  have goesOn_iff : (rest ≠ [] ∨ rows.failure = none) ↔
      (rows.rows.length = 1 → rows.failure = none) := by
    rw [isRows, List.length_cons, Nat.add_eq_right, List.length_eq_zero_iff]
    exact imp_iff_not_or.symm
  rw [← goesOn_iff]
  by_cases goesOn : rest ≠ [] ∨ rows.failure = none
  · simp only [fetchOptional_of_first converted ran isRows goesOn (complete first firstIn),
      goesOn, true_and]
    exact tryFrom_follows_iff decodes numbered (complete first firstIn)
  · refine iff_of_false ?_ (fun ⟨holds, _⟩ => goesOn holds)
    simp only [not_or, not_not] at goesOn
    obtain ⟨error, failed⟩ := Option.ne_none_iff_exists'.mp goesOn.2
    have isError := FetchStream.firstRow_of_failure failed complete
    rw [isRows, goesOn.1] at isError
    rw [fetchOptional_of_native converted ran, isError]
    rintro ⟨anyRow, isReturned, _⟩
    cases isReturned

end FirstRow

end Queries

end AnyConnectionBackend

/-! ## Whole queries -/

section Fetching

variable {σ : Type} {engine : Engine σ} {library : AnyLibrary} {sql : String}
  {persistent : Bool} {arguments : Option (List AnyArgument)} {world after : World σ}
  {stream : AnyStream}

end Fetching

/-- The conversion of the rows of one column, and of the arguments one after the other. -/
def oneColumn : AnyLibrary where
  toAnyCrate := inTurn
  report
    | .adapter message => .columnDecode "0" message
    | .content message => .columnDecode "0" message
    | .tryFromInt => .columnDecode "0" ""
  convertInto values := ({} : TursoArguments).addAll (values.map AnyArgument.encoding)

/-- The prices of two items, of which one is a text that is no number. -/
def pricesEngine : Engine Unit :=
  answeringEngine [⟨"price", some "DECIMAL"⟩] { rows := [[.text "n/a"], [.integer 5]] }

namespace AnyArgument

/-- The value that the engine is given. -/
def stored : AnyArgument → Turso.Value
  | null => .null
  | bool value => .integer (if value then 1 else 0)
  | smallInt value => .integer value.toInt64
  | integer value => .integer value.toInt64
  | bigInt value => .integer value
  | real value => .real value.toFloat.toBits
  | double bits => .real bits
  | text value => .text value
  | blob value => .blob value

/-- The value that comes back where a column declares no type. -/
def widened : AnyArgument → AnyValueKind
  | null => .null .null
  | bool value => .bigInt (if value then 1 else 0)
  | smallInt value => .bigInt value.toInt64
  | integer value => .bigInt value.toInt64
  | bigInt value => .bigInt value
  | real value => .double value.toFloat.toBits
  | double bits => .double bits
  | text value => .text value
  | blob value => .blob value

theorem encoded_eq (argument : AnyArgument) :
    argument.encoding.encoded = some (TursoValue.fromTurso argument.stored) := by
  cases argument <;> rfl

theorem intoTurso_fromTurso (kind : Turso.Value) :
    (TursoValue.fromTurso kind).intoTurso = kind := by
  rw [fromTurso_eq]
  rfl

/-- A value that has no declared type is decoded with the type of its own. -/
theorem decodeAny_stored (argument : AnyArgument) :
    decodeAny (TursoValue.fromTurso argument.stored) = .ok argument.widened := by
  have integers (number : Int64) :
      decodeAny (TursoValue.fromTurso (.integer number)) = .ok (.bigInt number) := by
    have isKind : anyTypeInfoKind ⟨"INTEGER"⟩ = .bigInt := by decide
    change decodeAny ⟨⟨"INTEGER"⟩, .integer number⟩ = _
    rw [decodeAny, if_neg Turso.Value.noConfusion, isKind]
    exact congrArg (AnyValueKind.bigInt <$> ·) (i64_eq_ok_iff.mpr rfl)
  have reals (bits : UInt64) :
      decodeAny (TursoValue.fromTurso (.real bits)) = .ok (.double bits) := by
    have isKind : anyTypeInfoKind ⟨"REAL"⟩ = .double := by decide
    change decodeAny ⟨⟨"REAL"⟩, .real bits⟩ = _
    rw [decodeAny, if_neg Turso.Value.noConfusion, isKind]
    exact congrArg (AnyValueKind.double <$> ·) (f64_eq_ok_iff.mpr (.inl rfl))
  cases argument with
  | null => rfl
  | bool value => exact integers _
  | smallInt value => exact integers _
  | integer value => exact integers _
  | bigInt value => exact integers _
  | real value => exact reals _
  | double bits => exact reals _
  | text value =>
      have isKind : anyTypeInfoKind ⟨"TEXT"⟩ = .text := by decide
      change decodeAny ⟨⟨"TEXT"⟩, .text value⟩ = _
      rw [decodeAny, if_neg Turso.Value.noConfusion, isKind]
      exact congrArg (AnyValueKind.text <$> ·) (string_eq_ok_iff.mpr rfl)
  | blob value =>
      have isKind : anyTypeInfoKind ⟨"BLOB"⟩ = .blob := by decide
      change decodeAny ⟨⟨"BLOB"⟩, .blob value⟩ = _
      rw [decodeAny, if_neg Turso.Value.noConfusion, isKind]
      exact congrArg (AnyValueKind.blob <$> ·) (bytes_eq_ok_iff.mpr rfl)

end AnyArgument

/-- The conversion of the arguments adds each value as the type of its kind. -/
def AnyLibrary.AddsEach (library : AnyLibrary) : Prop :=
  ∀ values, library.convertInto values =
    ({} : TursoArguments).addAll (values.map AnyArgument.encoding)

/-- The argument buffer for the values. -/
def boundArguments (values : List AnyArgument) : TursoArguments :=
  ⟨values.map fun value => TursoValue.fromTurso value.stored⟩

section Bound

variable {library : AnyLibrary} {values : List AnyArgument} {columns : List Turso.Column}

theorem boundArguments_intoTursoValues :
    (boundArguments values).intoTursoValues = values.map AnyArgument.stored := by
  rw [boundArguments, TursoArguments.intoTursoValues, List.map_map]
  exact List.map_congr_left fun value _ => AnyArgument.intoTurso_fromTurso _

/-- No value fails to be converted. -/
theorem convertArguments_of_values (adds : library.AddsEach) :
    AnyConnectionBackend.convertArguments library (some values) =
      .ok (some (boundArguments values)) := by
  have areEncodings : encodings (values.map AnyArgument.encoding) =
      some (boundArguments values).values := by
    induction values with
    | nil => rfl
    | cons value values ih =>
        rw [List.map_cons, encodings_cons, AnyArgument.encoded_eq, ih]
        rfl
  have converted : library.convertInto values = .ok (boundArguments values) := by
    rw [adds, TursoArguments.addAll_eq_ok_iff]
    exact ⟨_, areEncodings, rfl⟩
  rw [AnyConnectionBackend.convertArguments, converted]

variable {σ : Type} {engine : Engine σ} {sql : String} {persistent : Bool}
  {world after : World σ} {stream : AnyStream}

/-- Values that are bound through the `Any` backend, and handed back by the first row, come
back with the same contents exactly if each of them fits what its column declares.  Where the
columns declare nothing they come back widened: truth values and integers as 64-bit integers,
floats as doubles. -/
theorem any_values_come_back_widened (decodes : library.DecodesEach) (adds : library.AddsEach)
    (single : (inspectSql sql).mayContainMultipleStatements = false)
    (ran : AnyConnectionBackend.fetchMany engine library sql persistent (some values) world =
      (.returned stream, after)) :
    ∃ columns rows,
      Streams engine (some (boundArguments values)) columns rows
        stream.native ∧
      (HandsBack (boundArguments values) columns rows →
        ((∃ anyRow, AnyConnectionBackend.fetchOptional engine library sql persistent
              (some values) world = (.returned (some anyRow), after) ∧
            List.Forall₂ (fun value found => SameContent value.stored found) values
              anyRow.values) ↔
          (∀ entry ∈ columns.zip values, entry.1.typeInfo.isNull = true ∨
            entry.1.typeInfo.Fits entry.2.stored)) ∧
        ((∀ column ∈ columns, column.typeInfo.isNull = true) →
          AnyConnectionBackend.fetchOptional engine library sql persistent (some values)
              world =
            (.returned (some ⟨columns.map AnyColumn.tryFrom,
              values.map AnyArgument.widened⟩), after))) := by
  obtain ⟨bound, converted, native⟩ := AnyConnectionBackend.native_of_returned ran
  have isBound : AnyConnectionBackend.convertArguments library (some values) = _ :=
    convertArguments_of_values adds
  cases isBound.symm.trans converted
  obtain ⟨columns, rows, streams⟩ := streams_of_returned single native
  refine ⟨columns, rows, streams, fun handsBack => ?_⟩
  obtain ⟨statement, state, _, rfl, _, isStream⟩ := streams
  obtain ⟨rest, isRows, goesOn⟩ := handsBack.first
  have numbered := numbered_tursoColumns (engine.columns statement state)
  have sameLength : (boundArguments values).intoTursoValues.length =
      (tursoColumns (engine.columns statement state)).length := by
    rw [handsBack.inColumns, TursoArguments.intoTursoValues, List.length_map]
  rw [isStream] at native
  simp only [AnyConnectionBackend.fetchOptional_of_first converted native isRows goesOn
    sameLength.ge]
  rw [boundArguments_intoTursoValues] at sameLength ⊢
  constructor
  · have contents : ∀ anyRow : AnyRow,
        List.Forall₂ (fun value found => SameContent value.stored found) values anyRow.values ↔
          SameContents (typedRow (tursoColumns (engine.columns statement state))
            (values.map AnyArgument.stored)) anyRow := by
      intro anyRow
      rw [sameContents_iff sameLength.le, List.forall₂_map_left_iff]
    simp only [contents]
    rw [tryFrom_contents_iff decodes numbered sameLength.ge, FitsColumns, List.zip_map_right,
      List.forall_mem_map]
    rfl
  · intro undeclared
    rw [tryFrom_eq_ok_iff decodes numbered sameLength.ge]
    refine ⟨rfl, ?_⟩
    rw [typedValues_undeclared undeclared sameLength.le, List.map_map,
      List.forall₂_map_left_iff, List.forall₂_map_right_iff, List.forall₂_same]
    exact fun value _ => value.decodeAny_stored

end Bound

theorem truth_value_comes_back_as_integer :
    ∃ anyRow, (AnyConnectionBackend.fetchOptional
        (answeringEngine [⟨"a", none⟩, ⟨"b", none⟩] { rows := [[.integer 1, .text "x"]] })
        oneColumn "SELECT ?1, ?2" true (some [.bool true, .text "x"]) freshWorld).1 =
          .returned (some anyRow) ∧
      anyRow.values = [.bigInt 1, .text "x"] := by
  have ran : AnyConnectionBackend.fetchMany
      (answeringEngine [⟨"a", none⟩, ⟨"b", none⟩] { rows := [[.integer 1, .text "x"]] })
      oneColumn "SELECT ?1, ?2" true (some [.bool true, .text "x"]) freshWorld =
        (.returned _, _) := rfl
  obtain ⟨columns, rows, ⟨statement, _, _, _, _, isStream⟩, handedBack⟩ :=
    any_values_come_back_widened inTurn_decodesEach (fun _ => rfl) (by decide) ran
  cases isStream
  have fetched := (handedBack ⟨⟨[], rfl, .inr rfl⟩, rfl⟩).2 (by decide)
  exact ⟨_, congrArg Prod.fst fetched, rfl⟩

end SqlxTurso
