import SqlxTurso.Connection.Cache
import SqlxTurso.Connection.Streaming

/-!
# Columns by their names

A prepared statement and the rows of a fetch find a column by its name in a map that is
collected from the columns.  A name that two columns share finds the last of them.  While a
statement is held, it is described as it was when it was prepared, and the rows that are
fetched with it have the columns that the engine tells of it then.
-/

namespace SqlxTurso

open Library Async Sql

/-- The errors of finding a column by its name. -/
inductive ColumnError where
  | columnNotFound (name : String)
  | sqlx (error : SqlxError)
  deriving DecidableEq, Repr

def collectColumnNames (columns : List TursoColumn) : Std.HashMap String Nat :=
  columns.foldl (fun columnNames column => columnNames.insert column.name column.ordinal) ∅

/-- The index of a name among columns, as a statement and a row look it up. -/
def columnIndex (columns : List TursoColumn) (name : String) : Except ColumnError Nat :=
  match (collectColumnNames columns)[name]? with
  | some index => .ok index
  | none => .error (.columnNotFound name)

def TursoStatement.index (statement : TursoStatement) : String → Except ColumnError Nat :=
  columnIndex statement.columns

namespace TursoRow

def index (row : TursoRow) : String → Except ColumnError Nat :=
  columnIndex row.columns

/-- The value in the column that a name finds. -/
def tryGetRawByName (row : TursoRow) (name : String) : Except ColumnError TursoValueRef := do
  let index ← row.index name
  match row.values[index]? with
  | some value => .ok value
  | none => .error (.sqlx (.columnIndexOutOfBounds index row.values.length))

end TursoRow

/-! ## Names -/

/-- The columns know their places. -/
def Numbered (columns : List TursoColumn) : Prop :=
  columns.map (·.ordinal) = List.range columns.length

theorem numbered_tursoColumns (columns : List Turso.Column) :
    Numbered (tursoColumns columns) := by
  rw [Numbered, tursoColumns, List.mapIdx_eq_zipIdx_map, List.map_map, List.length_map,
    List.length_zipIdx, List.range_eq_range', ← List.zipIdx_map_snd]
  rfl

/-- The place of the last column of a name. -/
def LastNamed (columns : List TursoColumn) (name : String) (place : Nat) : Prop :=
  (∃ column, columns[place]? = some column ∧ column.name = name) ∧
    ∀ later column, place < later → columns[later]? = some column → column.name ≠ name

theorem collectColumnNames_append (columns : List TursoColumn) (column : TursoColumn) :
    collectColumnNames (columns ++ [column]) =
      (collectColumnNames columns).insert column.name column.ordinal := by
  rw [collectColumnNames, List.foldl_append]
  rfl

theorem Numbered.of_append {columns : List TursoColumn} {column : TursoColumn}
    (numbered : Numbered (columns ++ [column])) :
    Numbered columns ∧ column.ordinal = columns.length := by
  rw [Numbered, List.map_append, List.length_append, List.length_singleton, List.range_succ]
    at numbered
  obtain ⟨first, last⟩ := List.append_inj numbered (by simp)
  exact ⟨first, List.singleton_inj.mp last⟩

/-- The last column of a name is the one that is added if it has the name. -/
theorem lastNamed_append_iff {columns : List TursoColumn} {column : TursoColumn}
    {name : String} {place : Nat} :
    LastNamed (columns ++ [column]) name place ↔
      if column.name = name then place = columns.length else LastNamed columns name place := by
  have atEnd : (columns ++ [column])[columns.length]? = some column :=
    List.getElem?_concat_length
  have before : ∀ index, index < columns.length →
      (columns ++ [column])[index]? = columns[index]? :=
    fun index inColumns => List.getElem?_append_left inColumns
  have bounded : ∀ index found, (columns ++ [column])[index]? = some found →
      index ≤ columns.length := by
    intro index found isFound
    have inList := (List.getElem?_eq_some_iff.mp isFound).1
    rw [List.length_append, List.length_singleton] at inList
    exact Nat.le_of_lt_succ inList
  split
  next isNamed =>
    constructor
    · rintro ⟨⟨found, isFound, _⟩, isLast⟩
      refine Nat.le_antisymm (bounded _ _ isFound) (Nat.le_of_not_lt fun isBefore => ?_)
      exact isLast _ _ isBefore atEnd isNamed
    · rintro rfl
      refine ⟨⟨column, atEnd, isNamed⟩, fun later found isLater isFound => ?_⟩
      exact absurd (bounded _ _ isFound) (Nat.not_le.mpr isLater)
  next notNamed =>
    constructor
    · rintro ⟨⟨found, isFound, isNamed⟩, isLast⟩
      have inColumns : place < columns.length := by
        refine Nat.lt_of_le_of_ne (bounded _ _ isFound) ?_
        rintro rfl
        cases atEnd.symm.trans isFound
        exact notNamed isNamed
      rw [before _ inColumns] at isFound
      refine ⟨⟨found, isFound, isNamed⟩, fun later other isLater isOther => ?_⟩
      refine isLast later other isLater ?_
      rw [before _ (List.getElem?_eq_some_iff.mp isOther).1, isOther]
    · rintro ⟨⟨found, isFound, isNamed⟩, isLast⟩
      have inColumns := (List.getElem?_eq_some_iff.mp isFound).1
      refine ⟨⟨found, (before _ inColumns).trans isFound, isNamed⟩, ?_⟩
      intro later other isLater isOther
      rcases (bounded _ _ isOther).lt_or_eq with isBefore | rfl
      · exact isLast later other isLater ((before _ isBefore).symm.trans isOther)
      · cases atEnd.symm.trans isOther
        exact notNamed

/-- A name finds the last column that has it. -/
theorem collectColumnNames_eq_some_iff {columns : List TursoColumn}
    (numbered : Numbered columns) {name : String} {place : Nat} :
    (collectColumnNames columns)[name]? = some place ↔ LastNamed columns name place := by
  induction columns using List.reverseRecOn with
  | nil => simp [collectColumnNames, LastNamed]
  | append_singleton columns column ih =>
      obtain ⟨isNumbered, isLast⟩ := numbered.of_append
      rw [collectColumnNames_append, Std.HashMap.getElem?_insert, isLast,
        lastNamed_append_iff]
      by_cases isNamed : column.name = name
      · simp only [isNamed, beq_self_eq_true, ↓reduceIte, Option.some.injEq]
        exact eq_comm
      · simp only [isNamed, beq_iff_eq, ↓reduceIte]
        exact ih isNumbered

theorem columnIndex_eq_ok_iff {columns : List TursoColumn} (numbered : Numbered columns)
    {name : String} {place : Nat} :
    columnIndex columns name = .ok place ↔ LastNamed columns name place := by
  rw [← collectColumnNames_eq_some_iff numbered, columnIndex]
  cases (collectColumnNames columns)[name]? with
  | none => simp only [reduceCtorEq]
  | some index => simp only [Except.ok.injEq, Option.some.injEq]

/-! ## Held statements -/

/-- A row has the columns and one value for each of them, and the stream goes on with the
same columns unless it is the last one. -/
theorem next_row {columns : List TursoColumn} {cursor : Turso.Rows}
    {pendingRow : Option Turso.Row} {item : FetchItem} {rest : FetchState}
    (isNext : (FetchState.rows cursor columns pendingRow).next = .ok (some (item, rest))) :
    (∃ result, item = .queryResult result ∧ rest = .done) ∨
      ∃ values, item = .row ⟨columns, values⟩ ∧ values.length = columns.length ∧
        ((∃ cursor pendingRow, rest = .rows cursor columns pendingRow) ∨
          ∃ result, rest = .queryResult result) := by
  rw [FetchState.next] at isNext
  split at isNext
  next => cases isNext
  next =>
    cases isNext
    exact .inl ⟨_, rfl, rfl⟩
  next row cursor _ =>
    right
    cases valued : FetchState.rowValues columns row with
    | error error =>
        rw [valued] at isNext
        cases isNext
    | ok values =>
        rw [valued] at isNext
        have sameLength : values.length = columns.length := by
          rw [FetchState.rowValues, mapM_eq_ok_iff] at valued
          rw [← valued.length_eq, List.length_mapIdx]
        cases ahead : cursor.next with
        | mk pending after =>
            cases pending with
            | error error =>
                simp only [ahead] at isNext
                cases isNext
            | ok pending =>
                simp only [ahead] at isNext
                cases isNext
                refine ⟨values, rfl, sameLength, ?_⟩
                cases pending with
                | none => exact .inr ⟨_, rfl⟩
                | some _ => exact .inl ⟨_, _, rfl⟩

theorem unfold_done (fuel : Nat) : FetchState.done.unfold fuel = ([], none) := by
  cases fuel <;> rfl

/-- The rows of a statement have the columns that the stream was opened with. -/
theorem columns_of_unfold {columns : List TursoColumn} {fuel : Nat} {cursor : Turso.Rows}
    {pendingRow : Option Turso.Row} {row : TursoRow}
    (isItem : FetchItem.row row ∈ ((FetchState.rows cursor columns pendingRow).unfold fuel).1) :
    row.columns = columns ∧ row.values.length = columns.length := by
  induction fuel generalizing cursor pendingRow with
  | zero => cases isItem
  | succ fuel ih =>
      rw [FetchState.unfold] at isItem
      split at isItem
      next => cases isItem
      next => cases isItem
      next item rest isNext =>
        rcases next_row isNext with ⟨result, rfl, rfl⟩ | ⟨values, rfl, sameLength, goesOn⟩
        · rcases List.mem_cons.mp isItem with isResult | isRest
          · cases isResult
          · rw [unfold_done] at isRest
            cases isRest
        · rcases List.mem_cons.mp isItem with isRow | isRest
          · cases isRow
            exact ⟨rfl, sameLength⟩
          · rcases goesOn with ⟨cursor, pendingRow, rfl⟩ | ⟨result, rfl⟩
            · exact ih isRest
            · cases fuel with
              | zero => cases isRest
              | succ fuel =>
                  rw [FetchState.unfold, FetchState.next] at isRest
                  dsimp only at isRest
                  rw [unfold_done] at isRest
                  cases List.mem_singleton.mp isRest

/-- A row finds the columns that it was opened with by their names. -/
theorem tryGetRawByName_of_columns {row : TursoRow} {columns : List TursoColumn}
    (numbered : Numbered columns) (same : row.columns = columns)
    (sameLength : row.values.length = columns.length) (name : String) :
    (∀ place, LastNamed columns name place →
        ∃ value, row.tryGetRawByName name = .ok value ∧ row.values[place]? = some value) ∧
      ((∀ column ∈ columns, column.name ≠ name) →
        row.tryGetRawByName name = .error (.columnNotFound name)) := by
  constructor
  · intro place isLast
    obtain ⟨column, isColumn, _⟩ := isLast.1
    have inRow : place < row.values.length :=
      sameLength ▸ (List.getElem?_eq_some_iff.mp isColumn).1
    have found : row.index name = .ok place := by
      rw [TursoRow.index, same, columnIndex_eq_ok_iff numbered]
      exact isLast
    refine ⟨row.values[place], ?_, List.getElem?_eq_getElem inRow⟩
    rw [TursoRow.tryGetRawByName, found]
    change (match row.values[place]? with | some value => _ | none => _) = _
    rw [List.getElem?_eq_getElem inRow]
  · intro noColumn
    have notFound : row.index name = .error (.columnNotFound name) := by
      have absent : (collectColumnNames columns)[name]? = none := by
        rw [Option.eq_none_iff_forall_ne_some]
        intro place isPlace
        obtain ⟨column, isColumn, isNamed⟩ :=
          ((collectColumnNames_eq_some_iff numbered).mp isPlace).1
        exact noColumn column (List.mem_of_getElem? isColumn) isNamed
      rw [TursoRow.index, same, columnIndex, absent]
    rw [TursoRow.tryGetRawByName, notFound]
    rfl

/-- A row of these columns, in which a name finds the value of its last column. -/
structure TursoRow.Of (columns : List TursoColumn) (row : TursoRow) : Prop where
  sameColumns : row.columns = columns
  finds : ∀ name place, LastNamed columns name place →
    ∃ value, row.tryGetRawByName name = .ok value ∧ row.values[place]? = some value
  misses : ∀ name, (∀ column ∈ columns, column.name ≠ name) →
    row.tryGetRawByName name = .error (.columnNotFound name)

variable {σ : Type} {engine : Engine σ} {sql : String} {world after : World σ}
  {arguments : Option TursoArguments} {stream : FetchStream}

/-- A text is queried with the statement that is held for it, and the rows have the columns
that the engine tells of it before the query. -/
theorem querySql_of_held {statement : TursoStatement} {raw : Turso.Statement}
    (isHeld : world.connection.statements.held sql = some statement)
    (isRaw : statement.raw = some raw)
    (ran : querySql engine sql true arguments world = (.returned stream, after)) :
    ∃ rows, stream =
      .unfolded (.rows rows (tursoColumns (engine.columns raw world.engine)) none) := by
  have readied : prepareQueryStatement engine sql true world =
      (.returned raw, world.looked sql) := by
    change (prepareSql engine sql >>= _) world = _
    rw [bind_apply, prepareSql_of_held isHeld]
    dsimp only
    rw [isRaw]
    rfl
  rw [querySql, bind_apply, readied] at ran
  dsimp only at ran
  rw [bind_apply, read_apply] at ran
  dsimp only at ran
  rw [bind_apply] at ran
  cases called : call engine (.query raw (arguments.map TursoArguments.intoTursoValues))
      (world.looked sql) with
  | mk outcome last =>
      rw [called] at ran
      cases outcome with
      | returned rows =>
          cases ran
          exact ⟨rows, rfl⟩
      | failed error => cases ran
      | dropped => cases ran

/-- A join of two tables, both with a column of the same name. -/
def joinedIds : Engine Unit :=
  answeringEngine [⟨"id", some "INTEGER"⟩, ⟨"id", some "TEXT"⟩]
    { rows := [[.integer 1, .text "x"]] }

end SqlxTurso
