import Mathlib.Algebra.GroupWithZero.Nat
import SqlxTurso.Error
import SqlxTurso.Connection.World

/-!
# Fetching rows

The stream of a query hands out its rows and then one query result.  It looks one row
ahead, so that the result can follow the last row without another step of the engine.
-/

namespace SqlxTurso

structure TursoRow where
  columns : List TursoColumn
  values : List TursoValue
  deriving DecidableEq, Repr

structure TursoQueryResult where
  rowsAffected : Nat := 0
  deriving DecidableEq, Repr

/-- Either a query result or a row. -/
inductive FetchItem where
  | queryResult (result : TursoQueryResult)
  | row (row : TursoRow)
  deriving DecidableEq, Repr

namespace Turso

/-- The value in a column of a row. -/
def Row.getValue (row : Row) (index : Nat) : Except Error Value :=
  match row[index]? with
  | some value => .ok value
  | none => .error { variant := .misuse, text := "column index out of bounds" }

/-- Ask for the next row. -/
def Rows.next (rows : Rows) : Except Error (Option Row) × Rows :=
  match rows.rows with
  | row :: rest => (.ok (some row), { rows with rows := rest })
  | [] =>
      match rows.failure with
      | some error => (.error error, rows)
      | none => (.ok none, rows)

/-- The number of rows changed, once all rows are read. -/
def Rows.nChange (rows : Rows) : Nat := rows.changes

end Turso

inductive FetchState where
  | rows (rows : Turso.Rows) (columns : List TursoColumn) (pendingRow : Option Turso.Row)
  | queryResult (result : TursoQueryResult)
  | done
  deriving DecidableEq, Repr

namespace FetchState

/-- The values of a row, with the declared types of their columns. -/
def rowValues (columns : List TursoColumn) (row : Turso.Row) :
    Except SqlxError (List TursoValue) :=
  (columns.mapIdx fun index column => (index, column)).mapM fun (index, column) =>
    match row.getValue index with
    | .ok value => .ok ((TursoValue.fromTurso value).withTypeInfo column.typeInfo)
    | .error error => .error (mapTursoError error)

/-- The row that the stream looked ahead at, or else the next one. -/
def nextRow (rows : Turso.Rows) : Option Turso.Row →
    Except Turso.Error (Option Turso.Row) × Turso.Rows
  | some row => (.ok (some row), rows)
  | none => rows.next

def next : FetchState → Except SqlxError (Option (FetchItem × FetchState))
  | queryResult result => .ok (some (.queryResult result, done))
  | done => .ok none
  | rows cursor columns pendingRow =>
      match nextRow cursor pendingRow with
      | (.error error, _) => .error (mapTursoError error)
      | (.ok none, cursor) => .ok (some (.queryResult ⟨cursor.nChange⟩, done))
      | (.ok (some row), cursor) => do
          let values ← rowValues columns row
          match cursor.next with
          | (.error error, _) => .error (mapTursoError error)
          | (.ok pendingRow, cursor) =>
              let nextState :=
                if pendingRow.isSome then rows cursor columns pendingRow
                else queryResult ⟨cursor.nChange⟩
              .ok (some (.row ⟨columns, values⟩, nextState))

/-- More than the number of items that are left. -/
def fuel : FetchState → Nat
  | rows cursor _ _ => cursor.rows.length + 3
  | queryResult _ => 2
  | done => 1

/-- The items that a stream yields, and the error that ends it if there is one. -/
def unfold : Nat → FetchState → List FetchItem × Option SqlxError
  | 0, _ => ([], none)
  | fuel + 1, state =>
      match state.next with
      | .error error => ([], some error)
      | .ok none => ([], none)
      | .ok (some (item, state)) =>
          let (items, error) := unfold fuel state
          (item :: items, error)

end FetchState

/-- The stream of a fetch: the items of a batch, or the rows of one statement. -/
inductive FetchStream where
  | batch (items : List FetchItem)
  | unfolded (state : FetchState)
  deriving DecidableEq, Repr

namespace FetchStream

/-- Everything the stream yields, and the error that ends it if there is one. -/
def drain : FetchStream → List FetchItem × Option SqlxError
  | batch items => (items, none)
  | unfolded state => state.unfold state.fuel

/-- The first row, as `fetch_optional` reads it. -/
def firstRow (stream : FetchStream) : Except SqlxError (Option TursoRow) :=
  let (items, error) := stream.drain
  match items.findSome? (fun | .row row => some row | .queryResult _ => none), error with
  | some row, _ => .ok (some row)
  | none, some error => .error error
  | none, none => .ok none

/-- The sum of the query results, as `execute` extends it. -/
def queryResult (stream : FetchStream) : Except SqlxError TursoQueryResult :=
  match stream.drain with
  | (_, some error) => .error error
  | (items, none) =>
      .ok ⟨(items.map fun | .row _ => 0 | .queryResult result => result.rowsAffected).sum⟩

end FetchStream

/-! ## Failed statements -/

theorem Turso.Rows.next_of_failed {rows : Turso.Rows} (failed : rows.failure.isSome = true) :
    (∃ error, rows.next.1 = .error error) ∨
      ∃ row rest, rows.next = (.ok (some row), { rows with rows := rest }) ∧
        rest.length < rows.rows.length := by
  unfold Turso.Rows.next
  split
  next row rest isRows => exact .inr ⟨row, rest, rfl, by rw [isRows]; exact Nat.lt_succ_self _⟩
  next =>
    obtain ⟨error, isError⟩ := Option.isSome_iff_exists.mp failed
    rw [isError]
    exact .inl ⟨error, rfl⟩

namespace FetchState

/-- A stream whose statement failed ends with an error or reads one row more. -/
theorem next_of_failed {rows : Turso.Rows} (failed : rows.failure.isSome = true)
    (columns : List TursoColumn) (pendingRow : Option Turso.Row) :
    (∃ error, (FetchState.rows rows columns pendingRow).next = .error error) ∨
      ∃ item cursor nextRow, (FetchState.rows rows columns pendingRow).next =
          .ok (some (item, .rows cursor columns nextRow)) ∧
        cursor.failure.isSome = true ∧ cursor.rows.length < rows.rows.length := by
  have reads : (∃ error, (nextRow rows pendingRow).1 = .error error) ∨
      ∃ row cursor, nextRow rows pendingRow = (.ok (some row), cursor) ∧
        cursor.failure.isSome = true ∧ cursor.rows.length ≤ rows.rows.length := by
    cases pendingRow with
    | some row => exact .inr ⟨row, rows, rfl, failed, Nat.le_refl _⟩
    | none =>
        refine (Turso.Rows.next_of_failed failed).imp_right ?_
        rintro ⟨row, rest, isNext, shorter⟩
        exact ⟨row, _, isNext, failed, Nat.le_of_lt shorter⟩
  rw [next]
  rcases reads with ⟨error, isError⟩ | ⟨row, cursor, isRow, cursorFailed, atMost⟩
  · left
    cases read : nextRow rows pendingRow with
    | mk result cursor =>
        rw [read] at isError
        cases isError
        exact ⟨_, rfl⟩
  · rw [isRow]
    cases valued : rowValues columns row with
    | error error => exact .inl ⟨error, by simp only [valued]; rfl⟩
    | ok values =>
        obtain ⟨error, isError⟩ | ⟨row, rest, isNext, shorter⟩ :=
          Turso.Rows.next_of_failed cursorFailed
        · left
          cases ahead : cursor.next with
          | mk result after =>
              rw [ahead] at isError
              cases isError
              exact ⟨_, by simp only [valued, ahead]; rfl⟩
        · refine .inr ⟨.row ⟨columns, values⟩, { cursor with rows := rest }, some row, ?_,
            cursorFailed, Nat.lt_of_lt_of_le shorter atMost⟩
          simp only [valued, isNext]
          rfl

theorem unfold_of_failed {rows : Turso.Rows} (failed : rows.failure.isSome = true)
    (columns : List TursoColumn) (pendingRow : Option Turso.Row) {fuel : Nat}
    (enough : rows.rows.length < fuel) :
    ((FetchState.rows rows columns pendingRow).unfold fuel).2.isSome = true := by
  induction fuel generalizing rows pendingRow with
  | zero => cases enough
  | succ fuel ih =>
      rw [FetchState.unfold]
      obtain ⟨error, isError⟩ | ⟨item, cursor, nextRow, isNext, cursorFailed, shorter⟩ :=
        next_of_failed failed columns pendingRow
      · rw [isError]
        rfl
      · rw [isNext]
        exact ih cursorFailed nextRow (by omega)

end FetchState

/-- A query result is returned only for a statement that did not fail. -/
theorem FetchStream.failure_of_queryResult {rows : Turso.Rows} {columns : List TursoColumn}
    {pendingRow : Option Turso.Row} {result : TursoQueryResult}
    (returned : (FetchStream.unfolded (.rows rows columns pendingRow)).queryResult =
      .ok result) : rows.failure.isSome = false := by
  by_contra notSound
  have failed := Bool.not_eq_false _ |>.mp notSound
  have ended : (FetchStream.unfolded (.rows rows columns pendingRow)).drain.2.isSome = true :=
    FetchState.unfold_of_failed failed columns pendingRow
      (Nat.lt_add_of_pos_right (Nat.succ_pos 2))
  unfold FetchStream.queryResult at returned
  split at returned
  next => cases returned
  next isNone =>
    rw [isNone] at ended
    cases ended

end SqlxTurso
