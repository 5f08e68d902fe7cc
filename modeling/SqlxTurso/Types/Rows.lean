import SqlxTurso.Connection.Fetch
import SqlxTurso.Library.Collect
import SqlxTurso.Types.Decode

/-!
# Reading rows

A row gives its values by their index.  SQLx reads a Rust type from such a value where the
type that the value carries is compatible and the value is decoded.  The rows of a stream are
read one after the other, until one of them cannot be read or the stream ends.
-/

namespace SqlxTurso

namespace TursoRow

def tryGetRaw (row : TursoRow) (index : Nat) : Except SqlxError TursoValueRef :=
  if index ≥ row.columns.length then
    .error (.columnIndexOutOfBounds index row.columns.length)
  else
    match row.values[index]? with
    | some value => .ok value
    | none => .error (.columnIndexOutOfBounds index row.values.length)

theorem tryGetRaw_eq_ok {row : TursoRow} {index : Nat} {value : TursoValue}
    (inColumns : index < row.columns.length) (isValue : row.values[index]? = some value) :
    row.tryGetRaw index = .ok value := by
  rw [tryGetRaw, if_neg (Nat.not_le.mpr inColumns), isValue]

end TursoRow

/-- SQLx's `try_get`, of which it is known that a value of a compatible type is read as it is
decoded, and that nothing is read but what is decoded from the value: a value of another type
is refused, where it is not NULL and has a type at all. -/
structure RowReader where
  tryGet : {α : Type} → SqlType α → TursoRow → Nat → Except SqlxError α
  reads : ∀ {α : Type} {type : SqlType α} {row : TursoRow} {index : Nat} {value : TursoValue}
    {decoded : α}, row.tryGetRaw index = .ok value → type.compatible value.typeInfo = true →
    type.decode value = .ok decoded → tryGet type row index = .ok decoded
  onlyReads : ∀ {α : Type} {type : SqlType α} {row : TursoRow} {index : Nat}
    {value : TursoValue} {decoded : α}, row.tryGetRaw index = .ok value →
    tryGet type row index = .ok decoded → type.decode value = .ok decoded ∧
      (value.kind = .null ∨ value.typeInfo.isNull = true ∨
        type.compatible value.typeInfo = true)

namespace RowReader

/-- A reader that tells nothing of why a value is not read. -/
def plain : RowReader where
  tryGet type row index := do
    let value ← row.tryGetRaw index
    match type.compatible value.typeInfo, type.decode value with
    | true, .ok decoded => .ok decoded
    | _, _ => .error (.columnDecode (toString index) "")
  reads isValue compatible isDecoded := by
    rw [isValue]
    simp only [bind, Except.bind, compatible, isDecoded]
  onlyReads isValue isRead := by
    rw [isValue] at isRead
    simp only [bind, Except.bind] at isRead
    split at isRead
    next compatible isDecoded =>
      cases isRead
      exact ⟨isDecoded, .inr (.inr compatible)⟩
    next => cases isRead

/-- A value with a type that is not NULL is read exactly if its type is compatible and it is
decoded. -/
theorem tryGet_iff (reader : RowReader) {α : Type} {type : SqlType α} {row : TursoRow}
    {index : Nat} {value : TursoValue} {decoded : α} (isValue : row.tryGetRaw index = .ok value)
    (notNull : value.kind ≠ .null) (typed : value.typeInfo.isNull = false) :
    reader.tryGet type row index = .ok decoded ↔
      type.compatible value.typeInfo = true ∧ type.decode value = .ok decoded := by
  constructor
  · intro isRead
    obtain ⟨isDecoded, isNull | isNull | compatible⟩ := reader.onlyReads isValue isRead
    · exact absurd isNull notNull
    · exact absurd (typed.symm.trans isNull) Bool.false_ne_true
    · exact ⟨compatible, isDecoded⟩
  · rintro ⟨compatible, isDecoded⟩
    exact reader.reads isValue compatible isDecoded

end RowReader

/-! ## Streams -/

/-- The rows of the items of a stream. -/
def FetchItem.row? : FetchItem → Option TursoRow
  | .row found => some found
  | .queryResult _ => none

/-- Read every row of a stream, as SQLx collects the rows of a query. -/
def FetchStream.readAll {α : Type} (read : TursoRow → Except SqlxError α)
    (stream : FetchStream) : Except SqlxError (List α) := do
  let values ← (stream.drain.1.filterMap FetchItem.row?).mapM read
  match stream.drain.2 with
  | some error => .error error
  | none => .ok values

namespace FetchState

variable {columns : List TursoColumn}

/-- Reading a row whose values are found, with none left or with one to look ahead at. -/
theorem next_of_valued {cursor : Turso.Rows} {pendingRow : Option Turso.Row}
    {row : Turso.Row} {rest : List Turso.Row} {values : List TursoValue}
    (sound : cursor.failure = none) (isRow : pendingRow.toList ++ cursor.rows = row :: rest)
    (valued : rowValues columns row = .ok values) :
    (FetchState.rows cursor columns pendingRow).next = .ok (some (.row ⟨columns, values⟩,
      match rest with
      | [] => .queryResult ⟨cursor.changes⟩
      | ahead :: rest => .rows { cursor with rows := rest } columns (some ahead))) := by
  have read : nextRow cursor pendingRow = (.ok (some row), { cursor with rows := rest }) := by
    cases pendingRow with
    | some pending =>
        cases isRow
        rfl
    | none =>
        rw [Option.toList_none, List.nil_append] at isRow
        rw [nextRow, Turso.Rows.next, isRow]
  rw [next, read]
  simp only [valued]
  cases rest with
  | nil =>
      simp only [Turso.Rows.next, sound]
      rfl
  | cons ahead rest => rfl

/-- A stream yields each row whose values are found, and then the query result. -/
theorem unfold_of_valued {valued : List (List TursoValue)} {cursor : Turso.Rows}
    {pendingRow : Option Turso.Row} (sound : cursor.failure = none)
    (values : List.Forall₂ (fun row values => rowValues columns row = .ok values)
      (pendingRow.toList ++ cursor.rows) valued)
    {fuel : Nat} (enough : valued.length + 2 ≤ fuel) :
    (FetchState.rows cursor columns pendingRow).unfold fuel =
      (valued.map (fun values => .row ⟨columns, values⟩) ++ [.queryResult ⟨cursor.changes⟩],
        none) := by
  induction valued generalizing cursor pendingRow fuel with
  | nil =>
      obtain ⟨noPending, noRows⟩ := List.append_eq_nil_iff.mp (List.forall₂_nil_right_iff.mp values)
      cases pendingRow with
      | some pending => cases noPending
      | none =>
          obtain ⟨more, rfl⟩ : ∃ more, fuel = more + 2 := Nat.exists_eq_add_of_le' enough
          have atEnd : (FetchState.rows cursor columns none).next =
              .ok (some (.queryResult ⟨cursor.changes⟩, done)) := by
            simp only [next, nextRow, Turso.Rows.next, noRows, sound]
            rfl
          rw [unfold, atEnd]
          rfl
  | cons first others ih =>
      obtain ⟨row, rest, isFirst, areOthers, isRow⟩ := List.forall₂_cons_right_iff.mp values
      obtain ⟨spare, rfl⟩ : ∃ spare, fuel = spare + (others.length + 2) + 1 :=
        Nat.exists_eq_add_of_le' (Nat.succ_add _ _ ▸ enough)
      rw [unfold, next_of_valued sound isRow isFirst]
      cases areOthers with
      | nil => rfl
      | @cons ahead second rest more isAhead areOthers =>
          have onward : List.Forall₂ (fun row values => rowValues columns row = .ok values)
              (ahead :: rest) (second :: more) := .cons isAhead areOthers
          have unfolded := @ih { cursor with rows := rest } (some ahead) sound onward _
            (Nat.le_add_left _ spare)
          dsimp only
          rw [unfolded]
          rfl

end FetchState

namespace FetchStream

variable {columns : List TursoColumn} {rows : List Turso.Row} {changes : Nat}
  {valued : List (List TursoValue)}
  (values : List.Forall₂ (fun row values => FetchState.rowValues columns row = .ok values)
    rows valued)

include values

theorem drain_of_valued :
    (FetchStream.unfolded (.rows { rows, changes } columns none)).drain =
      (valued.map (fun values => .row ⟨columns, values⟩) ++ [.queryResult ⟨changes⟩], none) := by
  refine FetchState.unfold_of_valued rfl values ?_
  rw [← values.length_eq]
  exact Nat.add_le_add_left (by decide) _

theorem firstRow_of_valued :
    (FetchStream.unfolded (.rows { rows, changes } columns none)).firstRow =
      .ok (valued.head?.map (⟨columns, ·⟩)) := by
  rw [firstRow, drain_of_valued values]
  cases valued <;> rfl

/-- Reading every row of a stream of which the values are found. -/
theorem readAll_of_valued {α : Type} {read : TursoRow → Except SqlxError α} {results : List α}
    (areRead : List.Forall₂ (fun values result => read ⟨columns, values⟩ = .ok result)
      valued results) :
    (FetchStream.unfolded (.rows { rows, changes } columns none)).readAll read =
      .ok results := by
  have isRows : (valued.map (fun values => FetchItem.row ⟨columns, values⟩) ++
      [FetchItem.queryResult ⟨changes⟩]).filterMap FetchItem.row? =
        valued.map fun values => ⟨columns, values⟩ := by
    rw [List.filterMap_append, List.filterMap_map, ← List.filterMap_eq_map]
    exact List.append_nil _
  have collected : (valued.map fun values => (⟨columns, values⟩ : TursoRow)).mapM read =
      .ok results := by
    rw [Library.mapM_eq_ok_iff, List.forall₂_map_left_iff]
    exact areRead
  rw [readAll, drain_of_valued values, isRows, collected]
  rfl

end FetchStream

end SqlxTurso
