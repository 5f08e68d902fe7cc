import SqlxTurso.Connection.Executor
import SqlxTurso.Library.Unfolding
import SqlxTurso.Types.Rows

/-!
# Streaming the rows

The stream of one statement is unfolded over a cursor of the engine: it asks for the next
row and reads the number of rows changed, both of which the cursor may answer differently
every time.  The rows of the fetch are one such cursor, so what is told of every cursor is
told of them.
-/

namespace SqlxTurso

open Library Async Sql

/-! ## Cursors -/

/-- What a stream uses of the rows and the statement of a running query. -/
structure Turso.Cursor (κ : Type) where
  next : κ → Except Turso.Error (Option Turso.Row) × κ
  nChange : κ → Nat

/-- The rows of a fetch as a cursor. -/
def Turso.Rows.cursor : Turso.Cursor Turso.Rows where
  next := Turso.Rows.next
  nChange := Turso.Rows.nChange

variable {κ : Type} {cursor : Turso.Cursor κ}

/-- The rows that a cursor hands out, the error after them if there is one, and the state
in which it has reported the end. -/
inductive Turso.Cursor.Hands (cursor : Turso.Cursor κ) :
    κ → List Turso.Row → Option Turso.Error → κ → Prop where
  | ended {state final : κ} :
      cursor.next state = (.ok none, final) → Hands cursor state [] none final
  | failed {state final : κ} {error : Turso.Error} :
      cursor.next state = (.error error, final) → Hands cursor state [] (some error) final
  | row {state next final : κ} {row : Turso.Row} {rows : List Turso.Row}
      {failure : Option Turso.Error} :
      cursor.next state = (.ok (some row), next) → Hands cursor next rows failure final →
      Hands cursor state (row :: rows) failure final

/-- The rows of a fetch hand out what they list. -/
theorem Turso.Rows.hands (rows : Turso.Rows) :
    Turso.Rows.cursor.Hands rows rows.rows rows.failure { rows with rows := [] } := by
  obtain ⟨list, failure, changes⟩ := rows
  induction list with
  | nil =>
      cases failure with
      | none => exact .ended rfl
      | some error => exact .failed rfl
  | cons row list ih => exact .row rfl ih

/-- The answers of a cursor that is read to its end. -/
def answersOf (rows : List Turso.Row) (failure : Option Turso.Error) :
    List (Except Turso.Error (Option Turso.Row)) :=
  rows.map (fun row => .ok (some row)) ++
    [match failure with
      | none => .ok none
      | some error => .error error]

/-! ## The stream over a cursor -/

/-- The states of a stream over a cursor. -/
inductive RowStream (κ : Type) where
  | rows (state : κ) (columns : List TursoColumn) (pendingRow : Option Turso.Row)
  | queryResult (result : TursoQueryResult)
  | done

namespace RowStream

/-- The row that the stream looked ahead at, or else the next one, and what was asked. -/
def nextRow (cursor : Turso.Cursor κ) (state : κ) : Option Turso.Row →
    Except Turso.Error (Option Turso.Row) × κ × List (Except Turso.Error (Option Turso.Row))
  | some row => (.ok (some row), state, [])
  | none =>
      let (answer, state) := cursor.next state
      (answer, state, [answer])

def next (cursor : Turso.Cursor κ) :
    Unfolding (RowStream κ) SqlxError FetchItem (Except Turso.Error (Option Turso.Row))
  | queryResult result => (.ok (some (.queryResult result, done)), [])
  | done => (.ok none, [])
  | rows state columns pendingRow =>
      match nextRow cursor state pendingRow with
      | (.error error, _, asked) => (.error (mapTursoError error), asked)
      | (.ok none, state, asked) =>
          (.ok (some (.queryResult ⟨cursor.nChange state⟩, done)), asked)
      | (.ok (some row), state, asked) =>
          match FetchState.rowValues columns row with
          | .error error => (.error error, asked)
          | .ok values =>
              match cursor.next state with
              | (.error error, _) => (.error (mapTursoError error), asked ++ [.error error])
              | (.ok pendingRow, state) =>
                  let nextState :=
                    if pendingRow.isSome then rows state columns pendingRow
                    else queryResult ⟨cursor.nChange state⟩
                  (.ok (some (.row ⟨columns, values⟩, nextState)), asked ++ [.ok pendingRow])

/-- A state of the fetch is a state of the stream over its rows. -/
def ofFetch : FetchState → RowStream Turso.Rows
  | .rows cursor columns pendingRow => rows cursor columns pendingRow
  | .queryResult result => queryResult result
  | .done => done

/-- Over the rows of a fetch the stream takes the steps of the fetch. -/
theorem next_ofFetch (state : FetchState) :
    (next Turso.Rows.cursor (ofFetch state)).1 =
      state.next.map (Option.map fun (item, state) => (item, ofFetch state)) := by
  cases state with
  | queryResult result => rfl
  | done => rfl
  | rows cursor columns pendingRow =>
      have sameRow : ∃ asked, nextRow Turso.Rows.cursor cursor pendingRow =
          ((FetchState.nextRow cursor pendingRow).1,
            (FetchState.nextRow cursor pendingRow).2, asked) := by
        cases pendingRow with
        | none => exact ⟨_, rfl⟩
        | some row => exact ⟨_, rfl⟩
      obtain ⟨asked, sameRow⟩ := sameRow
      rw [ofFetch, next, sameRow, FetchState.next]
      cases FetchState.nextRow cursor pendingRow with
      | mk answer after =>
          rcases answer with error | _ | row
          · rfl
          · rfl
          · dsimp only
            cases FetchState.rowValues columns row with
            | error error => rfl
            | ok values =>
                dsimp only [Turso.Rows.cursor]
                cases after.next with
                | mk ahead last =>
                    rcases ahead with error | _ | pending
                    · rfl
                    · rfl
                    · rfl

end RowStream

/-! ## Typed rows -/

/-- The values of a row, one for each column and with the declared type of it. -/
def typedValues (columns : List TursoColumn) (row : Turso.Row) : List TursoValue :=
  List.zipWith (fun column value => (TursoValue.fromTurso value).withTypeInfo column.typeInfo)
    columns row

def typedRow (columns : List TursoColumn) (row : Turso.Row) : TursoRow :=
  ⟨columns, typedValues columns row⟩

/-- The values are found in a row that has one for each column. -/
theorem FetchState.rowValues_eq {columns : List TursoColumn} {row : Turso.Row}
    (complete : columns.length ≤ row.length) :
    rowValues columns row = .ok (typedValues columns row) := by
  rw [rowValues, mapM_eq_ok_iff, List.forall₂_iff_get]
  have sameLength : (typedValues columns row).length = columns.length := by
    rw [typedValues, List.length_zipWith, Nat.min_eq_left complete]
  constructor
  · rw [List.length_mapIdx, sameLength]
  · intro index inColumns inValues
    have inRow : index < row.length := Nat.lt_of_lt_of_le (sameLength ▸ inValues) complete
    simp only [List.get_eq_getElem, List.getElem_mapIdx, Turso.Row.getValue,
      List.getElem?_eq_getElem inRow, typedValues, List.getElem_zipWith]

namespace RowStream

variable {columns : List TursoColumn} {row : Turso.Row} {rows : List Turso.Row}
  {failure : Option Turso.Error} {state final : κ}

/-- A stream that has looked ahead asks for one row more. -/
theorem next_ahead (complete : columns.length ≤ row.length)
    {answer : Except Turso.Error (Option Turso.Row)} {after : κ}
    (isNext : cursor.next state = (answer, after)) :
    next cursor (.rows state columns (some row)) =
      match answer with
      | .error error => (.error (mapTursoError error), [.error error])
      | .ok none =>
          (.ok (some (.row (typedRow columns row), .queryResult ⟨cursor.nChange after⟩)),
            [.ok none])
      | .ok (some ahead) =>
          (.ok (some (.row (typedRow columns row), .rows after columns (some ahead))),
            [.ok (some ahead)]) := by
  rw [next, nextRow]
  simp only [FetchState.rowValues_eq complete, isNext]
  rcases answer with error | _ | ahead
  · rfl
  · rfl
  · rfl

/-- What a stream yields of rows and of the error or the end after them.  The row that
was read before an error is lost. -/
def itemsOf (columns : List TursoColumn) (rows : List Turso.Row) :
    Option Turso.Error → Nat → List (Except SqlxError FetchItem)
  | none, changes =>
      rows.map (fun row => .ok (.row (typedRow columns row))) ++ [.ok (.queryResult ⟨changes⟩)]
  | some error, _ =>
      rows.dropLast.map (fun row => .ok (.row (typedRow columns row))) ++
        [.error (mapTursoError error)]

theorem itemsOf_cons_cons (row ahead : Turso.Row) (changes : Nat) :
    itemsOf columns (row :: ahead :: rows) failure changes =
      .ok (.row (typedRow columns row)) :: itemsOf columns (ahead :: rows) failure changes := by
  cases failure with
  | none => rfl
  | some error => rfl

/-- A query result is the last item, and nothing is asked for it. -/
theorem yields_queryResult (result : TursoQueryResult) :
    Unfolding.Yields (next cursor) (.queryResult result) [.ok (.queryResult result)] [] := by
  have isStep : next cursor (.queryResult result) =
      (.ok (some (.queryResult result, .done)), []) := rfl
  exact .item isStep (.ends rfl)

theorem yields_ahead (hands : cursor.Hands state rows failure final)
    (complete : ∀ found ∈ row :: rows, columns.length ≤ found.length) :
    Unfolding.Yields (next cursor) (.rows state columns (some row))
      (itemsOf columns (row :: rows) failure (cursor.nChange final))
      (answersOf rows failure) := by
  have isComplete := complete row List.mem_cons_self
  induction hands generalizing row with
  | ended isEnd =>
      have yields := Unfolding.Yields.item (next_ahead isComplete isEnd) (yields_queryResult _)
      exact yields
  | failed isError => exact .failed (next_ahead isComplete isError)
  | row isRow _ ih =>
      have others := (List.forall_mem_cons.mp complete).2
      rw [itemsOf_cons_cons]
      have yields := Unfolding.Yields.item (next_ahead isComplete isRow)
        (ih others (others _ List.mem_cons_self))
      exact yields

/-- A stream that reads its first row goes on as one that has looked ahead at it. -/
theorem next_opened (complete : columns.length ≤ row.length) {after : κ}
    (isRow : cursor.next state = (.ok (some row), after)) :
    next cursor (.rows state columns none) =
      ((next cursor (.rows after columns (some row))).1,
        .ok (some row) :: (next cursor (.rows after columns (some row))).2) := by
  simp only [next, nextRow, isRow, FetchState.rowValues_eq complete]
  cases cursor.next after with
  | mk answer last =>
      rcases answer with error | _ | ahead
      · rfl
      · rfl
      · rfl

/-- A stream that is opened yields the rows of its cursor, but not the one before an error,
and asks for each of them once. -/
theorem yields_opened (hands : cursor.Hands state rows failure final)
    (complete : ∀ found ∈ rows, columns.length ≤ found.length) :
    Unfolding.Yields (next cursor) (.rows state columns none)
      (itemsOf columns rows failure (cursor.nChange final)) (answersOf rows failure) := by
  cases hands with
  | ended isEnd =>
      have isStep : next cursor (.rows state columns none) =
          (.ok (some (.queryResult ⟨cursor.nChange final⟩, .done)), [.ok none]) := by
        simp only [next, nextRow, isEnd]
      have isDone : Unfolding.Yields (next cursor) .done [] [] := .ends rfl
      have yields := Unfolding.Yields.item isStep isDone
      exact yields
  | @failed _ _ error isError =>
      have isStep : next cursor (.rows state columns none) =
          (.error (mapTursoError error), [.error error]) := by
        simp only [next, nextRow, isError]
      exact .failed isStep
  | row isRow goesOn =>
      exact (yields_ahead goesOn complete).asking
        (next_opened (complete _ List.mem_cons_self) isRow)

theorem length_itemsOf (columns : List TursoColumn) (rows : List Turso.Row)
    (failure : Option Turso.Error) (changes : Nat) :
    (itemsOf columns rows failure changes).length ≤ rows.length + 1 := by
  cases failure with
  | none => simp [itemsOf]
  | some error => simp [itemsOf]

/-- Draining a fetch takes the items that polling yields over its rows. -/
theorem unfold_of_yields {state : FetchState} {items : List (Except SqlxError FetchItem)}
    {asked : List (Except Turso.Error (Option Turso.Row))}
    (yields : Unfolding.Yields (next Turso.Rows.cursor) (ofFetch state) items asked)
    {fuel : Nat} (enough : items.length < fuel) :
    items = (state.unfold fuel).1.map .ok ++ (state.unfold fuel).2.toList.map .error := by
  generalize isState : ofFetch state = stream at yields
  induction yields generalizing state fuel with
  | ends isStep =>
      obtain ⟨more, rfl⟩ := Nat.exists_eq_succ_of_ne_zero (Nat.ne_zero_of_lt enough)
      have steps := next_ofFetch state
      rw [isState, isStep] at steps
      cases isNext : state.next with
      | error error =>
          rw [isNext] at steps
          cases steps
      | ok answer =>
          rw [isNext] at steps
          cases answer with
          | none =>
              rw [FetchState.unfold, isNext]
              rfl
          | some step => cases steps
  | failed isStep =>
      obtain ⟨more, rfl⟩ := Nat.exists_eq_succ_of_ne_zero (Nat.ne_zero_of_lt enough)
      have steps := next_ofFetch state
      rw [isState, isStep] at steps
      cases isNext : state.next with
      | error error =>
          rw [isNext] at steps
          cases steps
          rw [FetchState.unfold, isNext]
          rfl
      | ok answer =>
          rw [isNext] at steps
          cases answer <;> cases steps
  | item isStep _ ih =>
      obtain ⟨more, rfl⟩ := Nat.exists_eq_succ_of_ne_zero (Nat.ne_zero_of_lt enough)
      have steps := next_ofFetch state
      rw [isState, isStep] at steps
      cases isNext : state.next with
      | error error =>
          rw [isNext] at steps
          cases steps
      | ok answer =>
          rw [isNext] at steps
          cases answer with
          | none => cases steps
          | some step =>
              obtain ⟨item, rest⟩ := step
              cases steps
              rw [FetchState.unfold, isNext]
              dsimp only
              rw [List.map_cons, List.cons_append, ← ih (Nat.lt_of_succ_lt_succ enough) rfl]

/-- A fetch drains what a stream over its rows yields. -/
theorem itemsOf_eq_drain {columns : List TursoColumn} {rows : Turso.Rows}
    (complete : ∀ row ∈ rows.rows, columns.length ≤ row.length) :
    itemsOf columns rows.rows rows.failure rows.changes =
      (FetchStream.unfolded (.rows rows columns none)).drain.1.map .ok ++
        (FetchStream.unfolded (.rows rows columns none)).drain.2.toList.map .error := by
  have yields := yields_opened rows.hands complete
  have isState : RowStream.rows rows columns none = ofFetch (.rows rows columns none) := rfl
  rw [isState] at yields
  refine unfold_of_yields yields (Nat.lt_of_le_of_lt (length_itemsOf _ _ _ _) ?_)
  rw [FetchState.fuel]
  omega

/-- Any number of polls of a stream give the first of these items, and nothing after. -/
def Gives (cursor : Turso.Cursor κ) (stream : RowStream κ)
    (items : List (Except SqlxError FetchItem)) : Prop :=
  ∀ count, (Unfolding.polls (next cursor) count (some stream)).1 = Unfolding.firsts count items

/-- However often a stream is polled, it asks no more than for these answers. -/
def Asks (cursor : Turso.Cursor κ) (stream : RowStream κ)
    (answers : List (Except Turso.Error (Option Turso.Row))) : Prop :=
  ∀ count, (Unfolding.polls (next cursor) count (some stream)).2 <+: answers

theorem gives_iff {stream : RowStream κ} {items others : List (Except SqlxError FetchItem)}
    {asked : List (Except Turso.Error (Option Turso.Row))}
    (yields : Unfolding.Yields (next cursor) stream items asked) :
    Gives cursor stream others ↔ items = others := by
  rw [← Unfolding.firsts_inj]
  apply forall_congr'
  intro count
  rw [(yields.polls count).1]

end RowStream

/-! ## The first row -/

namespace FetchStream

variable {state : FetchState}

/-- A stream can always take one more step. -/
theorem fuel_eq_succ (state : FetchState) : ∃ more, state.fuel = more + 1 := by
  cases state with
  | rows cursor columns pendingRow => exact ⟨_, rfl⟩
  | queryResult result => exact ⟨_, rfl⟩
  | done => exact ⟨_, rfl⟩

theorem firstRow_of_row {row : TursoRow} {after : FetchState}
    (isNext : state.next = .ok (some (.row row, after))) :
    (unfolded state).firstRow = .ok (some row) := by
  obtain ⟨more, isFuel⟩ := fuel_eq_succ state
  rw [firstRow, drain, isFuel, FetchState.unfold, isNext]
  rfl

theorem firstRow_of_error {error : SqlxError} (isNext : state.next = .error error) :
    (unfolded state).firstRow = .error error := by
  obtain ⟨more, isFuel⟩ := fuel_eq_succ state
  rw [firstRow, drain, isFuel, FetchState.unfold, isNext]
  rfl

/-- The first row is found before an error exactly when it is not the last one. -/
theorem firstRow_of_failure {columns : List TursoColumn} {rows : Turso.Rows}
    {error : Turso.Error} (failed : rows.failure = some error)
    (complete : ∀ row ∈ rows.rows, columns.length ≤ row.length) :
    (unfolded (.rows rows columns none)).firstRow =
      match rows.rows with
      | first :: _ :: _ => .ok (some (typedRow columns first))
      | _ => .error (mapTursoError error) := by
  obtain ⟨list, failure, changes⟩ := rows
  cases failed
  match list, complete with
  | [], _ => exact firstRow_of_error rfl
  | [row], complete =>
      have valued := FetchState.rowValues_eq (complete row List.mem_cons_self)
      apply firstRow_of_error
      simp only [FetchState.next, FetchState.nextRow, Turso.Rows.next, valued]
      rfl
  | first :: ahead :: rest, complete =>
      have valued := FetchState.rowValues_eq (complete first List.mem_cons_self)
      apply firstRow_of_row
      simp only [FetchState.next, FetchState.nextRow, Turso.Rows.next, valued]
      rfl

end FetchStream

/-! ## The streams of a fetch -/

/-- The stream is over the rows that the engine answered with, and over the columns that it
told for the statement in the same state. -/
def Streams {σ : Type} (engine : Engine σ) (arguments : Option TursoArguments)
    (columns : List TursoColumn) (rows : Turso.Rows) (stream : FetchStream) : Prop :=
  ∃ (statement : Turso.Statement) (state state' : σ),
    tursoColumns (engine.columns statement state) = columns ∧
    engine.serve (.query statement (arguments.map TursoArguments.intoTursoValues)) state =
      (.answered (.ok rows), state') ∧
    stream = .unfolded (.rows rows columns none)

section Fetching

variable {σ : Type} {engine : Engine σ} {sql : String} {persistent : Bool}
  {arguments : Option TursoArguments}

/-- What is answered was answered in a state as it is before the call. -/
theorem call_keeping_answer (holds : σ → Prop) (request : Request) :
    Meets (fun world => holds world.engine) (call engine request)
      (Keeping (fun _ => True) fun answer => ∃ state state', holds state ∧
        engine.serve request state = (.answered (.ok answer), state')) := by
  apply call_meets
  · intro world answer state atWorld served
    refine ⟨trivial, ?_⟩
    rintro _ ⟨⟩
    exact ⟨_, _, atWorld, served⟩
  · exact fun _ _ _ _ _ => ⟨trivial, fun _ => nofun⟩
  · exact fun _ _ _ _ => ⟨trivial, fun _ => nofun⟩

theorem querySql_streams :
    Meets (fun _ => True) (querySql engine sql persistent arguments)
      (Keeping (fun _ => True) fun stream =>
        ∃ columns rows, Streams engine arguments columns rows stream) := by
  apply Meets.bindKeeping (Meets.anyKeeping _)
  intro statement _
  refine Meets.read fun columns => Meets.bindKeeping
    ((call_keeping_answer (fun state => tursoColumns (engine.columns statement state) = columns)
      _).mono (fun _ atRead => atRead.2) fun _ _ ended => ended) ?_
  rintro rows ⟨state, state', told, answered⟩
  exact Meets.pureKeeping ⟨columns, rows, statement, state, state', told, answered, rfl⟩

/-- The stream of a text that is not seen as several statements is over an answer of the
engine. -/
theorem fetchManySql_streams (single : (inspectSql sql).mayContainMultipleStatements = false) :
    Meets (fun _ => True) (fetchManySql engine sql persistent arguments)
      (Keeping (fun _ => True) fun stream =>
        ∃ columns rows, Streams engine arguments columns rows stream) := by
  rw [fetchManySql_eq]
  apply Meets.bindKeeping (Meets.anyKeeping _)
  intro _ _
  rcases fetchCleared_cases engine single persistent arguments with ⟨error, fails⟩ | queries
  · rw [fails]
    exact Meets.fail fun _ _ => ⟨trivial, fun _ => nofun⟩
  · rw [queries]
    exact querySql_streams

variable {world after : World σ} {stream : FetchStream}

theorem streams_of_returned (single : (inspectSql sql).mayContainMultipleStatements = false)
    (ran : fetchManySql engine sql persistent arguments world = (.returned stream, after)) :
    ∃ columns rows, Streams engine arguments columns rows stream := by
  have meets : Meets (fun _ => True) (fetchManySql engine sql persistent arguments) _ :=
    fetchManySql_streams single
  have kept := (meets world trivial).2 stream
  rw [ran] at kept
  exact kept rfl

/-- The stream of one statement yields each row that the engine hands out and then one query
result, which holds the number of rows changed once the engine has reported the end.  The
engine is not asked again after that. -/
theorem rows_are_streamed_once (single : (inspectSql sql).mayContainMultipleStatements = false)
    (ran : fetchManySql engine sql persistent arguments world = (.returned stream, after)) :
    ∃ columns rows, Streams engine arguments columns rows stream ∧
      (rows.failure = none → (∀ row ∈ rows.rows, columns.length ≤ row.length) →
        stream.drain = (rows.rows.map (fun row => .row (typedRow columns row)) ++
          [.queryResult ⟨rows.changes⟩], none) ∧
        ∀ {κ : Type} (cursor : Turso.Cursor κ) (opened final : κ),
          cursor.Hands opened rows.rows none final →
          RowStream.Gives cursor (.rows opened columns none)
              (rows.rows.map (fun row => .ok (.row (typedRow columns row))) ++
                [.ok (.queryResult ⟨cursor.nChange final⟩)]) ∧
            RowStream.Asks cursor (.rows opened columns none)
              (rows.rows.map (fun row => .ok (some row)) ++ [.ok none])) := by
  obtain ⟨columns, rows, streams⟩ := streams_of_returned single ran
  refine ⟨columns, rows, streams, ?_⟩
  intro sound complete
  constructor
  · have values : List.Forall₂ (fun row values => FetchState.rowValues columns row = .ok values)
        rows.rows (rows.rows.map (typedValues columns)) := by
      rw [List.forall₂_map_right_iff, List.forall₂_same]
      exact fun row isRow => FetchState.rowValues_eq (complete row isRow)
    obtain ⟨_, _, _, _, _, isStream⟩ := streams
    obtain ⟨list, failure, changes⟩ := rows
    cases sound
    rw [isStream, FetchStream.drain_of_valued values, List.map_map]
    rfl
  · intro κ cursor opened final hands
    have yields := RowStream.yields_opened hands complete
    exact ⟨(RowStream.gives_iff yields).mpr rfl, fun count => (yields.polls count).2⟩

theorem fetchOptional_of_returned
    (ran : fetchManySql engine sql persistent arguments world = (.returned stream, after)) :
    fetchOptional engine { sql, persistent, arguments := .ok arguments } world =
      liftExcept stream.firstRow after := by
  change (fetchManySql engine sql persistent arguments >>= fun stream =>
    liftExcept stream.firstRow) world = _
  rw [bind_apply, ran]

/-- `fetch_optional` returns the first row for a stream that fails, where there is one. -/
def ReturnsFirst (engine : Engine σ) (query : Query) (world after : World σ)
    (columns : List TursoColumn) (rows : List Turso.Row) : Prop :=
  ∀ first ∈ rows.head?,
    fetchOptional engine query world = (.returned (some (typedRow columns first)), after)

theorem returnsFirst_iff {columns : List TursoColumn} {rows : Turso.Rows} {error : Turso.Error}
    (ran : fetchManySql engine sql persistent arguments world = (.returned stream, after))
    (isStream : stream = .unfolded (.rows rows columns none))
    (failed : rows.failure = some error)
    (complete : ∀ row ∈ rows.rows, columns.length ≤ row.length) :
    ReturnsFirst engine { sql, persistent, arguments := .ok arguments } world after columns
      rows.rows ↔ rows.rows.length ≠ 1 := by
  have isFirst := FetchStream.firstRow_of_failure failed complete
  rw [← isStream] at isFirst
  rw [ReturnsFirst, fetchOptional_of_returned ran, isFirst]
  match rows.rows with
  | [] => exact iff_of_true (fun _ => nofun) (by decide)
  | [row] =>
      refine iff_of_false ?_ (fun notOne => notOne rfl)
      intro returnsFirst
      cases returnsFirst row rfl
  | first :: ahead :: rest =>
      refine iff_of_true ?_ (fun isOne => by cases isOne)
      rintro _ ⟨⟩
      rfl

/-- The rows before an error all come through exactly when there are none: the row of
which the engine fails to give the next one is lost.  The first row is returned unless it
is the only one. -/
theorem rows_before_error_iff (single : (inspectSql sql).mayContainMultipleStatements = false)
    (ran : fetchManySql engine sql persistent arguments world = (.returned stream, after)) :
    ∃ columns rows, Streams engine arguments columns rows stream ∧
      ∀ error, rows.failure = some error → (∀ row ∈ rows.rows, columns.length ≤ row.length) →
        ∀ {κ : Type} (cursor : Turso.Cursor κ) (opened final : κ),
          cursor.Hands opened rows.rows (some error) final →
          ((RowStream.Gives cursor (.rows opened columns none)
                (rows.rows.map (fun row => .ok (.row (typedRow columns row))) ++
                  [.error (mapTursoError error)]) ∧
              ReturnsFirst engine { sql, persistent, arguments := .ok arguments } world after
                columns rows.rows) ↔
            rows.rows = []) ∧
          (ReturnsFirst engine { sql, persistent, arguments := .ok arguments } world after
              columns rows.rows ↔
            rows.rows.length ≠ 1) := by
  obtain ⟨columns, rows, streams⟩ := streams_of_returned single ran
  refine ⟨columns, rows, streams, ?_⟩
  intro error failed complete κ cursor opened final hands
  obtain ⟨_, _, _, _, _, isStream⟩ := streams
  have returnsFirst := returnsFirst_iff ran isStream failed complete
  refine ⟨?_, returnsFirst⟩
  rw [returnsFirst, RowStream.gives_iff (RowStream.yields_opened hands complete)]
  constructor
  · rintro ⟨same, -⟩
    have sameLength := congrArg List.length same
    rw [RowStream.itemsOf] at sameLength
    simp only [List.length_append, List.length_map, List.length_dropLast,
      Nat.add_right_cancel_iff] at sameLength
    apply List.eq_nil_of_length_eq_zero
    omega
  · intro noRows
    rw [noRows]
    exact ⟨rfl, by decide⟩

end Fetching

/-- An engine that answers every query with the same rows. -/
def answeringEngine (columns : List Turso.Column) (rows : Turso.Rows) : Engine Unit where
  serve request state :=
    match request with
    | .execute _ => (.answered (.ok 0), state)
    | .executeBatch _ => (.answered (.ok ()), state)
    | .prepare sql => (.answered (.ok { sql }), state)
    | .query _ _ => (.answered (.ok rows), state)
  columns _ _ := columns

/-- A fresh connection to an engine without a state. -/
def freshWorld : World Unit where
  connection := { statements := { caches := .roomy, capacity := 1 } }
  engine := ()

theorem two_rows_are_streamed_once :
    ∃ columns rows stream, (fetchManySql (answeringEngine [⟨"id", some "INTEGER"⟩]
        { rows := [[.integer 1], [.integer 2]], changes := 3 }) "SELECT id FROM ids" false none
        freshWorld).1 = .returned stream ∧
      stream.drain.1.length = 3 ∧
      RowStream.Gives Turso.Rows.cursor (.rows rows columns none)
        [.ok (.row (typedRow columns [.integer 1])), .ok (.row (typedRow columns [.integer 2])),
          .ok (.queryResult ⟨3⟩)] := by
  have single : (inspectSql "SELECT id FROM ids").mayContainMultipleStatements = false := by
    decide
  have ran : fetchManySql (answeringEngine [⟨"id", some "INTEGER"⟩]
      { rows := [[.integer 1], [.integer 2]], changes := 3 }) "SELECT id FROM ids" false none
      freshWorld = _ := rfl
  obtain ⟨columns, rows, ⟨_, _, _, _, _, isStream⟩, streamed⟩ := rows_are_streamed_once single ran
  cases isStream
  obtain ⟨drained, polled⟩ := streamed rfl (by decide)
  refine ⟨_, _, _, rfl, ?_, (polled _ _ _ (Turso.Rows.hands _)).1⟩
  rw [drained]
  rfl

/-- A query that fails at once yields its error. -/
theorem failed_query_yields_error :
    ∃ columns rows stream, (fetchManySql (answeringEngine [⟨"id", some "INTEGER"⟩]
        { rows := [], failure := some { variant := .busy, text := "locked" } })
        "SELECT id FROM ids" false none freshWorld).1 = .returned stream ∧
      RowStream.Gives Turso.Rows.cursor (.rows rows columns none)
        [.error (mapTursoError { variant := .busy, text := "locked" })] := by
  have single : (inspectSql "SELECT id FROM ids").mayContainMultipleStatements = false := by
    decide
  have ran : fetchManySql (answeringEngine [⟨"id", some "INTEGER"⟩]
      { rows := [], failure := some { variant := .busy, text := "locked" } })
      "SELECT id FROM ids" false none freshWorld = _ := rfl
  obtain ⟨columns, rows, ⟨_, _, _, _, _, isStream⟩, streamed⟩ := rows_before_error_iff single ran
  cases isStream
  have atOnce := streamed _ rfl (by decide) _ _ _ (Turso.Rows.hands _)
  exact ⟨_, _, _, rfl, (atOnce.1.mpr rfl).1⟩

/-- The only row before an error is lost with it. -/
theorem only_row_is_lost :
    ∃ rows columns after, fetchManySql (answeringEngine [⟨"id", some "INTEGER"⟩]
        { rows := [[.integer 1]], failure := some { variant := .busy, text := "locked" } })
        "SELECT id FROM ids" false none freshWorld =
          (.returned (.unfolded (.rows rows columns none)), after) ∧
      rows.rows = [[.integer 1]] ∧
      (Unfolding.polls (RowStream.next Turso.Rows.cursor) 2
          (some (.rows rows columns none))).1 =
        [some (.error (mapTursoError { variant := .busy, text := "locked" })), none] ∧
      fetchOptional (answeringEngine [⟨"id", some "INTEGER"⟩]
        { rows := [[.integer 1]], failure := some { variant := .busy, text := "locked" } })
        { sql := "SELECT id FROM ids", persistent := false } freshWorld =
          (.failed (mapTursoError { variant := .busy, text := "locked" }), after) :=
  ⟨_, _, _, rfl, rfl, rfl, rfl⟩

end SqlxTurso
