import SqlxTurso.Connection.Conflict
import SqlxTurso.Connection.Quiet
import SqlxTurso.Sql.Joined

/-!
# What a batch counts

A single statement reports the rows that the engine says it changed, and a batch reports
none, and the engine refuses a batch where a statement hands out a row.  So the two ways of
executing a list of statements agree in what they report only where there is one statement
or no row is handed out or changed.
-/

namespace SqlxTurso

open Library Async Sql

/-! ## The query result of a stream -/

/-- What an item adds to the number of rows affected. -/
def FetchItem.rowsAffected : FetchItem → Nat
  | .row _ => 0
  | .queryResult result => result.rowsAffected

/-- Asking for a row changes nothing in what the statement changed. -/
theorem Turso.Rows.next_changes {rows cursor : Turso.Rows}
    {result : Except Turso.Error (Option Turso.Row)} (isNext : rows.next = (result, cursor)) :
    cursor.changes = rows.changes ∧ cursor.rows.length ≤ rows.rows.length ∧
      ∀ row, result = .ok (some row) → cursor.rows.length < rows.rows.length := by
  unfold Turso.Rows.next at isNext
  split at isNext
  next row rest isRows =>
    cases isNext
    rw [isRows]
    exact ⟨rfl, Nat.le_succ _, fun _ _ => Nat.lt_succ_self _⟩
  next =>
    split at isNext <;> cases isNext <;> exact ⟨rfl, Nat.le_refl _, fun _ => nofun⟩

namespace FetchState

theorem nextRow_changes {rows cursor : Turso.Rows} {pendingRow : Option Turso.Row}
    {result : Except Turso.Error (Option Turso.Row)}
    (isNext : nextRow rows pendingRow = (result, cursor)) :
    cursor.changes = rows.changes ∧ cursor.rows.length ≤ rows.rows.length := by
  cases pendingRow with
  | some row =>
      cases isNext
      exact ⟨rfl, Nat.le_refl _⟩
  | none =>
      obtain ⟨sameChanges, atMost, _⟩ := Turso.Rows.next_changes isNext
      exact ⟨sameChanges, atMost⟩

/-- What a stream over the rows of a statement yields next. -/
inductive Yielding (rows : Turso.Rows) (columns : List TursoColumn) :
    Except SqlxError (Option (FetchItem × FetchState)) → Prop
  | fails (error : SqlxError) : Yielding rows columns (.error error)
  | noRow : Yielding rows columns (.ok (some (.queryResult ⟨rows.changes⟩, .done)))
  | lastRow (row : TursoRow) :
      Yielding rows columns (.ok (some (.row row, .queryResult ⟨rows.changes⟩)))
  | oneRow (row : TursoRow) {cursor : Turso.Rows} (pendingRow : Option Turso.Row)
      (sameChanges : cursor.changes = rows.changes)
      (shorter : cursor.rows.length < rows.rows.length) :
      Yielding rows columns (.ok (some (.row row, .rows cursor columns pendingRow)))

theorem next_yields (rows : Turso.Rows) (columns : List TursoColumn)
    (pendingRow : Option Turso.Row) :
    Yielding rows columns (FetchState.rows rows columns pendingRow).next := by
  rw [next]
  cases isNext : nextRow rows pendingRow with
  | mk result cursor =>
      obtain ⟨sameChanges, atMost⟩ := nextRow_changes isNext
      rcases result with error | _ | row
      · exact .fails _
      · dsimp only
        rw [Turso.Rows.nChange, sameChanges]
        exact .noRow
      · dsimp only
        cases rowValues columns row with
        | error error => exact .fails _
        | ok values =>
            cases isAhead : cursor.next with
            | mk ahead after =>
                obtain ⟨sameAfter, _, shorter⟩ := Turso.Rows.next_changes isAhead
                rcases ahead with error | _ | next
                · exact .fails _
                · dsimp only
                  rw [Turso.Rows.nChange, sameAfter, sameChanges]
                  exact .lastRow _
                · exact .oneRow _ _ (sameAfter.trans sameChanges)
                    (Nat.lt_of_lt_of_le (shorter next rfl) atMost)

/-- A stream that is read to its end yields the changes of its statement once. -/
theorem unfold_changes {rows : Turso.Rows} {columns : List TursoColumn}
    {pendingRow : Option Turso.Row} {fuel : Nat} (enough : rows.rows.length + 1 < fuel)
    {items : List FetchItem}
    (read : (FetchState.rows rows columns pendingRow).unfold fuel = (items, none)) :
    (items.map FetchItem.rowsAffected).sum = rows.changes := by
  induction fuel generalizing rows pendingRow items with
  | zero => cases enough
  | succ fuel ih =>
      obtain ⟨more, rfl⟩ := Nat.exists_eq_succ_of_ne_zero (n := fuel) (by omega)
      rw [unfold] at read
      have yields := next_yields rows columns pendingRow
      generalize (FetchState.rows rows columns pendingRow).next = result at read yields
      cases yields with
      | fails error => cases read
      | noRow =>
          cases more <;> cases read <;> simp [FetchItem.rowsAffected]
      | lastRow row =>
          cases more <;> cases read <;> simp [FetchItem.rowsAffected]
      | oneRow row pendingRow sameChanges shorter =>
          dsimp only at read
          cases later : (FetchState.rows _ columns pendingRow).unfold (more + 1) with
          | mk others error =>
              rw [later] at read
              cases read
              rw [List.map_cons, List.sum_cons, ih (by omega) later, sameChanges]
              exact Nat.zero_add _

end FetchState

theorem FetchStream.changes_of_queryResult {rows : Turso.Rows} {columns : List TursoColumn}
    {pendingRow : Option Turso.Row} {result : TursoQueryResult}
    (returned : (FetchStream.unfolded (.rows rows columns pendingRow)).queryResult =
      .ok result) : result.rowsAffected = rows.changes := by
  have fuel : rows.rows.length + 1 < (FetchState.rows rows columns pendingRow).fuel :=
    Nat.add_lt_add_left (by decide) _
  unfold FetchStream.queryResult at returned
  split at returned
  next => cases returned
  next items drained =>
    cases returned
    exact FetchState.unfold_changes fuel drained

/-! ## Statements one after another -/

variable {σ D : Type} {engine : Engine σ} {meaning : Meaning D}

/-- Execute texts one after another and add up what they report. -/
def executeEach (engine : Engine σ) (persistent : Bool) :
    List String → Program σ TursoQueryResult
  | [] => pure {}
  | sql :: rest => do
      let result ← execute engine { sql, persistent }
      let others ← executeEach engine persistent rest
      pure ⟨result.rowsAffected + others.rowsAffected⟩

namespace Meaning

variable (meaning : Meaning D)

/-- Run statements one after another, for the rows that they hand out and the number of rows
that they change. -/
def performAll : List String → Database D → Option (List Turso.Row × Nat × Database D)
  | [], database => some ([], 0, database)
  | statement :: rest, database =>
      match meaning.perform statement [] database with
      | .ok (rows, changes, database) =>
          (performAll rest database).map fun (others, more, database) =>
            (rows ++ others, changes + more, database)
      | .error _ => none

/-- The statements run, and neither hand out a row nor change one. -/
def Silent (statements : List String) (database : Database D) : Prop :=
  ∃ after, meaning.performAll statements database = some ([], 0, after)

/-- A batch runs its statements one after another. -/
theorem serveBatch_performs {statements : List String} {database after : Database D}
    {changes : Nat}
    (performed : meaning.performAll statements database = some ([], changes, after)) :
    meaning.serveBatch statements { database, script := [] } =
      (.answered (.ok ()), { database := after, script := [] }) := by
  induction statements generalizing database changes with
  | nil =>
      cases performed
      rfl
  | cons statement rest ih =>
      rw [performAll] at performed
      rw [serveBatch, underVerdict_nil rfl]
      cases ran : meaning.perform statement [] database with
      | error failure =>
          rw [ran] at performed
          cases performed
      | ok effect =>
          rw [ran] at performed
          obtain ⟨⟨others, more, last⟩, later, same⟩ := Option.map_eq_some_iff.mp performed
          rw [Prod.mk.injEq, Prod.mk.injEq, List.append_eq_nil_iff] at same
          obtain ⟨⟨noRows, rfl⟩, _, rfl⟩ := same
          rcases effect with ⟨rows, changes, middle⟩
          cases noRows
          simp only [performExecute, withoutRows, ran]
          exact ih later

/-- A batch fails at a statement that hands out a row. -/
theorem serveBatch_refuses {statements : List String} {database after : Database D}
    {rows : List Turso.Row} {changes : Nat} (handed : rows ≠ [])
    (performed : meaning.performAll statements database = some (rows, changes, after)) :
    ∃ error state, meaning.serveBatch statements { database, script := [] } =
      (.answered (.error error), state) := by
  induction statements generalizing database rows changes with
  | nil =>
      cases performed
      exact absurd rfl handed
  | cons statement rest ih =>
      rw [performAll] at performed
      rw [serveBatch, underVerdict_nil rfl]
      cases ran : meaning.perform statement [] database with
      | error failure =>
          rw [ran] at performed
          cases performed
      | ok effect =>
          rw [ran] at performed
          obtain ⟨⟨others, more, last⟩, later, same⟩ := Option.map_eq_some_iff.mp performed
          cases same
          rcases effect with ⟨_ | ⟨row, first⟩, changes, middle⟩
          · simp only [performExecute, withoutRows, ran]
            exact ih handed later
          · simp only [performExecute, withoutRows, ran]
            exact ⟨_, _, rfl⟩

end Meaning

/-- The database of a connection that has nothing to clear, on an engine that refuses
nothing. -/
structure Idle (database : Database D) (world : World (Sqlite D)) : Prop where
  engine : world.engine = { database, script := [] }
  sound : world.failed = false
  empty : world.pending = []
  cached : SoundCache world.connection.statements

variable (engine) in
/-- Executing is clearing the queue and then fetching to the end. -/
theorem execute_eq (sql : String) (persistent : Bool) (world : World σ) :
    execute engine { sql, persistent } world =
      match clearPendingRollback engine world with
      | (.returned _, cleared) =>
          (fetchCleared engine sql persistent none >>= fun stream =>
            liftExcept stream.queryResult) cleared
      | (.failed error, ended) => (.failed error, ended)
      | (.dropped, ended) => (.dropped, ended) := by
  have isFetch : fetchMany engine { sql, persistent } =
      clearPendingRollback engine >>= fun _ => fetchCleared engine sql persistent none := rfl
  unfold execute
  rw [bind_apply, isFetch, bind_apply]
  cases clearPendingRollback engine world with
  | mk outcome cleared =>
      cases outcome with
      | returned _ => rfl
      | failed _ => rfl
      | dropped => rfl

/-- What is executed first clears the queue, so it does not matter if it is cleared. -/
theorem execute_of_cleared {world cleared : World σ} {sql : String} {persistent : Bool}
    (isCleared : clearPendingRollback engine world = (.returned (), cleared)) :
    execute engine { sql, persistent } world = execute engine { sql, persistent } cleared := by
  have facts := Cleared.of_returned isCleared
  rw [execute_eq, execute_eq, isCleared,
    clearPendingRollback_of_empty facts.sound facts.empty]

theorem clearPendingRollback_idle {world cleared : World (Sqlite D)}
    (calm : world.engine.script = []) (sound : SoundCache world.connection.statements)
    (isCleared : clearPendingRollback (sqlite meaning) world = (.returned (), cleared)) :
    Idle cleared.engine.database cleared := by
  have facts := Cleared.of_returned isCleared
  have same := clearPendingRollback_statements (sqlite meaning) _ world rfl
  have keepsScript : Meets (fun world => world.engine.script = [])
      (clearPendingRollback (sqlite meaning)) fun _ world => world.engine.script = [] := by
    have answered : ∀ {depth : Nat} {world : World (Sqlite D)} {reply state},
        world.engine.script = [] →
        (sqlite meaning).serve (rollbackRequest depth) world.engine = (reply, state) →
        state.script = [] := by
      intro depth world reply state ended served
      obtain ⟨result, database, isServed⟩ := serve_calm meaning (rollbackRequest depth) ended
      rw [isServed] at served
      cases served
      rfl
    apply clearPendingRollback_meets
    · exact fun _ ended _ => ended
    · intro queue
      refine Meets.weaken (fun world => world.engine.script = []) (fun _ atStart => atStart.1)
        (clearQueue_meets (fun _ (world : World (Sqlite D)) => world.engine.script = []) ?_ ?_ ?_
          ?_ queue)
      · exact fun _ ended => ended
      · exact fun _ _ _ _ _ ended served _ => answered ended served
      · exact fun _ _ _ _ _ ended served _ => answered ended served
      · exact fun _ _ _ _ ended served => answered ended served
  have ended := keepsScript world calm
  rw [isCleared] at same ended
  exact ⟨by rw [← ended], facts.sound, facts.empty, same ▸ sound⟩

/-! ## One statement -/

namespace Idle

variable {database : Database D} {world : World (Sqlite D)}

theorem cleared (idle : Idle database world) :
    clearPendingRollback (sqlite meaning) world = (.returned (), world) :=
  clearPendingRollback_of_empty idle.sound idle.empty

theorem send (idle : Idle database world) {after : Database D} (request : Request)
    (status : Status) :
    Idle after (world.send request status { database := after, script := [] }) :=
  ⟨rfl, idle.sound, idle.empty, idle.cached⟩

end Idle

variable (meaning) in
theorem performPrepare_idle (sql : String) (database : Database D) :
    ∃ result, meaning.performPrepare sql none database = (result, database) ∧
      ∀ raw : Turso.Statement, result = .ok raw → raw.sql = sql := by
  unfold Meaning.performPrepare
  cases meaning.columns (firstStatement sql) database.content with
  | ok columns =>
      refine ⟨_, rfl, ?_⟩
      intro raw isRaw
      cases isRaw
      rfl
  | error error => exact ⟨_, rfl, fun _ => nofun⟩

theorem callPrepare_idle (sql : String) (database : Database D) :
    Meets (Idle database) (call (sqlite meaning) (.prepare sql))
      (Keeping (Idle database) fun raw : Turso.Statement => raw.sql = sql) := by
  intro world idle
  obtain ⟨result, performed, isSql⟩ :=
    performPrepare_idle meaning sql database
  have served : (sqlite meaning).serve (.prepare sql) world.engine =
      (.answered result, { database, script := [] }) := by
    rw [idle.engine]
    have ended : ({ database } : Sqlite D).script = [] := rfl
    exact underVerdict_performs (meaning.performPrepare sql) ended performed
  rw [call_of_answered served]
  cases result with
  | ok raw =>
      refine ⟨idle.send _ _, ?_⟩
      intro value isValue
      cases isValue
      exact isSql raw rfl
  | error error => exact ⟨idle.send _ _, fun _ => nofun⟩

variable (meaning) in
theorem prepareQueryStatement_idle (sql : String) (persistent : Bool)
    (database : Database D) :
    Meets (Idle database) (prepareQueryStatement (sqlite meaning) sql persistent)
      (Keeping (Idle database) fun raw : Turso.Statement => raw.sql = sql) := by
  apply prepareQueryStatement_keeping
  · exact fun _ idle => idle.cached
  · intro world change idle same sound
    exact ⟨idle.engine, (congrArg TransactionState.rollbackFailed same).trans idle.sound,
      (congrArg TransactionState.pendingRollbackDepths same).trans idle.empty, sound⟩
  · exact callPrepare_idle sql database

variable (meaning) in
/-- The engine's rows for a query and the database after it. -/
theorem callQuery_idle (statement : Turso.Statement) (database : Database D) :
    Meets (Idle database) (call (sqlite meaning) (.query statement none))
      fun outcome world => ∃ rows : Turso.Rows, outcome = .returned rows ∧
        (rows.failure = none → ∃ handed after,
          meaning.perform (firstStatement statement.sql) [] database =
            .ok (handed, rows.changes, after) ∧ Idle after world) := by
  intro world idle
  have served : ∀ {result after}, meaning.performQuery statement [] none database =
      (result, after) → (sqlite meaning).serve (.query statement none) world.engine =
        (.answered result, { database := after, script := [] }) := by
    intro result after performed
    rw [idle.engine]
    have ended : ({ database } : Sqlite D).script = [] := rfl
    exact underVerdict_performs (meaning.performQuery statement []) ended performed
  unfold Meaning.performQuery at served
  cases ran : meaning.perform (firstStatement statement.sql) [] database with
  | ok effect =>
      rw [ran] at served
      rw [call_of_answered (served rfl)]
      exact ⟨_, rfl, fun _ => ⟨effect.1, effect.2.2, rfl, idle.send _ _⟩⟩
  | error failure =>
      rw [ran] at served
      rw [call_of_answered (served rfl)]
      exact ⟨_, rfl, nofun⟩

theorem statementsOf_statement {sql : String} (statement : IsStatement sql) :
    statementsOf sql = [sql] := by
  rw [statementsOf, filledPieces, sqlPieces, pieces_statement statement]
  have filled : isFilledPiece (annotate .code sql.toList) = true := statement.filled
  simp [filled, annotate_chars]

theorem statementsOf_joined {statements : List String} (nonempty : statements ≠ [])
    (valid : ∀ sql ∈ statements, IsStatement sql) :
    statementsOf (String.ofList (joined statements)) = statements := by
  rw [statementsOf, filledPieces_joined nonempty valid, List.map_map]
  simp [Function.comp_def, annotate_chars]

/-- A statement that is executed to its end reports the rows that it changed. -/
theorem execute_idle {sql : String} (statement : IsStatement sql) (persistent : Bool)
    (database : Database D) :
    Meets (Idle database) (execute (sqlite meaning) { sql, persistent })
      fun outcome world => ∀ result, outcome = .returned result → ∃ handed after,
        meaning.perform sql [] database = .ok (handed, result.rowsAffected, after) ∧
          Idle after world := by
  intro world idle
  rw [execute_eq, idle.cleared]
  dsimp only
  have first : firstStatement sql = sql := by
    rw [firstStatement, statementsOf_statement statement]
    rfl
  rw [fetchCleared_of_single (inspectSql_statement statement), querySql, bind_apply,
    bind_apply]
  obtain ⟨stays, isSql⟩ :=
    prepareQueryStatement_idle meaning sql persistent database world idle
  cases prepared : prepareQueryStatement (sqlite meaning) sql persistent world with
  | mk outcome middle =>
      rw [prepared] at stays isSql
      cases outcome with
      | failed error => exact fun _ => nofun
      | dropped => exact fun _ => nofun
      | returned raw =>
          dsimp only
          rw [bind_apply, read_apply]
          dsimp only
          rw [bind_apply, Option.map_none]
          obtain ⟨rows, returned, performed⟩ :=
            callQuery_idle meaning raw database middle stays
          rw [isSql raw rfl, first] at performed
          cases called : call (sqlite meaning) (.query raw none) middle with
          | mk answer last =>
              rw [called] at returned performed
              subst returned
              intro result isResult
              cases counted : (FetchStream.unfolded (.rows rows
                  (tursoColumns ((sqlite meaning).columns raw middle.engine)) none)).queryResult with
              | error error =>
                  simp [counted, liftExcept] at isResult
              | ok value =>
                  simp only [pure_apply, counted, liftExcept, Outcome.returned.injEq] at isResult
                  subst isResult
                  have sound := FetchStream.failure_of_queryResult counted
                  rw [FetchStream.changes_of_queryResult counted]
                  simp only [pure_apply, counted, liftExcept]
                  exact performed (Option.isNone_iff_eq_none.mp (Option.isSome_eq_false_iff.mp sound))

/-! ## Lists of statements -/

variable (meaning) in
theorem executeEach_idle {statements : List String}
    (valid : ∀ sql ∈ statements, IsStatement sql) (persistent : Bool)
    (database : Database D) :
    Meets (Idle database) (executeEach (sqlite meaning) persistent statements)
      fun outcome world => ∀ total, outcome = .returned total → ∃ handed after,
        meaning.performAll statements database = some (handed, total.rowsAffected, after) ∧
          Idle after world := by
  induction statements generalizing database with
  | nil =>
      apply Meets.pure
      intro world idle total isTotal
      cases isTotal
      exact ⟨[], database, rfl, idle⟩
  | cons sql rest ih =>
      rw [List.forall_mem_cons] at valid
      refine Meets.bind (fun result world => ∃ handed after,
        meaning.perform sql [] database = .ok (handed, result.rowsAffected, after) ∧
          Idle after world) ?_ fun result => ?_
      · refine (execute_idle valid.1 persistent database).imp ?_
        intro outcome world executed
        cases outcome with
        | returned result => exact executed result rfl
        | failed error => exact fun _ => nofun
        | dropped => exact fun _ => nofun
      · rintro world ⟨handed, after, performed, idle⟩
        have ended := ih valid.2 after world idle
        rw [bind_apply]
        cases executed : executeEach (sqlite meaning) persistent rest world with
        | mk outcome reached =>
            rw [executed] at ended
            cases outcome with
            | failed error => exact fun _ => nofun
            | dropped => exact fun _ => nofun
            | returned more =>
                obtain ⟨others, last, later, idle⟩ := ended more rfl
                intro total isTotal
                cases isTotal
                refine ⟨handed ++ others, last, ?_, idle⟩
                simp only [Meaning.performAll, performed, later, Option.map_some]

/-- Several statements are executed as a batch. -/
theorem execute_joined {statements : List String} (several : 2 ≤ statements.length)
    (valid : ∀ sql ∈ statements, IsStatement sql) (persistent : Bool) {database : Database D}
    {result : Except Turso.Error Unit} {state : Sqlite D}
    (served : meaning.serveBatch statements { database, script := [] } =
      (.answered result, state)) {world : World (Sqlite D)} (idle : Idle database world) :
    (execute (sqlite meaning) { sql := String.ofList (joined statements), persistent } world).1 =
      (Outcome.ofAnswer result).map fun _ => {} := by
  have nonempty : statements ≠ [] := by
    rintro rfl
    cases several
  have isServed : (sqlite meaning).serve (.executeBatch (String.ofList (joined statements)))
      world.engine = (.answered result, state) := by
    rw [idle.engine]
    change meaning.serveBatch (statementsOf (String.ofList (joined statements))) _ = _
    rw [statementsOf_joined nonempty valid]
    exact served
  rw [execute_eq, idle.cleared]
  dsimp only
  rw [fetchCleared_of_several (inspectSql_joined several valid), executeBatchSql, bind_apply,
    bind_apply, bind_apply, call_of_answered isServed]
  cases result <;> rfl

/-- A batch reports no changes, and fails if a statement hands out a row. -/
theorem execute_joined_iff {statements : List String} (several : 2 ≤ statements.length)
    (valid : ∀ sql ∈ statements, IsStatement sql) (persistent : Bool)
    {database after : Database D} {handed : List Turso.Row} {total : TursoQueryResult}
    (performed : meaning.performAll statements database =
      some (handed, total.rowsAffected, after))
    {world : World (Sqlite D)} (idle : Idle database world) :
    (execute (sqlite meaning) { sql := String.ofList (joined statements), persistent } world).1 =
        .returned total ↔ meaning.Silent statements database := by
  have silent : meaning.Silent statements database ↔ handed = [] ∧ total.rowsAffected = 0 := by
    rw [Meaning.Silent, performed]
    simp
  rw [silent]
  by_cases noRows : handed = []
  · subst noRows
    rw [execute_joined several valid persistent (meaning.serveBatch_performs performed) idle]
    obtain ⟨changes⟩ := total
    simp [Outcome.ofAnswer, Outcome.map, eq_comm]
  · obtain ⟨error, state, served⟩ := meaning.serveBatch_refuses noRows performed
    rw [execute_joined several valid persistent served idle]
    simp [Outcome.ofAnswer, Outcome.map, noRows]

theorem executeEach_cleared {sql : String} {rest : List String} {persistent : Bool}
    {world last : World σ} {total : TursoQueryResult}
    (executed : executeEach engine persistent (sql :: rest) world = (.returned total, last)) :
    ∃ cleared, clearPendingRollback engine world = (.returned (), cleared) ∧
      executeEach engine persistent (sql :: rest) cleared = (.returned total, last) := by
  cases isCleared : clearPendingRollback engine world with
  | mk outcome cleared =>
      have first := execute_eq engine sql persistent world
      rw [isCleared] at first
      rw [executeEach, bind_apply] at executed
      cases outcome with
      | failed error =>
          rw [first] at executed
          cases executed
      | dropped =>
          rw [first] at executed
          cases executed
      | returned value =>
          refine ⟨cleared, rfl, ?_⟩
          rw [executeEach, bind_apply, ← execute_of_cleared isCleared]
          exact executed

/-- Executing statements as one text gives what executing them one after another gives, if
and only if there is one statement, or they neither hand out a row nor change one. -/
theorem joined_reports_iff (meaning : Meaning D) (statements : List String)
    (persistent : Bool) (world : World (Sqlite D)) (nonempty : statements ≠ [])
    (valid : ∀ sql ∈ statements, IsStatement sql) (calm : world.engine.script = [])
    (sound : SoundCache world.connection.statements) (total : TursoQueryResult)
    (last : World (Sqlite D))
    (executed : executeEach (sqlite meaning) persistent statements world =
      (.returned total, last)) :
    (execute (sqlite meaning)
        { sql := String.ofList (joined statements), persistent } world).1 = .returned total ↔
      statements.length = 1 ∨ meaning.Silent statements
        (clearPendingRollback (sqlite meaning) world).2.engine.database := by
  obtain ⟨sql, rest, rfl⟩ := List.exists_cons_of_ne_nil nonempty
  obtain ⟨cleared, isCleared, executed⟩ := executeEach_cleared executed
  have idle := clearPendingRollback_idle calm sound isCleared
  obtain ⟨handed, after, performed, _⟩ := executeEach_idle meaning valid persistent
    cleared.engine.database cleared idle total (by rw [executed])
  rw [execute_of_cleared isCleared, isCleared]
  cases rest with
  | nil =>
      rw [executeEach, bind_apply] at executed
      rw [joined, String.ofList_toList]
      refine iff_of_true ?_ (.inl rfl)
      cases first : execute (sqlite meaning) { sql, persistent } cleared with
      | mk outcome reached =>
          rw [first] at executed
          cases outcome with
          | failed error => cases executed
          | dropped => cases executed
          | returned result =>
              cases executed
              rfl
  | cons next rest =>
      have several : 2 ≤ (sql :: next :: rest).length := Nat.le_add_left 2 rest.length
      rw [execute_joined_iff several valid persistent performed idle]
      exact (or_iff_right (by simp)).symm

/-- A world at which a run may start. -/
def emptyWorld : World (Sqlite Nat) where
  connection := { statements := { caches := .roomy, capacity := 100 } }
  engine := { database := { content := 0 } }

theorem one_insert_is_reported :
    (execute (sqlite counter) { sql := String.ofList (joined ["INSERT INTO t VALUES (1)"]) }
      emptyWorld).1 = .returned ⟨1⟩ :=
  (joined_reports_iff counter ["INSERT INTO t VALUES (1)"] true emptyWorld (by decide)
    (by decide) rfl (.fresh .roomy 100) ⟨1⟩ _ rfl).mpr (.inl rfl)

/-- Two inserts change two rows one after the other, and none as a batch. -/
theorem two_inserts_are_not_reported :
    ¬∀ (statements : List String) (result total : TursoQueryResult),
      statements ≠ [] → (∀ sql ∈ statements, IsStatement sql) →
      (execute (sqlite counter) { sql := String.ofList (joined statements) } emptyWorld).1 =
        .returned result →
      (executeEach (sqlite counter) true statements emptyWorld).1 = .returned total →
      result = total := by
  intro same
  have two := same ["INSERT INTO t VALUES (1)", "INSERT INTO t VALUES (2)"] ⟨0⟩ ⟨2⟩
    (by decide) (by decide) (by decide) (by decide)
  cases two

end SqlxTurso
