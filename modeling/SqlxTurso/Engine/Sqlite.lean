import SqlxTurso.Connection.World
import SqlxTurso.Library.Savepoints
import SqlxTurso.Sql.Grammar

/-!
# An engine that follows SQLite's rules

The engine the adapter is written for, as far as its transactions go: one transaction
with named savepoints over a content of any type.  What the other statements do to
the content is a parameter.  A script decides for each statement whether it runs, is
refused, or is served for a future that is dropped.
-/

namespace SqlxTurso

open Library Async Sql

variable {D : Type}

/-! ## Statements -/

/-- A result, or the error that says why there is none. -/
def orError {α : Type} (result : Option α) (text : String) : Except Turso.Error α :=
  match result with
  | some value => .ok value
  | none => .error { variant := .error, text }

@[simp] theorem orError_eq_ok {α : Type} {result : Option α} {text : String} {value : α} :
    orError result text = .ok value ↔ result = some value := by
  cases result <;> simp [orError]

@[simp] theorem orError_eq_error {α : Type} {result : Option α} {text : String}
    {error : Turso.Error} :
    orError result text = .error error ↔
      result = none ∧ error = { variant := .error, text } := by
  cases result <;> simp [orError, eq_comm]

namespace TransactionSql

/-- What a transaction statement does to a database. -/
def perform (sql : TransactionSql) (database : Database D) :
    Except Turso.Error (Database D) :=
  match sql with
  | begin => orError database.begin "cannot start a transaction within a transaction"
  | commit => orError database.commit "cannot commit - no transaction is active"
  | rollback => orError database.rollback "cannot rollback - no transaction is active"
  | savepoint level => .ok (database.savepoint level)
  | release level => orError (database.release level) "no such savepoint"
  | rollbackTo level => orError (database.rollbackTo level) "no such savepoint"

end TransactionSql

/-- What a statement that ran gives. -/
structure Effect (D : Type) where
  rows : List Turso.Row
  changes : Nat
  content : D

/-- A statement that fails may have handed out rows before, but changes nothing. -/
structure Failure where
  rows : List Turso.Row := []
  error : Turso.Error

/-- What the engine makes of the text of one statement. -/
structure Meaning (D : Type) where
  describes : String → D → Except Turso.Error (List Turso.Column)
  runs : String → List Turso.Value → D → Except Failure (Effect D)
  controls : String → Option TransactionSql

/-- The error for a text that holds no statement. -/
def noStatement : Turso.Error where
  variant := .misuse
  text := "The supplied SQL string contains no statements"

namespace Meaning

variable (meaning : Meaning D)

def columns (statement : String) (content : D) : Except Turso.Error (List Turso.Column) :=
  if statement = "" then .error noStatement else meaning.describes statement content

def run (statement : String) (values : List Turso.Value) (content : D) :
    Except Failure (Effect D) :=
  if statement = "" then .error { error := noStatement }
  else meaning.runs statement values content

/-- The transaction statement that a statement is, if it is one. -/
def command (statement : String) : Option TransactionSql :=
  if statement = "" then none else meaning.controls statement

theorem run_empty (values : List Turso.Value) (content : D) :
    meaning.run "" values content = .error { error := noStatement } := if_pos rfl

theorem command_empty : meaning.command "" = none := if_pos rfl

variable {meaning} in
theorem command_of_noControls (noControls : ∀ statement, meaning.controls statement = none)
    (statement : String) : meaning.command statement = none := by
  rw [command, noControls, ite_self]

end Meaning

/-- The statements of a text. -/
def statementsOf (sql : String) : List String :=
  (filledPieces sql).map fun piece => String.ofList (piece.map Marked.char)

/-- The statement of a text that is executed as one. -/
def firstStatement (sql : String) : String := (statementsOf sql).head?.getD ""

/-- What a transaction statement gives. -/
def TransactionSql.outcome (sql : TransactionSql) (database : Database D) :
    Except Failure (List Turso.Row × Nat × Database D) :=
  match sql.perform database with
  | .ok database => .ok ([], 0, database)
  | .error error => .error { error }

theorem TransactionSql.perform_of_outcome {sql : TransactionSql} {database changed : Database D}
    {rows : List Turso.Row} {changes : Nat}
    (ran : sql.outcome database = .ok (rows, changes, changed)) :
    sql.perform database = .ok changed := by
  unfold TransactionSql.outcome at ran
  split at ran
  next performed =>
    cases ran
    exact performed
  next => cases ran

namespace Meaning

variable (meaning : Meaning D)

/-- Run one statement on a database. -/
def perform (statement : String) (arguments : List Turso.Value) (database : Database D) :
    Except Failure (List Turso.Row × Nat × Database D) :=
  match meaning.command statement with
  | some sql => sql.outcome database
  | none =>
      match meaning.run statement arguments database.content with
      | .ok effect =>
          .ok (effect.rows, effect.changes, { database with content := effect.content })
      | .error failure => .error failure

theorem perform_of_noCommand {statement : String}
    (noCommand : meaning.command statement = none) (arguments : List Turso.Value)
    (database : Database D) :
    meaning.perform statement arguments database =
      match meaning.run statement arguments database.content with
      | .ok effect =>
          .ok (effect.rows, effect.changes, { database with content := effect.content })
      | .error failure => .error failure := by
  rw [perform, noCommand]

def performSql (sql : SqlStr) (database : Database D) :
    Except Failure (List Turso.Row × Nat × Database D) :=
  match sql with
  | .transaction sql => sql.outcome database
  | .text sql => meaning.perform (firstStatement sql) [] database

/-- The transaction statement that a text is, if it is one. -/
def commandOf : SqlStr → Option TransactionSql
  | .transaction sql => some sql
  | .text sql => meaning.command (firstStatement sql)

theorem performSql_of_command {sql : SqlStr} {command : TransactionSql}
    (isCommand : meaning.commandOf sql = some command) (database : Database D) :
    meaning.performSql sql database = command.outcome database := by
  cases sql with
  | transaction sql =>
      cases isCommand
      rfl
  | text sql =>
      change meaning.command (firstStatement sql) = some command at isCommand
      rw [performSql, perform, isCommand]

/-- The content after a statement ran. -/
def contentAfter (statement : String) (values : List Turso.Value) (content : D) : Option D :=
  match meaning.run statement values content with
  | .ok effect => some effect.content
  | .error _ => none

/-- The content after all statements ran, one after the other. -/
def runAll (statements : List String) (content : D) : Option D :=
  statements.foldlM (fun content statement => meaning.contentAfter statement [] content) content

end Meaning

/-! ## The engine -/

/-- An error with which the engine refuses a statement, at once or after some rows were
read. -/
structure Refusal where
  error : Turso.Error
  afterRows : Option Nat := none

/-- What happens to the next statement. -/
inductive Verdict where
  | run
  | refuse (refusal : Refusal)
  | dropBefore
  | dropAfter

def Verdict.drops : Verdict → Bool
  | run => false
  | refuse _ => false
  | dropBefore => true
  | dropAfter => true

structure Sqlite (D : Type) where
  database : Database D
  script : List Verdict := []

/-- No statement is refused as if there were no transaction while there is one. -/
def Refusal.permitted (refusal : Refusal) (database : Database D) : Bool :=
  !(rollbackErrorIsInactiveTransaction refusal.error && database.transaction.isSome)

/-- Serve a statement under the next verdict of the script. -/
def underVerdict {α : Type}
    (perform : Option Refusal → Database D → Except Turso.Error α × Database D)
    (state : Sqlite D) : Reply α × Sqlite D :=
  let script := state.script.tail
  let answer (refusal : Option Refusal) :=
    let (result, database) := perform refusal state.database
    (Reply.answered result, { database, script : Sqlite D })
  match state.script.head?.getD .run with
  | .run => answer none
  | .refuse refusal => answer (if refusal.permitted state.database then refusal else none)
  | .dropBefore => (.dropped, { database := state.database, script })
  | .dropAfter => (.dropped, { database := (perform none state.database).2, script })

/-- The error for a statement that hands out a row where none is read. -/
def unexpectedRow : Turso.Error where
  variant := .misuse
  text := "unexpected row during execution"

/-- What is executed may not hand out rows. -/
def withoutRows :
    Except Failure (List Turso.Row × Nat × Database D) → Except Turso.Error (Nat × Database D)
  | .ok ([], changes, database) => .ok (changes, database)
  | .error { rows := [], error } => .error error
  | _ => .error unexpectedRow

@[simp] theorem withoutRows_eq_ok
    {result : Except Failure (List Turso.Row × Nat × Database D)} {changes : Nat}
    {database : Database D} :
    withoutRows result = .ok (changes, database) ↔ result = .ok ([], changes, database) := by
  rcases result with ⟨_ | ⟨row, rows⟩, error⟩ | ⟨_ | ⟨row, rows⟩, _, _⟩
  · simp [withoutRows]
  · simp [withoutRows]
  · simp [withoutRows]
  · simp [withoutRows]

/-- Execute a statement for the number of rows that it changes. -/
def performExecute
    (perform : Database D → Except Failure (List Turso.Row × Nat × Database D))
    (refusal : Option Refusal) (database : Database D) :
    Except Turso.Error Nat × Database D :=
  match refusal, withoutRows (perform database) with
  | some refusal, _ => (.error refusal.error, database)
  | none, .ok (changes, database) => (.ok changes, database)
  | none, .error error => (.error error, database)

namespace Meaning

variable (meaning : Meaning D)

def performPrepare (sql : String) (refusal : Option Refusal) (database : Database D) :
    Except Turso.Error Turso.Statement × Database D :=
  match refusal, meaning.columns (firstStatement sql) database.content with
  | some refusal, _ => (.error refusal.error, database)
  | none, .ok _ => (.ok { sql }, database)
  | none, .error error => (.error error, database)

def performQuery (statement : Turso.Statement) (arguments : List Turso.Value)
    (refusal : Option Refusal) (database : Database D) :
    Except Turso.Error Turso.Rows × Database D :=
  match refusal, meaning.perform (firstStatement statement.sql) arguments database with
  | some { error, afterRows := none }, _ => (.error error, database)
  | some { error, afterRows := some count }, .ok (rows, _, _) =>
      (.ok { rows := rows.take count, failure := some error }, database)
  | some { error, afterRows := some count }, .error failure =>
      (.ok { rows := failure.rows.take count, failure := some error }, database)
  | none, .ok (rows, changes, database) => (.ok { rows, changes }, database)
  | none, .error failure =>
      (.ok { rows := failure.rows, failure := some failure.error }, database)

/-- Serve the statements of a batch until one is not executed. -/
def serveBatch : List String → Sqlite D → Reply Unit × Sqlite D
  | [], state => (.answered (.ok ()), state)
  | statement :: rest, state =>
      match underVerdict (performExecute (meaning.perform statement [])) state with
      | (.answered (.ok _), state) => serveBatch rest state
      | (.answered (.error error), state) => (.answered (.error error), state)
      | (.dropped, state) => (.dropped, state)

end Meaning

/-- The engine for a meaning of its statements. -/
def sqlite (meaning : Meaning D) : Engine (Sqlite D) where
  serve request :=
    match request with
    | .execute sql => underVerdict (performExecute (meaning.performSql sql))
    | .executeBatch sql => meaning.serveBatch (statementsOf sql)
    | .prepare sql => underVerdict (meaning.performPrepare sql)
    | .query statement arguments =>
        underVerdict (meaning.performQuery statement (arguments.getD []))
  columns statement state :=
    ((meaning.columns (firstStatement statement.sql) state.database.content).toOption).getD []

/-- A database that counts the statements that are run on it. -/
def counter : Meaning Nat where
  describes _ _ := .ok []
  runs _ _ content := .ok { rows := [], changes := 1, content := content + 1 }
  controls _ := none

/-! ## What a request can do -/

section UnderVerdict

variable {α : Type}
  {perform : Option Refusal → Database D → Except Turso.Error α × Database D}
  {state state' : Sqlite D} {reply : Reply α}

/-- A refusal, if there is one, that the database permits. -/
def Permitted (refusal : Option Refusal) (database : Database D) : Prop :=
  ∀ reason, refusal = some reason →
    rollbackErrorIsInactiveTransaction reason.error = true → database.transaction = none

theorem permitted_none (database : Database D) : Permitted none database :=
  fun _ => nofun

theorem permitted_of_permitted {refusal : Refusal} {database : Database D}
    (permitted : refusal.permitted database = true) : Permitted (some refusal) database := by
  intro reason same inactive
  cases same
  cases transaction : database.transaction with
  | none => rfl
  | some _ => simp [Refusal.permitted, inactive, transaction] at permitted

/-- A statement is answered under a permitted refusal or under none, or its future is
dropped before or after the statement ran. -/
theorem underVerdict_cases (served : underVerdict perform state = (reply, state')) :
    (∃ refusal, Permitted refusal state.database ∧
      reply = .answered (perform refusal state.database).1 ∧
      state' = { database := (perform refusal state.database).2
                 script := state.script.tail }) ∨
    (state.script.head? = some .dropBefore ∧ reply = .dropped ∧
      state' = { database := state.database, script := state.script.tail }) ∨
    (state.script.head? = some .dropAfter ∧ reply = .dropped ∧
      state' = { database := (perform none state.database).2
                 script := state.script.tail }) := by
  unfold underVerdict at served
  cases next : state.script.head? with
  | none =>
      rw [next] at served
      cases served
      exact .inl ⟨none, permitted_none _, rfl, rfl⟩
  | some verdict =>
      rw [next] at served
      cases verdict with
      | run =>
          cases served
          exact .inl ⟨none, permitted_none _, rfl, rfl⟩
      | refuse refusal =>
          by_cases permitted : refusal.permitted state.database = true
          · simp only [Option.getD_some, if_pos permitted] at served
            cases served
            exact .inl ⟨some refusal, permitted_of_permitted permitted, rfl, rfl⟩
          · simp only [Option.getD_some, if_neg permitted] at served
            cases served
            exact .inl ⟨none, permitted_none _, rfl, rfl⟩
      | dropBefore =>
          cases served
          exact .inr (.inl ⟨rfl, rfl, rfl⟩)
      | dropAfter =>
          cases served
          exact .inr (.inr ⟨rfl, rfl, rfl⟩)

/-- At the end of the script a statement runs. -/
theorem underVerdict_nil (ended : state.script = []) :
    underVerdict perform state =
      (.answered (perform none state.database).1,
        { database := (perform none state.database).2, script := [] }) := by
  unfold underVerdict
  rw [ended]
  rfl

/-- The script drops no future. -/
def NeverDrops (state : Sqlite D) : Prop := ∀ verdict ∈ state.script, verdict.drops = false

theorem NeverDrops.tail (never : NeverDrops state) (database : Database D) :
    NeverDrops ({ database, script := state.script.tail } : Sqlite D) :=
  fun verdict inTail => never verdict (List.mem_of_mem_tail inTail)

theorem NeverDrops.head (never : NeverDrops state) {verdict : Verdict}
    (first : state.script.head? = some verdict) : verdict.drops = false :=
  never verdict (List.mem_of_mem_head? (Option.mem_def.mpr first))

/-- Where no future is dropped, a statement is answered. -/
theorem underVerdict_answers (never : NeverDrops state)
    (served : underVerdict perform state = (reply, state')) :
    NeverDrops state' ∧ ∃ refusal, Permitted refusal state.database ∧
      reply = .answered (perform refusal state.database).1 ∧
      state'.database = (perform refusal state.database).2 := by
  rcases underVerdict_cases served with answered | dropped | dropped
  · rcases answered with ⟨refusal, permitted, isReply, rfl⟩
    exact ⟨never.tail _, refusal, permitted, isReply, rfl⟩
  · cases never.head dropped.1
  · cases never.head dropped.1

end UnderVerdict

/-! ## What becomes of a statement -/

variable {meaning : Meaning D}

/-- A statement that is executed runs without handing out a row, or changes nothing. -/
theorem performExecute_cases (sql : SqlStr) (refusal : Option Refusal)
    (database : Database D) :
    (∃ changes changed,
      performExecute (meaning.performSql sql) refusal database = (.ok changes, changed) ∧
        meaning.performSql sql database = .ok ([], changes, changed)) ∨
      ∃ error,
        performExecute (meaning.performSql sql) refusal database = (.error error, database) := by
  unfold performExecute
  cases refusal with
  | some refusal => exact .inr ⟨_, rfl⟩
  | none =>
      cases executed : withoutRows (meaning.performSql sql database) with
      | ok result => exact .inl ⟨_, _, rfl, withoutRows_eq_ok.mp executed⟩
      | error error => exact .inr ⟨_, rfl⟩

/-- A statement that is answered with success has run. -/
theorem performed_of_served {sql : SqlStr} {state state' : Sqlite D} {changes : Nat}
    (served : (sqlite meaning).serve (.execute sql) state = (.answered (.ok changes), state')) :
    meaning.performSql sql state.database = .ok ([], changes, state'.database) := by
  change underVerdict (performExecute (meaning.performSql sql)) state = _ at served
  rcases underVerdict_cases served with ⟨refusal, _, isReply, rfl⟩ | lost | lost
  · rcases performExecute_cases sql refusal state.database with
      ⟨_, changed, isOk, performed⟩ | ⟨error, isError⟩
    · rw [isOk] at isReply
      cases isReply
      rw [isOk]
      exact performed
    · rw [isError] at isReply
      cases isReply
  · cases lost.2.1
  · cases lost.2.1

/-- A statement of an engine that drops no future runs, or is refused without a change. -/
theorem callExecute_answers {sql : SqlStr} {before : World (Sqlite D) → Prop}
    {after : Outcome SqlxError Nat → World (Sqlite D) → Prop}
    (never : ∀ world, before world → NeverDrops world.engine)
    (ran : ∀ world state changes, before world → NeverDrops state →
      meaning.performSql sql world.engine.database = .ok ([], changes, state.database) →
      after (.returned changes) (world.send (.execute sql) .done state))
    (refused : ∀ world state error, before world → NeverDrops state →
      state.database = world.engine.database →
      after (.failed (mapTursoError error)) (world.send (.execute sql) (.refused error) state)) :
    Meets before (call (sqlite meaning) (.execute sql)) after := by
  have answers : ∀ (world : World (Sqlite D)) (reply : Reply Nat) state, before world →
      (sqlite meaning).serve (.execute sql) world.engine = (reply, state) →
      NeverDrops state ∧ ∃ refusal, reply = .answered
        (performExecute (meaning.performSql sql) refusal world.engine.database).1 ∧
        state.database =
          (performExecute (meaning.performSql sql) refusal world.engine.database).2 := by
    intro world reply state atWorld served
    change underVerdict (performExecute (meaning.performSql sql)) world.engine = _ at served
    obtain ⟨never', refusal, _, isReply, changed⟩ :=
      underVerdict_answers (never world atWorld) served
    exact ⟨never', refusal, isReply, changed⟩
  apply call_meets
  · intro world changes state atWorld served
    obtain ⟨never', _⟩ := answers world _ state atWorld served
    exact ran world state changes atWorld never' (performed_of_served served)
  · intro world error state atWorld served
    obtain ⟨never', refusal, isReply, changed⟩ := answers world _ state atWorld served
    refine refused world state error atWorld never' ?_
    rcases performExecute_cases sql refusal world.engine.database with
      ⟨_, _, isOk, _⟩ | ⟨_, isError⟩
    · rw [isOk] at isReply
      cases isReply
    · rw [changed, isError]
  · intro world state atWorld served
    obtain ⟨_, _, isReply, _⟩ := answers world _ state atWorld served
    cases isReply

end SqlxTurso
