import SqlxTurso.Arguments
import SqlxTurso.Sql.Scanner
import SqlxTurso.Connection.Fetch
import SqlxTurso.Connection.Transaction

/-!
# The executor

A query text is inspected before it reaches the engine.  A text that may hold several
statements is executed as a batch, which takes no arguments and returns no rows; any
other text is prepared as one statement and queried.
-/

namespace SqlxTurso

open Library Async Sql

variable {σ : Type} (engine : Engine σ)

def executeBatchSql (sql : String) : Program σ (List FetchItem) := do
  let _ ← call engine (.executeBatch sql)
  pure [.queryResult {}]

def prepareSql (sql : String) : Program σ TursoStatement := do
  let cached ← Async.read fun world => (world.connection.cachedStatement sql).1
  Async.modify (World.onConnection fun connection => (connection.cachedStatement sql).2)
  match cached with
  | some statement => pure statement
  | none => do
      let raw ← call engine (.prepare sql)
      let columns ← Async.read fun world => tursoColumns (engine.columns raw world.engine)
      let statement := TursoStatement.withRaw sql columns raw
      Async.modify
        (World.onConnection fun connection => connection.cacheStatement sql statement)
      pure statement

def prepareQueryStatement (sql : String) (persistent : Bool) :
    Program σ Turso.Statement :=
  if persistent then do
    let statement ← prepareSql engine sql
    match statement.raw with
    | some raw => pure raw
    | none => call engine (.prepare sql)
  else
    call engine (.prepare sql)

/-- Prepare and query one statement. -/
def querySql (sql : String) (persistent : Bool) (arguments : Option TursoArguments) :
    Program σ FetchStream := do
  let statement ← prepareQueryStatement engine sql persistent
  let columns ← Async.read fun world => tursoColumns (engine.columns statement world.engine)
  let rows ← call engine (.query statement (arguments.map TursoArguments.intoTursoValues))
  pure (.unfolded (.rows rows columns none))

def fetchManySql (sql : String) (persistent : Bool) (arguments : Option TursoArguments) :
    Program σ FetchStream := do
  clearPendingRollback engine
  let inspection := inspectSql sql
  if inspection.mayContainMultipleStatements then
    if arguments.isSome then
      Async.fail (unsupportedSqlx "Turso SQLx batch query arguments")
    else do
      let items ← executeBatchSql engine sql
      pure (.batch items)
  else
    match arguments, inspection.unsupportedNamedPlaceholder with
    | some _, some placeholder =>
        Async.fail (unsupportedSqlx
          ("Turso SQLx non-integer named placeholder `" ++ placeholder ++ "`"))
    | _, _ => querySql engine sql persistent arguments

/-- What a fetch does once the queue is cleared. -/
def fetchCleared (sql : String) (persistent : Bool) (arguments : Option TursoArguments) :
    Program σ FetchStream :=
  let inspection := inspectSql sql
  if inspection.mayContainMultipleStatements then
    if arguments.isSome then
      Async.fail (unsupportedSqlx "Turso SQLx batch query arguments")
    else do
      let items ← executeBatchSql engine sql
      pure (.batch items)
  else
    match arguments, inspection.unsupportedNamedPlaceholder with
    | some _, some placeholder =>
        Async.fail (unsupportedSqlx
          ("Turso SQLx non-integer named placeholder `" ++ placeholder ++ "`"))
    | _, _ => querySql engine sql persistent arguments

theorem fetchManySql_eq (sql : String) (persistent : Bool)
    (arguments : Option TursoArguments) :
    fetchManySql engine sql persistent arguments =
      clearPendingRollback engine >>= fun _ => fetchCleared engine sql persistent arguments :=
  rfl

/-- A text that is executed as one statement is queried, unless one of its placeholders is
not supported. -/
theorem fetchCleared_cases {sql : String}
    (single : (inspectSql sql).mayContainMultipleStatements = false) (persistent : Bool)
    (arguments : Option TursoArguments) :
    (∃ error, fetchCleared engine sql persistent arguments = Async.fail error) ∨
      fetchCleared engine sql persistent arguments =
        querySql engine sql persistent arguments := by
  unfold fetchCleared
  dsimp only
  rw [single]
  cases arguments with
  | none => exact .inr rfl
  | some arguments =>
      cases (inspectSql sql).unsupportedNamedPlaceholder with
      | none => exact .inr rfl
      | some placeholder => exact .inl ⟨_, rfl⟩

/-! ## The operations of a connection -/

/-- A query with its arguments, or the error of encoding them. -/
structure Query where
  sql : String
  persistent : Bool := true
  arguments : Except String (Option TursoArguments) := .ok none

def fetchMany (query : Query) : Program σ FetchStream :=
  match query.arguments with
  | .error error => Async.fail (.encode error)
  | .ok arguments => fetchManySql engine query.sql query.persistent arguments

/-- The result of a stream, or its error. -/
def liftExcept {α : Type} : Except SqlxError α → Program σ α
  | .ok value => pure value
  | .error error => Async.fail error

def fetchOptional (query : Query) : Program σ (Option TursoRow) := do
  let stream ← fetchMany engine query
  liftExcept stream.firstRow

/-- Run a query to its end for its query result. -/
def execute (query : Query) : Program σ TursoQueryResult := do
  let stream ← fetchMany engine query
  liftExcept stream.queryResult

def prepareWith (sql : String) : Program σ TursoStatement := prepareSql engine sql

structure Describe where
  columns : List TursoColumn
  nullable : List (Option Bool)
  deriving DecidableEq, Repr

def describe (sql : String) : Program σ Describe := do
  let statement ← prepareSql engine sql
  pure { columns := statement.columns, nullable := statement.columns.map fun _ => none }

def ping : Program σ Unit := pure ()

variable {engine} {sql : String}

/-- A text in which the scanner sees nothing is queried as one statement. -/
theorem fetchCleared_of_inspected (inspected : inspectSql sql = {}) (persistent : Bool)
    (arguments : Option TursoArguments) :
    fetchCleared engine sql persistent arguments =
      querySql engine sql persistent arguments := by
  unfold fetchCleared
  dsimp only
  rw [inspected]
  cases arguments <;> rfl

/-- Without arguments no placeholder is refused. -/
theorem fetchCleared_of_single
    (single : (inspectSql sql).mayContainMultipleStatements = false) (persistent : Bool) :
    fetchCleared engine sql persistent none = querySql engine sql persistent none := by
  unfold fetchCleared
  dsimp only
  rw [single]
  rfl

/-- A text in which the scanner sees several statements is executed as a batch. -/
theorem fetchCleared_of_several
    (several : (inspectSql sql).mayContainMultipleStatements = true) (persistent : Bool) :
    fetchCleared engine sql persistent none =
      executeBatchSql engine sql >>= fun items => pure (.batch items) := by
  unfold fetchCleared
  dsimp only
  rw [several]
  rfl

variable (engine) in
theorem fetchCleared_of_seen (persistent : Bool) (arguments : TursoArguments)
    (seen : (inspectSql sql).mayContainMultipleStatements = true ∨
      (inspectSql sql).unsupportedNamedPlaceholder.isSome = true) :
    ∃ surface, fetchCleared engine sql persistent (some arguments) =
      Async.fail (unsupportedSqlx surface) := by
  unfold fetchCleared
  dsimp only
  cases several : (inspectSql sql).mayContainMultipleStatements with
  | true => exact ⟨_, rfl⟩
  | false =>
      rw [several] at seen
      cases named : (inspectSql sql).unsupportedNamedPlaceholder with
      | some placeholder => exact ⟨_, rfl⟩
      | none =>
          rw [named] at seen
          exact absurd seen (by decide)

theorem inspected_or_seen (sql : String) :
    inspectSql sql = {} ∨ (inspectSql sql).mayContainMultipleStatements = true ∨
      (inspectSql sql).unsupportedNamedPlaceholder.isSome = true := by
  cases inspectSql sql with
  | mk several named => cases several <;> cases named <;> simp

theorem fetchManySql_of_inspected (inspected : inspectSql sql = {}) (persistent : Bool)
    (arguments : Option TursoArguments) :
    fetchManySql engine sql persistent arguments =
      clearPendingRollback engine >>= fun _ => querySql engine sql persistent arguments := by
  rw [fetchManySql_eq, fetchCleared_of_inspected inspected]

/-! ## The statement cache -/

/-- A statement that was prepared, of which `holds` tells how it was for its text. -/
def PreparedAs (holds : String → Turso.Statement → Prop) (sql : String)
    (statement : TursoStatement) : Prop :=
  ∃ raw, statement.raw = some raw ∧ holds sql raw

/-- Every statement in the cache was prepared as told for the text it is found by. -/
def CacheOf (holds : String → Turso.Statement → Prop) (cache : StatementCache) : Prop :=
  ∀ sql statement, cache.held sql = some statement → PreparedAs holds sql statement

/-- A statement that was prepared for a text. -/
def PreparedFor (sql : String) (statement : TursoStatement) : Prop :=
  ∃ raw, statement.raw = some raw ∧ raw.sql = sql

/-- Every statement in the cache was prepared for the text it is found by. -/
def SoundCache (cache : StatementCache) : Prop :=
  ∀ sql statement, cache.held sql = some statement → PreparedFor sql statement

namespace StatementCache

variable (caches : StatementCaches) (capacity : Nat) (cache : StatementCache) (sql used : String)

@[simp] theorem held_new : held { caches, capacity } sql = none := caches.new capacity sql

@[simp] theorem held_getMut : (cache.getMut used).2.held sql = cache.held sql :=
  cache.caches.getMut cache.capacity cache.calls used sql

@[simp] theorem held_clear : cache.clear.held sql = none :=
  cache.caches.clear cache.capacity cache.calls sql

/-- What is held after an insertion was held before, or was inserted. -/
theorem held_insert {cache : StatementCache} {sql used : String}
    {statement found : TursoStatement} (isEnabled : cache.isEnabled = true)
    (isHeld : (cache.insert used statement).held sql = some found) :
    (sql = used ∧ found = statement) ∨ cache.held sql = some found := by
  by_cases same : sql = used
  · subst same
    have inserted := cache.caches.inserted cache.calls sql statement (of_decide_eq_true isEnabled)
    exact .inl ⟨rfl, Option.some.inj (isHeld.symm.trans inserted)⟩
  · exact .inr (cache.caches.others same isHeld)

end StatementCache

namespace CacheOf

variable {holds : String → Turso.Statement → Prop} {cache : StatementCache} {sql : String}

theorem fresh (caches : StatementCaches) (capacity : Nat) :
    CacheOf holds { caches, capacity } := by
  intro sql statement isHeld
  rw [StatementCache.held_new] at isHeld
  cases isHeld

theorem found (cached : CacheOf holds cache) {statement : TursoStatement}
    (isFound : (cache.getMut sql).1 = some statement) : PreparedAs holds sql statement :=
  cached sql statement isFound

theorem getMut (cached : CacheOf holds cache) : CacheOf holds (cache.getMut sql).2 := by
  intro key statement isHeld
  rw [StatementCache.held_getMut] at isHeld
  exact cached key statement isHeld

theorem insert (cached : CacheOf holds cache) (isEnabled : cache.isEnabled = true)
    {statement : TursoStatement} (prepared : PreparedAs holds sql statement) :
    CacheOf holds (cache.insert sql statement) := by
  intro key found isHeld
  rcases StatementCache.held_insert isEnabled isHeld with ⟨rfl, rfl⟩ | wasHeld
  · exact prepared
  · exact cached key found wasHeld

end CacheOf

theorem SoundCache.fresh (caches : StatementCaches) (capacity : Nat) :
    SoundCache { caches, capacity } :=
  CacheOf.fresh caches capacity

section Preparing

variable {invariant : World σ → Prop} {holds : String → Turso.Statement → Prop} {β : Type}
  (after : Outcome SqlxError β → World σ → Prop)
  (cached : ∀ world, invariant world → CacheOf holds world.connection.statements)
  (onConnection : ∀ world change, invariant world →
    (change world.connection).transactionState = world.transactionState →
    CacheOf holds (change world.connection).statements →
    invariant (world.onConnection change))
  (prepares : Meets invariant (call engine (.prepare sql))
    (Onward (fun raw world => invariant world ∧ holds sql raw) after))

include cached onConnection prepares

/-- Preparing keeps what changes of the cache and the call to the engine keep, and ends
early only where that call does. -/
theorem prepareSql_onward :
    Meets invariant (prepareSql engine sql)
      (Onward (fun statement world => invariant world ∧ PreparedAs holds sql statement)
        after) := by
  refine Meets.read fun looked => Meets.modifyThen (fun world => invariant world ∧
    ∀ statement, looked = some statement → PreparedAs holds sql statement) ?_ ?_
  · rintro world ⟨atWorld, rfl⟩
    have cache := cached world atWorld
    exact ⟨onConnection world _ atWorld (TursoConnection.cachedStatement_transactionState _ _)
      cache.getMut, fun statement isCached => cache.found isCached⟩
  · cases looked with
    | some statement =>
        apply Meets.pure
        rintro world ⟨atWorld, prepared⟩
        exact ⟨atWorld, prepared statement rfl⟩
    | none =>
        refine Meets.bindOnward (prepares.weaken _ fun _ atStart => atStart.1) fun raw => ?_
        refine Meets.read fun columns => Meets.modifyThen
          (fun world => invariant world ∧ holds sql raw) ?_ (Meets.pure ?_)
        · rintro world ⟨⟨atWorld, prepared⟩, _⟩
          refine ⟨onConnection world _ atWorld
            (TursoConnection.cacheStatement_transactionState _ _ _) ?_, prepared⟩
          unfold TursoConnection.cacheStatement
          split
          next isEnabled => exact (cached world atWorld).insert isEnabled ⟨raw, rfl, prepared⟩
          next => exact cached world atWorld
        · exact fun world ⟨atWorld, prepared⟩ => ⟨atWorld, raw, rfl, prepared⟩

theorem prepareQueryStatement_onward (persistent : Bool) :
    Meets invariant (prepareQueryStatement engine sql persistent)
      (Onward (fun raw world => invariant world ∧ holds sql raw) after) := by
  cases persistent with
  | false => exact prepares
  | true =>
      refine Meets.bindOnward (prepareSql_onward after cached onConnection prepares)
        fun statement => ?_
      rintro world ⟨atWorld, raw, isRaw, prepared⟩
      rw [isRaw]
      exact ⟨atWorld, prepared⟩

end Preparing

section Keeping

variable {invariant : World σ → Prop}
  (sound : ∀ world, invariant world → SoundCache world.connection.statements)
  (onConnection : ∀ world change, invariant world →
    (change world.connection).transactionState = world.transactionState →
    SoundCache (change world.connection).statements →
    invariant (world.onConnection change))
  (prepares : Meets invariant (call engine (.prepare sql))
    (Keeping invariant fun raw : Turso.Statement => raw.sql = sql))

include sound onConnection prepares

theorem prepareSql_keeping :
    Meets invariant (prepareSql engine sql) (Keeping invariant (PreparedFor sql)) :=
  (prepareSql_onward (fun (_ : Outcome SqlxError Unit) => invariant) sound onConnection
    (prepares.imp fun _ _ => keeping_iff_onward.mp)).imp fun _ _ => keeping_iff_onward.mpr

theorem prepareQueryStatement_keeping (persistent : Bool) :
    Meets invariant (prepareQueryStatement engine sql persistent)
      (Keeping invariant fun raw : Turso.Statement => raw.sql = sql) :=
  (prepareQueryStatement_onward (fun (_ : Outcome SqlxError Unit) => invariant) sound
    onConnection (prepares.imp fun _ _ => keeping_iff_onward.mp) persistent).imp
    fun _ _ => keeping_iff_onward.mpr

end Keeping

end SqlxTurso
