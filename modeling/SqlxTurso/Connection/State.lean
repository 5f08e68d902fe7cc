import SqlxTurso.Value

/-!
# The state of a connection

A connection keeps a cache of prepared statements and its transaction state: the
depth of the open handles, the levels of dropped handles that still have to be
rolled back, and whether such a rollback has failed.
-/

namespace SqlxTurso

/-! ## Transaction state -/

structure TransactionState where
  depth : Nat := 0
  pendingRollbackDepths : List Nat := []
  rollbackFailed : Bool := false
  deriving DecidableEq, Repr

namespace TransactionState

def incrementDepth (state : TransactionState) : TransactionState :=
  { state with depth := state.depth + 1 }

def decrementDepth (state : TransactionState) : TransactionState :=
  if state.depth > 0 then { state with depth := state.depth - 1 } else state

def markRollbackNeeded (state : TransactionState) : TransactionState :=
  if state.depth = 0 then state
  else
    decrementDepth
      { state with
        pendingRollbackDepths := state.pendingRollbackDepths ++ [state.depth] }

def popPendingRollback (state : TransactionState) : Option Nat × TransactionState :=
  (state.pendingRollbackDepths.head?,
    { state with pendingRollbackDepths := state.pendingRollbackDepths.tail })

def markRollbackFailed (state : TransactionState) : TransactionState :=
  { state with rollbackFailed := true, pendingRollbackDepths := [] }

variable (state : TransactionState)

@[simp] theorem incrementDepth_depth : state.incrementDepth.depth = state.depth + 1 := rfl

@[simp] theorem decrementDepth_depth : state.decrementDepth.depth = state.depth - 1 := by
  unfold decrementDepth
  split <;> simp_all

@[simp] theorem decrementDepth_pending :
    state.decrementDepth.pendingRollbackDepths = state.pendingRollbackDepths := by
  unfold decrementDepth
  split <;> rfl

@[simp] theorem decrementDepth_failed :
    state.decrementDepth.rollbackFailed = state.rollbackFailed := by
  unfold decrementDepth
  split <;> rfl

@[simp] theorem markRollbackNeeded_failed :
    state.markRollbackNeeded.rollbackFailed = state.rollbackFailed := by
  unfold markRollbackNeeded
  split <;> simp

@[simp] theorem markRollbackNeeded_depth :
    state.markRollbackNeeded.depth = state.depth - 1 := by
  unfold markRollbackNeeded
  split
  next atZero => simp [atZero]
  next => simp

theorem markRollbackNeeded_pending (open_ : 0 < state.depth) :
    state.markRollbackNeeded.pendingRollbackDepths =
      state.pendingRollbackDepths ++ [state.depth] := by
  unfold markRollbackNeeded
  rw [if_neg (Nat.pos_iff_ne_zero.mp open_)]
  simp

theorem markRollbackNeeded_of_depth_zero (closed : state.depth = 0) :
    state.markRollbackNeeded = state := by
  unfold markRollbackNeeded
  rw [if_pos closed]

end TransactionState

/-- The depths of a number of levels above a depth, the innermost first. -/
def levelsAbove (depth : Nat) : Nat → List Nat
  | 0 => []
  | count + 1 => (depth + count + 1) :: levelsAbove depth count

theorem mem_levelsAbove {depth count level : Nat} :
    level ∈ levelsAbove depth count ↔ depth < level ∧ level ≤ depth + count := by
  induction count with
  | zero => simp [levelsAbove]
  | succ count ih =>
      rw [levelsAbove, List.mem_cons, ih]
      omega

/-- Leaving one more level puts it at the end. -/
theorem levelsAbove_succ (depth count : Nat) :
    levelsAbove depth (count + 1) = levelsAbove (depth + 1) count ++ [depth + 1] := by
  induction count with
  | zero => rfl
  | succ count ih =>
      rw [levelsAbove, ih, levelsAbove, List.cons_append]
      congr 1
      omega

/-- Where the queue holds the levels above the depth, it does so after a handle is dropped,
and there are as many levels as before. -/
theorem TransactionState.markRollbackNeeded_levels (state : TransactionState) {count : Nat}
    (ordered : state.pendingRollbackDepths = levelsAbove state.depth count) :
    ∃ more, state.markRollbackNeeded.pendingRollbackDepths =
        levelsAbove state.markRollbackNeeded.depth more ∧
      state.markRollbackNeeded.depth + more = state.depth + count := by
  by_cases closed : state.depth = 0
  · rw [markRollbackNeeded_of_depth_zero state closed]
    exact ⟨count, ordered, rfl⟩
  · have isOpen : 0 < state.depth := Nat.pos_of_ne_zero closed
    refine ⟨count + 1, ?_, ?_⟩
    · rw [markRollbackNeeded_pending state isOpen, markRollbackNeeded_depth, levelsAbove_succ,
        Nat.sub_add_cancel isOpen, ordered]
    · rw [markRollbackNeeded_depth]
      omega

theorem length_levelsAbove (depth count : Nat) : (levelsAbove depth count).length = count := by
  induction count with
  | zero => rfl
  | succ count ih => exact congrArg Nat.succ ih

/-! ## Prepared statements -/

/-- A result column as the engine describes it. -/
structure Turso.Column where
  name : String
  declType : Option String
  deriving DecidableEq, Repr

/-- A statement prepared by the engine, with the number that the engine knows it by.  Its
columns are asked from the engine each time. -/
structure Turso.Statement where
  sql : String
  handle : Nat := 0
  deriving DecidableEq, Repr

structure TursoColumn where
  ordinal : Nat
  name : String
  typeInfo : TursoTypeInfo
  deriving DecidableEq, Repr

def TursoColumn.fromTurso (ordinal : Nat) (column : Turso.Column) : TursoColumn where
  ordinal := ordinal
  name := column.name
  typeInfo := (column.declType.map TursoTypeInfo.mk).getD .null

def tursoColumns (columns : List Turso.Column) : List TursoColumn :=
  columns.mapIdx TursoColumn.fromTurso

/-- Statement metadata, with the engine's statement if there is one. -/
structure TursoStatement where
  sql : String
  columns : List TursoColumn
  raw : Option Turso.Statement
  deriving DecidableEq, Repr

def TursoStatement.withRaw (sql : String) (columns : List TursoColumn)
    (raw : Turso.Statement) : TursoStatement :=
  { sql, columns, raw := some raw }

/-- A call on a cache of statements. -/
inductive CacheCall where
  | getMut (sql : String)
  | insert (sql : String) (statement : TursoStatement)
  | clear

/-- SQLx's caches of statements, by what a cache of a capacity holds after the calls that
were made on it, the last call first.  Looking a statement up loses none.  Inserting one may
lose others, and it is not told which. -/
structure StatementCaches where
  held : Nat → List CacheCall → String → Option TursoStatement
  new : ∀ capacity sql, held capacity [] sql = none
  getMut : ∀ capacity calls used sql,
    held capacity (.getMut used :: calls) sql = held capacity calls sql
  inserted : ∀ {capacity} calls sql statement, 0 < capacity →
    held capacity (.insert sql statement :: calls) sql = some statement
  others : ∀ {capacity calls sql statement other found}, other ≠ sql →
    held capacity (.insert sql statement :: calls) other = some found →
    held capacity calls other = some found
  clear : ∀ capacity calls sql, held capacity (.clear :: calls) sql = none

/-- A cache, with the calls that were made on it. -/
structure StatementCache where
  caches : StatementCaches
  capacity : Nat
  calls : List CacheCall := []

namespace StatementCache

def isEnabled (cache : StatementCache) : Bool := cache.capacity > 0

def call (cache : StatementCache) (next : CacheCall) : StatementCache :=
  { cache with calls := next :: cache.calls }

/-- The statement that the cache holds for a text. -/
def held (cache : StatementCache) (sql : String) : Option TursoStatement :=
  cache.caches.held cache.capacity cache.calls sql

def getMut (cache : StatementCache) (sql : String) :
    Option TursoStatement × StatementCache :=
  (cache.held sql, cache.call (.getMut sql))

def insert (cache : StatementCache) (sql : String) (statement : TursoStatement) :
    StatementCache :=
  cache.call (.insert sql statement)

def clear (cache : StatementCache) : StatementCache := cache.call .clear

end StatementCache

/-- The statement that was inserted last for a text since the cache was cleared. -/
def lastInserted : List CacheCall → String → Option TursoStatement
  | [], _ => none
  | .getMut _ :: calls, sql => lastInserted calls sql
  | .insert used statement :: calls, sql =>
      if sql = used then some statement else lastInserted calls sql
  | .clear :: _, _ => none

/-- Caches with room for all statements. -/
def StatementCaches.roomy : StatementCaches where
  held _ := lastInserted
  new _ _ := rfl
  getMut _ _ _ _ := rfl
  inserted _ _ _ _ := if_pos rfl
  others differ isHeld := (if_neg differ).symm.trans isHeld
  clear _ _ _ := rfl

/-! ## Connections -/

/-- A connection, without the options it was made with and the engine's handle. -/
structure TursoConnection where
  statements : StatementCache
  transactionState : TransactionState := {}

namespace TursoConnection

def cachedStatement (connection : TursoConnection) (sql : String) :
    Option TursoStatement × TursoConnection :=
  let (statement, statements) := connection.statements.getMut sql
  (statement, { connection with statements })

def cacheStatement (connection : TursoConnection) (sql : String)
    (statement : TursoStatement) : TursoConnection :=
  if connection.statements.isEnabled then
    { connection with statements := connection.statements.insert sql statement }
  else
    connection

@[simp] theorem cachedStatement_transactionState (connection : TursoConnection)
    (sql : String) :
    (connection.cachedStatement sql).2.transactionState = connection.transactionState := rfl

@[simp] theorem cacheStatement_transactionState (connection : TursoConnection)
    (sql : String) (statement : TursoStatement) :
    (connection.cacheStatement sql statement).transactionState =
      connection.transactionState := by
  unfold cacheStatement
  split <;> rfl

end TursoConnection

end SqlxTurso
