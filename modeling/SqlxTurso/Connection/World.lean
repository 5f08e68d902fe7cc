import SqlxTurso.Library.Async
import SqlxTurso.Error
import SqlxTurso.Connection.State

/-!
# The engine and the world of a connection

The engine is outside of the adapter: it serves the requests that the adapter sends
and changes a state of its own.  A future may be dropped while it waits for an
answer, before or after the engine has served the request.  The world of a
connection keeps the connection, the engine's state and everything sent so far.
-/

namespace SqlxTurso

open Library

/-! ## Requests -/

/-- The transaction statements of SQLx.  A savepoint is named by its level. -/
inductive TransactionSql where
  | begin
  | commit
  | rollback
  | savepoint (level : Nat)
  | release (level : Nat)
  | rollbackTo (level : Nat)
  deriving DecidableEq, Repr

def beginAnsiTransactionSql (depth : Nat) : TransactionSql :=
  if depth = 0 then .begin else .savepoint depth

def commitAnsiTransactionSql (depth : Nat) : TransactionSql :=
  if depth = 1 then .commit else .release (depth - 1)

def rollbackAnsiTransactionSql (depth : Nat) : TransactionSql :=
  if depth = 1 then .rollback else .rollbackTo (depth - 1)

/-- A statement text: one of the transaction statements, or a text of the user. -/
inductive SqlStr where
  | transaction (sql : TransactionSql)
  | text (sql : String)
  deriving DecidableEq, Repr

abbrev Turso.Row := List Turso.Value

/-- The rows of a query: those that the engine will hand out, the error after them if
there is one, and the number of rows that the statement has changed. -/
structure Turso.Rows where
  rows : List Turso.Row
  failure : Option Turso.Error := none
  changes : Nat := 0
  deriving DecidableEq, Repr

inductive Request where
  | execute (sql : SqlStr)
  | executeBatch (sql : String)
  | prepare (sql : String)
  | query (statement : Turso.Statement) (arguments : Option (List Turso.Value))
  deriving DecidableEq, Repr

/-- What the engine answers when it does not refuse a request. -/
abbrev Request.Answer : Request → Type
  | .execute _ => Nat
  | .executeBatch _ => Unit
  | .prepare _ => Turso.Statement
  | .query _ _ => Turso.Rows

/-- The end of a wait for the engine. -/
inductive Reply (α : Type) where
  | answered (result : Except Turso.Error α)
  | dropped

/-- An engine with states in `σ`.  What it tells of the columns of a statement, it tells
without a wait. -/
structure Engine (σ : Type) where
  serve : (request : Request) → σ → Reply request.Answer × σ
  columns : Turso.Statement → σ → List Turso.Column

/-! ## The world -/

/-- What became of a request, as far as the adapter knows. -/
inductive Status where
  | done
  | refused (error : Turso.Error)
  | dropped
  deriving DecidableEq, Repr

structure Event where
  request : Request
  status : Status
  deriving DecidableEq, Repr

def Reply.status {α : Type} : Reply α → Status
  | .answered (.ok _) => .done
  | .answered (.error error) => .refused error
  | .dropped => .dropped

structure World (σ : Type) where
  connection : TursoConnection
  engine : σ
  sent : List Event := []

variable {σ : Type}

namespace World

abbrev transactionState (world : World σ) : TransactionState :=
  world.connection.transactionState

abbrev depth (world : World σ) : Nat := world.transactionState.depth

abbrev pending (world : World σ) : List Nat := world.transactionState.pendingRollbackDepths

abbrev failed (world : World σ) : Bool := world.transactionState.rollbackFailed

def onTransaction (change : TransactionState → TransactionState) (world : World σ) :
    World σ :=
  { world with
    connection := { world.connection with
      transactionState := change world.transactionState } }

def onConnection (change : TursoConnection → TursoConnection) (world : World σ) :
    World σ :=
  { world with connection := change world.connection }

/-- The world after a request was sent. -/
def send (world : World σ) (request : Request) (status : Status) (engine : σ) : World σ :=
  { world with engine, sent := world.sent ++ [⟨request, status⟩] }

section Fields

variable (world : World σ) (change : TransactionState → TransactionState)
  (request : Request) (status : Status) (engine : σ)

@[simp] theorem onTransaction_transactionState :
    (world.onTransaction change).transactionState = change world.transactionState := rfl

@[simp] theorem onTransaction_engine :
    (world.onTransaction change).engine = world.engine := rfl

@[simp] theorem send_engine : (world.send request status engine).engine = engine := rfl

@[simp] theorem send_sent :
    (world.send request status engine).sent = world.sent ++ [⟨request, status⟩] := rfl

end Fields

end World

/-- A function of the adapter. -/
abbrev Program (σ α : Type) : Type := Async (World σ) SqlxError α

/-- Send a request and wait for the answer. -/
def attempt (engine : Engine σ) (request : Request) :
    Program σ (Except Turso.Error request.Answer) := fun world =>
  match engine.serve request world.engine with
  | (.answered result, state) =>
      (.returned result, world.send request (Reply.answered result).status state)
  | (.dropped, state) => (.dropped, world.send request .dropped state)

/-- Send a request; an error of the engine is an error of the caller. -/
def call (engine : Engine σ) (request : Request) : Program σ request.Answer := do
  match ← attempt engine request with
  | .ok answer => pure answer
  | .error error => Async.fail (mapTursoError error)

/-- Change the transaction state. -/
def changeTransaction (change : TransactionState → TransactionState) : Program σ Unit :=
  Async.modify (World.onTransaction change)

open Async

variable {engine : Engine σ} {before : World σ → Prop}

theorem call_meets {request : Request}
    {after : Outcome SqlxError request.Answer → World σ → Prop}
    (done : ∀ world answer state, before world →
      engine.serve request world.engine = (.answered (.ok answer), state) →
      after (.returned answer) (world.send request .done state))
    (refused : ∀ world error state, before world →
      engine.serve request world.engine = (.answered (.error error), state) →
      after (.failed (mapTursoError error)) (world.send request (.refused error) state))
    (dropped : ∀ world state, before world →
      engine.serve request world.engine = (.dropped, state) →
      after .dropped (world.send request .dropped state)) :
    Meets before (call engine request) after := by
  intro world atWorld
  unfold call
  rw [bind_apply]
  unfold attempt
  cases served : engine.serve request world.engine with
  | mk reply state =>
      cases reply with
      | dropped => exact dropped world state atWorld served
      | answered result =>
          cases result with
          | ok answer => exact done world answer state atWorld served
          | error error => exact refused world error state atWorld served

/-- How a call ends when it is answered. -/
def Outcome.ofAnswer {α : Type} : Except Turso.Error α → Outcome SqlxError α
  | .ok answer => .returned answer
  | .error error => .failed (mapTursoError error)

theorem call_of_answered {request : Request} {world : World σ}
    {result : Except Turso.Error request.Answer} {state : σ}
    (served : engine.serve request world.engine = (.answered result, state)) :
    call engine request world =
      (Outcome.ofAnswer result,
        world.send request (Reply.answered result).status state) := by
  unfold call
  rw [bind_apply, attempt, served]
  cases result <;> rfl

end SqlxTurso
