import SqlxTurso.Connection.Executor
import SqlxTurso.Engine.Sqlite
import SqlxTurso.Sql.Variables

/-!
# Queries with bound arguments

A query that comes with an argument buffer is turned away where the scanner sees several
statements or a placeholder that is no integer.  Whether that is right depends on the
scanner's reading of names, and it happens for an empty buffer as for any other one.
-/

namespace SqlxTurso

open Library Async Sql

variable {σ : Type} {engine : Engine σ} {sql : String}

/-! ## What a query sends -/

section Sending

variable {count : Nat}

theorem call_sends (request : Request) :
    Meets (fun world => count ≤ world.sent.length) (call engine request)
      fun _ world => count < world.sent.length := by
  have longer : ∀ (world : World σ) status state, count ≤ world.sent.length →
      count < (world.send request status state).sent.length := by
    intro world status state atMost
    rw [World.send_sent, List.length_append, List.length_singleton]
    exact Nat.lt_succ_of_le atMost
  apply call_meets
  · intro world _ state atMost _
    exact longer world _ state atMost
  · intro world _ state atMost _
    exact longer world _ state atMost
  · intro world state atMost _
    exact longer world _ state atMost

/-- A call whose answer is used: the request was sent however it ended. -/
theorem call_sendsOnward {α : Type} (request : Request) :
    Meets (fun world => count ≤ world.sent.length) (call engine request)
      (Onward (fun _ world => count ≤ world.sent.length)
        fun (_ : Outcome SqlxError α) world => count < world.sent.length) := by
  refine (call_sends request).imp ?_
  intro outcome world sent
  cases outcome with
  | returned _ => exact Nat.le_of_lt sent
  | failed _ => exact sent
  | dropped => exact sent

theorem prepareSql_sendsOnward {α : Type} :
    Meets (fun world => count ≤ world.sent.length) (prepareSql engine sql)
      (Onward (fun _ world => count ≤ world.sent.length)
        fun (_ : Outcome SqlxError α) world => count < world.sent.length) := by
  refine Meets.read fun looked => Meets.modifyThen (fun world => count ≤ world.sent.length)
    (fun _ atStart => atStart.1) ?_
  cases looked with
  | some statement => exact Meets.pure fun _ atMost => atMost
  | none =>
      refine Meets.bindOnward (call_sendsOnward _) fun raw => Meets.read fun columns => ?_
      exact Meets.modifyThen (fun world => count ≤ world.sent.length)
        (fun _ atRead => atRead.1) (Meets.pure fun _ atMost => atMost)

theorem prepareQueryStatement_sendsOnward {α : Type} (persistent : Bool) :
    Meets (fun world => count ≤ world.sent.length)
      (prepareQueryStatement engine sql persistent)
      (Onward (fun _ world => count ≤ world.sent.length)
        fun (_ : Outcome SqlxError α) world => count < world.sent.length) := by
  cases persistent with
  | false => exact call_sendsOnward _
  | true =>
      refine Meets.bindOnward prepareSql_sendsOnward fun statement => ?_
      cases statement.raw with
      | none => exact call_sendsOnward _
      | some raw => exact Meets.pure fun _ atMost => atMost

variable (engine sql) in
theorem querySql_sends (persistent : Bool) (arguments : Option TursoArguments) :
    Meets (fun world => count ≤ world.sent.length) (querySql engine sql persistent arguments)
      fun _ world => count < world.sent.length := by
  refine Meets.bind _ (prepareQueryStatement_sendsOnward persistent) fun statement => ?_
  refine Meets.read fun columns => Meets.bind (fun _ world => count < world.sent.length) ?_
    fun rows => Meets.pure fun _ sent => sent
  refine ((call_sends _).mono (fun _ atRead => atRead.1) fun _ _ sent => sent).imp ?_
  intro outcome world sent
  cases outcome <;> exact sent

theorem batch_sends :
    Meets (fun world => count ≤ world.sent.length)
      (executeBatchSql engine sql >>= fun items => pure (FetchStream.batch items))
      fun _ world => count < world.sent.length := by
  refine Meets.bind (fun _ world => count < world.sent.length) ?_ fun items =>
    Meets.pure fun _ sent => sent
  refine Meets.bind (fun _ world => count < world.sent.length) ?_ fun _ =>
    Meets.pure fun _ sent => sent
  refine (call_sends _).imp ?_
  intro outcome world sent
  cases outcome <;> exact sent

end Sending

/-! ## Named variables -/

/-- A query with arguments that is not supported, so that nothing of it is sent. -/
def TurnedAway (engine : Engine σ) (sql : String) (persistent : Bool)
    (arguments : TursoArguments) (world : World σ) : Prop :=
  ∃ surface, fetchCleared engine sql persistent (some arguments) world =
    (.failed (unsupportedSqlx surface), world)

theorem turnedAway_iff (persistent : Bool) (arguments : TursoArguments) (world : World σ) :
    TurnedAway engine sql persistent arguments world ↔
      (inspectSql sql).mayContainMultipleStatements = true ∨
        (inspectSql sql).unsupportedNamedPlaceholder.isSome = true := by
  constructor
  · rintro ⟨surface, failed⟩
    refine (inspected_or_seen sql).resolve_left fun inspected => ?_
    have sent := querySql_sends engine sql persistent (some arguments)
      world (Nat.le_refl _)
    rw [← fetchCleared_of_inspected inspected, failed] at sent
    exact Nat.lt_irrefl _ sent
  · intro seen
    obtain ⟨surface, fails⟩ := fetchCleared_of_seen engine persistent arguments seen
    exact ⟨surface, by rw [fails]; rfl⟩

/-- A placeholder is reported for exactly the texts with a named variable, and exactly
these are turned away when they come with arguments. -/
def DetectsNamed (engine : Engine σ) (sql : String) (persistent : Bool)
    (arguments : TursoArguments) (world : World σ) : Prop :=
  ((inspectSql sql).unsupportedNamedPlaceholder.isSome = true ↔ UsesNamed sql) ∧
    (TurnedAway engine sql persistent arguments world ↔ UsesNamed sql)

/-- Named variables of a single statement are detected if and only if at most one
semicolon stands before the statement and the scanner's reading of names makes no
difference. -/
theorem detectsNamed_iff (engine : Engine σ) (sql : String) (persistent : Bool)
    (arguments : TursoArguments) (world : World σ)
    (single : (filledPieces sql).length = 1) (wellPlaced : WellPlaced sql) :
    DetectsNamed engine sql persistent arguments world ↔
      separatorsBefore sql ≤ 1 ∧ ReadAlike sql := by
  rw [DetectsNamed, turnedAway_iff]
  have several := multiple_of_single single
  by_cases before : separatorsBefore sql ≤ 1
  · rw [decide_eq_false (Nat.not_le.mpr (Nat.lt_succ_of_le before))] at several
    rw [several, report_iff_named several wellPlaced]
    simp only [Bool.false_eq_true, false_or, before, true_and,
      report_iff_named several wellPlaced, and_self]
  · rw [decide_eq_true (Nat.succ_le_of_lt (Nat.not_le.mp before))] at several
    rw [several, report_of_stopped single several]
    simp [before]

/-- A world at which a run may start. -/
def countingWorld : World (Sqlite Nat) where
  connection := { statements := { caches := .roomy, capacity := 100 } }
  engine := { database := { content := 0 } }

theorem detectsNamed_dollar :
    DetectsNamed (sqlite counter) "SELECT $name" true {} countingWorld :=
  (detectsNamed_iff _ _ _ _ _ (by decide) (by decide)).mpr (by decide)

/-- The dollar sign of an identifier is taken for a placeholder, and a variable whose name
is not ASCII is missed. -/
theorem dollar_of_identifier_is_reported :
    ¬∀ sql : String, (filledPieces sql).length = 1 → WellPlaced sql →
      ((inspectSql sql).unsupportedNamedPlaceholder.isSome = true ↔ UsesNamed sql) := by
  intro detected
  have identifier := detected "SELECT a$b FROM t" (by decide) (by decide)
  exact absurd identifier (by decide)

/-! ## Empty buffers -/

/-- The request as it is when an empty list of values is no list. -/
def Request.unbound : Request → Request
  | .query statement (some []) => .query statement none
  | request => request

def Event.unbound (event : Event) : Event := { event with request := event.request.unbound }

/-- Two runs that end alike and leave the same behind; of what was sent it makes no
difference whether no values came as an empty list. -/
structure SameRun {α : Type} (first second : Outcome SqlxError α × World σ) : Prop where
  outcome : first.1 = second.1
  connection : first.2.connection = second.2.connection
  engine : first.2.engine = second.2.engine
  sent : first.2.sent.map Event.unbound = second.2.sent.map Event.unbound

theorem SameRun.refl {α : Type} (run : Outcome SqlxError α × World σ) : SameRun run run :=
  ⟨rfl, rfl, rfl, rfl⟩

/-- The engine treats a query with no values as one with an empty list of values. -/
def ReadsEmptyAlike (engine : Engine σ) : Prop :=
  ∀ statement state, engine.serve (.query statement none) state =
    engine.serve (.query statement (some [])) state

theorem SameRun.map {α β : Type} {first second : Program σ α} {world : World σ}
    (same : SameRun (first world) (second world)) (next : α → β) :
    SameRun ((first >>= fun value => pure (next value)) world)
      ((second >>= fun value => pure (next value)) world) := by
  rw [bind_apply, bind_apply]
  rcases same with ⟨outcome, connection, state, sent⟩
  cases firstEnd : first world with
  | mk firstOutcome firstWorld =>
      cases secondEnd : second world with
      | mk secondOutcome secondWorld =>
          rw [firstEnd, secondEnd] at outcome connection state sent
          cases outcome
          cases firstOutcome <;> exact ⟨rfl, connection, state, sent⟩

theorem call_of_dropped {request : Request} {world : World σ} {state : σ}
    (served : engine.serve request world.engine = (.dropped, state)) :
    call engine request world = (.dropped, world.send request .dropped state) := by
  unfold call
  rw [bind_apply, attempt, served]

theorem callQuery_empty (alike : ReadsEmptyAlike engine) (statement : Turso.Statement)
    (world : World σ) :
    SameRun (α := Turso.Rows) (call engine (.query statement (some [])) world)
      (call engine (.query statement none) world) := by
  cases served : engine.serve (.query statement none) world.engine with
  | mk reply state =>
      have servedEmpty : engine.serve (.query statement (some [])) world.engine =
          (reply, state) := (alike statement world.engine).symm.trans served
      cases reply with
      | answered result =>
          rw [call_of_answered served, call_of_answered servedEmpty]
          exact ⟨rfl, rfl, rfl, by simp [Event.unbound, Request.unbound]⟩
      | dropped =>
          rw [call_of_dropped served, call_of_dropped servedEmpty]
          exact ⟨rfl, rfl, rfl, by simp [Event.unbound, Request.unbound]⟩

theorem querySql_empty (alike : ReadsEmptyAlike engine) (persistent : Bool)
    {arguments : TursoArguments} (empty : arguments.values = []) (world : World σ) :
    SameRun (querySql engine sql persistent (some arguments) world)
      (querySql engine sql persistent none world) := by
  have noValues : arguments.intoTursoValues = [] := by
    rw [TursoArguments.intoTursoValues, empty, List.map_nil]
  unfold querySql
  rw [Option.map_some, Option.map_none, noValues, bind_apply, bind_apply]
  cases prepareQueryStatement engine sql persistent world with
  | mk outcome middle =>
      cases outcome with
      | failed error => exact SameRun.refl _
      | dropped => exact SameRun.refl _
      | returned statement =>
          dsimp only
          rw [bind_apply, read_apply, bind_apply, read_apply]
          exact (callQuery_empty alike statement middle).map _

/-- Where the scanner sees something, the query without arguments sends a request that
the one with an empty buffer does not send. -/
theorem not_sameRun_of_seen (persistent : Bool) (arguments : TursoArguments)
    (world : World σ)
    (seen : (inspectSql sql).mayContainMultipleStatements = true ∨
      (inspectSql sql).unsupportedNamedPlaceholder.isSome = true) :
    ¬SameRun (fetchCleared engine sql persistent (some arguments) world)
      (fetchCleared engine sql persistent none world) := by
  intro same
  obtain ⟨surface, fails⟩ := fetchCleared_of_seen engine persistent arguments seen
  have lengths := congrArg List.length same.sent
  rw [fails, List.length_map, List.length_map] at lengths
  change world.sent.length = _ at lengths
  have sends : world.sent.length <
      (fetchCleared engine sql persistent none world).2.sent.length := by
    cases several : (inspectSql sql).mayContainMultipleStatements with
    | true =>
        rw [fetchCleared_of_several several]
        exact batch_sends world (Nat.le_refl _)
    | false =>
        rw [fetchCleared_of_single several]
        exact querySql_sends engine sql persistent none world (Nat.le_refl _)
  omega

/-- A query with an empty buffer runs as one without arguments if and only if clearing
the queue does not return, or the scanner sees neither several statements nor a
placeholder that is not supported. -/
theorem fetchManySql_empty_iff (alike : ReadsEmptyAlike engine) (sql : String)
    (persistent : Bool) (arguments : TursoArguments) (empty : arguments.values = [])
    (world : World σ) :
    SameRun (fetchManySql engine sql persistent (some arguments) world)
        (fetchManySql engine sql persistent none world) ↔
      (clearPendingRollback engine world).1 ≠ .returned () ∨ inspectSql sql = {} := by
  rw [fetchManySql_eq, fetchManySql_eq, bind_apply, bind_apply]
  cases clearPendingRollback engine world with
  | mk outcome middle =>
      cases outcome with
      | failed error => exact ⟨fun _ => .inl nofun, fun _ => SameRun.refl _⟩
      | dropped => exact ⟨fun _ => .inl nofun, fun _ => SameRun.refl _⟩
      | returned value =>
          simp only [ne_eq, not_true_eq_false, false_or]
          constructor
          · intro same
            refine (inspected_or_seen sql).resolve_right fun seen => ?_
            exact not_sameRun_of_seen persistent arguments middle seen same
          · intro inspected
            rw [fetchCleared_of_inspected inspected, fetchCleared_of_inspected inspected]
            exact querySql_empty alike persistent empty middle

theorem fetchManySql_empty_single :
    SameRun (fetchManySql (sqlite counter) "SELECT 1" true (some {}) countingWorld)
      (fetchManySql (sqlite counter) "SELECT 1" true none countingWorld) :=
  (fetchManySql_empty_iff (fun _ _ => rfl) "SELECT 1" true {} rfl countingWorld).mpr
    (.inr (by decide))

/-- An empty buffer makes a batch fail that runs without one. -/
theorem empty_buffer_is_refused :
    ¬∀ sql : String, SameRun
      (fetchManySql (sqlite counter) sql false (some {}) countingWorld)
      (fetchManySql (sqlite counter) sql false none countingWorld) := by
  intro same
  have outcome := (same "INSERT INTO t VALUES (1); INSERT INTO t VALUES (2)").outcome
  exact absurd outcome (by decide)

end SqlxTurso
