import SqlxTurso.Connection.Execution

/-!
# An engine that refuses nothing

On an engine that refuses nothing no rollback fails and no future is dropped.  What is
told of the snapshots is then told exactly: a transaction statement succeeds, and a
statement gives what its run gives.
-/

namespace SqlxTurso

open Library Async Sql

variable {D : Type} {meaning : Meaning D}

/-- The engine refuses nothing, and no rollback has failed. -/
structure Calm (world : World (Sqlite D)) : Prop where
  script : world.engine.script = []
  sound : world.failed = false

/-- The world agrees with the snapshots once its queue is cleared, and nothing is in the
way of that. -/
structure Quiet (world : World (Sqlite D)) (model : Snapshots D) : Prop where
  refines : Refines world model
  calm : Calm world

/-- The world agrees with the snapshots, and nothing is in the way. -/
structure Ready (world : World (Sqlite D)) (model : Snapshots D) : Prop where
  agrees : Agrees world model
  calm : Calm world

theorem Ready.quiet {world : World (Sqlite D)} {model : Snapshots D}
    (ready : Ready world model) : Quiet world model :=
  ⟨ready.agrees.refines, ready.calm⟩

/-- A fresh connection to an engine that refuses nothing. -/
theorem Quiet.fresh (caches : StatementCaches) (content : D) (capacity : Nat) :
    Quiet
      { connection := { statements := { caches, capacity } }
        engine := { database := { content } } }
      { current := content } := by
  refine ⟨⟨.fresh caches capacity, ?_, fun _ => ⟨[], rfl, rfl, rfl, rfl, rfl⟩, rfl⟩, rfl, rfl⟩
  exact fun _ inEmpty => absurd inEmpty List.not_mem_nil

/-! ## Calls -/

/-- A statement that is not refused is answered with what it gives. -/
theorem underVerdict_performs {α : Type}
    (perform : Option Refusal → Database D → Except Turso.Error α × Database D)
    {state : Sqlite D} (ended : state.script = []) {result : Except Turso.Error α}
    {database : Database D} (performed : perform none state.database = (result, database)) :
    underVerdict perform state = (.answered result, { database, script := [] }) := by
  rw [underVerdict_nil ended, performed]

theorem serveBatch_calm (statements : List String) {state : Sqlite D}
    (ended : state.script = []) :
    ∃ result database, meaning.serveBatch statements state =
      (.answered result, { database, script := [] }) := by
  induction statements generalizing state with
  | nil => exact ⟨.ok (), state.database, by rw [Meaning.serveBatch, ← ended]⟩
  | cons statement rest ih =>
      rw [Meaning.serveBatch, underVerdict_nil ended]
      cases (performExecute (meaning.perform statement []) none state.database).1 with
      | ok changes => exact ih rfl
      | error error => exact ⟨_, _, rfl⟩

/-- Every request is answered. -/
theorem serve_calm (meaning : Meaning D) (request : Request) {state : Sqlite D} (ended : state.script = []) :
    ∃ result database, (sqlite meaning).serve request state =
      (.answered result, { database, script := [] }) := by
  have answers : ∀ {α : Type} (perform : Option Refusal → Database D →
      Except Turso.Error α × Database D), ∃ result database,
      underVerdict perform state = (.answered result, { database, script := [] }) :=
    fun perform => ⟨_, _, underVerdict_performs perform ended rfl⟩
  cases request with
  | execute sql => exact answers (performExecute (meaning.performSql sql))
  | executeBatch sql => exact serveBatch_calm (statementsOf sql) ended
  | prepare sql => exact answers (meaning.performPrepare sql)
  | query statement arguments =>
      exact answers (meaning.performQuery statement (arguments.getD []))

theorem Calm.send {world : World (Sqlite D)} (calm : Calm world) {state : Sqlite D}
    (ended : state.script = []) (request : Request) (status : Status) :
    Calm (world.send request status state) :=
  ⟨ended, calm.sound⟩

theorem call_calm (request : Request) :
    Meets Calm (call (sqlite meaning) request) (Undropped Calm) := by
  intro world calm
  obtain ⟨result, database, served⟩ := serve_calm meaning request calm.script
  rw [call_of_answered served]
  cases result with
  | ok answer => exact calm.send rfl request _
  | error error => exact calm.send rfl request _

/-! ## Clearing the queue -/

/-- Clearing the queue leaves the cache alone. -/
theorem clearPendingRollback_statements {σ : Type} (engine : Engine σ)
    (statements : StatementCache) :
    Meets (fun world : World σ => world.connection.statements = statements)
      (clearPendingRollback engine) fun _ world => world.connection.statements = statements := by
  apply clearPendingRollback_meets
  · exact fun _ same _ => same
  · intro queue
    refine Meets.weaken (fun world => world.connection.statements = statements)
      (fun _ atStart => atStart.1)
      (clearQueue_meets (fun _ world => world.connection.statements = statements) ?_ ?_ ?_ ?_
        queue)
    · exact fun _ same => same
    · exact fun _ _ _ _ _ same _ _ => same
    · exact fun _ _ _ _ _ same _ _ => same
    · exact fun _ _ _ _ same _ => same

theorem clearPendingRollback_ready (model : Snapshots D) :
    Meets (Quiet · model) (clearPendingRollback (sqlite meaning)) fun outcome world =>
      outcome = .returned () ∧ Ready world model := by
  intro world quiet
  obtain ⟨returned, ended⟩ := clearPendingRollback_returns model world
    ⟨quiet.refines, quiet.calm.sound, quiet.calm.script⟩
  have agrees := clearPendingRollback_refines meaning model world quiet.refines
  rw [returned] at agrees
  exact ⟨returned, agrees, ended, agrees.linked.sound⟩

/-- An operation that clears the queue first. -/
theorem clearFirst_ready {α : Type} {model : Snapshots D}
    {after : Outcome SqlxError α → World (Sqlite D) → Prop}
    {next : Unit → Program (Sqlite D) α}
    (nextMeets : Meets (Ready · model) (next ()) after) :
    Meets (Quiet · model) (clearPendingRollback (sqlite meaning) >>= next) after := by
  refine Meets.bind (fun _ => (Ready · model)) ?_ fun _ => nextMeets
  refine (clearPendingRollback_ready model).imp ?_
  rintro _ world ⟨rfl, ready⟩
  exact ready

/-! ## Transaction statements -/

/-- In a ready world the depth is known. -/
theorem readDepth_ready {α : Type} {model : Snapshots D}
    {next : Nat → Program (Sqlite D) α} {after : Outcome SqlxError α → World (Sqlite D) → Prop}
    (meets : Meets (Ready · model) (next model.saved.length) after) :
    Meets (Ready · model) (Async.read World.depth >>= next) after := by
  intro world ready
  rw [bind_apply, read_apply, ready.agrees.linked.depth]
  exact meets world ready

theorem transactionStep_ready {model : Snapshots D} {sql : TransactionSql}
    {adjust : TransactionState → TransactionState}
    (performs : ∀ world : World (Sqlite D), Agrees world model →
      ∃ database, sql.perform world.engine.database = .ok database)
    (adjusts : ∀ state : TransactionState, (adjust state).rollbackFailed = state.rollbackFailed) :
    Meets (Ready · model)
      (do
        let _ ← call (sqlite meaning) (.execute (.transaction sql))
        changeTransaction adjust)
      fun outcome world => outcome = .returned () ∧ Calm world := by
  intro world ready
  obtain ⟨database, performed⟩ := performs world ready.agrees
  have served : (sqlite meaning).serve (.execute (.transaction sql)) world.engine =
      (.answered (.ok 0), { database, script := [] }) := by
    change underVerdict (performExecute (meaning.performSql (.transaction sql))) world.engine = _
    rw [underVerdict_nil ready.calm.script]
    simp only [performExecute, withoutRows, Meaning.performSql, TransactionSql.outcome,
      performed]
  rw [bind_apply, call_of_answered served]
  exact ⟨rfl, rfl, (adjusts _).trans ready.calm.sound⟩

/-- A program that follows the levels, and comes back with a calm world. -/
theorem quiet_of_followed {program : Program (Sqlite D) Unit} {model : Snapshots D}
    {change : Snapshots D → Snapshots D}
    (refines : Meets (Refines · model) program fun outcome world =>
      Refines world (followed model change outcome))
    (returns : Meets (Quiet · model) program fun outcome world =>
      outcome = .returned () ∧ Calm world) :
    Meets (Quiet · model) program fun outcome world =>
      outcome = .returned () ∧ Quiet world (change model) := by
  intro world quiet
  have follows := refines world quiet.refines
  obtain ⟨returned, calm⟩ := returns world quiet
  rw [returned] at follows
  exact ⟨returned, follows, calm⟩

theorem begin_quiet (model : Snapshots D) :
    Meets (Quiet · model) (TursoTransactionManager.begin (sqlite meaning) none)
      fun outcome world => outcome = .returned () ∧ Quiet world model.begin := by
  apply quiet_of_followed (begin_refines model)
  apply clearFirst_ready
  apply readDepth_ready
  rw [if_neg (by simp)]
  refine transactionStep_ready ?_ fun _ => rfl
  intro world agrees
  obtain ⟨begun, performed, _⟩ := begin_level agrees.linked.levels
  exact ⟨begun, performed⟩

theorem commit_quiet (model : Snapshots D) :
    Meets (Quiet · model) (TursoTransactionManager.commit (sqlite meaning))
      fun outcome world => outcome = .returned () ∧ Quiet world model.commit := by
  apply quiet_of_followed (commit_refines model)
  apply clearFirst_ready
  apply readDepth_ready
  cases levels : model.saved with
  | nil =>
      rw [List.length_nil, if_pos rfl]
      exact Meets.pure fun world ready => ⟨rfl, ready.calm⟩
  | cons snapshot rest =>
      rw [List.length_cons, if_neg (Nat.succ_ne_zero _)]
      refine transactionStep_ready ?_ TransactionState.decrementDepth_failed
      intro world agrees
      have has := agrees.linked.levels
      rw [List.nil_append, levels] at has
      obtain ⟨committed, performed, _⟩ := commit_level has
      exact ⟨committed, performed⟩

/-! ## Statements -/

/-- The columns of a text over a content, as a stream tells them. -/
def Meaning.columnsOf (meaning : Meaning D) (sql : String) (content : D) : List TursoColumn :=
  tursoColumns (((meaning.columns (firstStatement sql) content).toOption).getD [])

/-- The engine cannot always prepare a text. -/
def Unprepared (meaning : Meaning D) (sql : String) : Prop :=
  ∃ content error, meaning.columns (firstStatement sql) content = .error error

/-- A program that fails because of a text that is not prepared. -/
def FailsUnprepared (meaning : Meaning D) (sql : String) (model : Snapshots D) {α : Type} :
    Outcome SqlxError α → World (Sqlite D) → Prop
  | .failed _, world => Ready world model ∧ Unprepared meaning sql
  | _, _ => False

/-- The rows that the engine hands out for a run. -/
def Turso.Rows.ofRun : Except Failure (Effect D) → Turso.Rows
  | .ok effect => { rows := effect.rows, changes := effect.changes }
  | .error failure => { rows := failure.rows, failure := some failure.error }

/-- The snapshots after a run. -/
def Library.Snapshots.afterRun (model : Snapshots D) : Except Failure (Effect D) → Snapshots D
  | .ok effect => model.write effect.content
  | .error _ => model

theorem neverDrops_ended (database : Database D) :
    NeverDrops ({ database, script := [] } : Sqlite D) :=
  fun _ inEmpty => absurd inEmpty List.not_mem_nil

namespace Ready

variable {world : World (Sqlite D)} {model : Snapshots D} (ready : Ready world model)

include ready

theorem write (content : D) (request : Request) (status : Status) :
    Ready (world.send request status
      { database := { world.engine.database with content }, script := [] })
      (model.write content) :=
  ⟨ready.agrees.write (neverDrops_ended _) rfl request status,
    ready.calm.send rfl request status⟩

theorem send (request : Request) (status : Status) :
    Ready (world.send request status
      { database := world.engine.database, script := [] }) model :=
  ⟨ready.agrees.send (neverDrops_ended _) rfl request status,
    ready.calm.send rfl request status⟩

end Ready

section Statements

variable (model : Snapshots D) {sql : String}

theorem callPrepare_ready {α : Type} :
    Meets (Ready · model) (call (sqlite meaning) (.prepare sql))
      (Onward (fun (raw : Turso.Statement) world => Ready world model ∧ raw.sql = sql)
        (FailsUnprepared meaning sql model : Outcome SqlxError α → _)) := by
  intro world ready
  have serves : ∀ {result}, meaning.performPrepare sql none world.engine.database =
      (result, world.engine.database) →
      (sqlite meaning).serve (.prepare sql) world.engine =
        (.answered result, { database := world.engine.database, script := [] }) :=
    underVerdict_performs (meaning.performPrepare sql) ready.calm.script
  unfold Meaning.performPrepare at serves
  cases isColumns : meaning.columns (firstStatement sql) world.engine.database.content with
  | ok columns =>
      rw [isColumns] at serves
      rw [call_of_answered (serves rfl)]
      exact ⟨ready.send _ _, rfl⟩
  | error error =>
      rw [isColumns] at serves
      rw [call_of_answered (serves rfl)]
      exact ⟨ready.send _ _, _, error, isColumns⟩

theorem prepareQueryStatement_ready {α : Type} (persistent : Bool) :
    Meets (Ready · model) (prepareQueryStatement (sqlite meaning) sql persistent)
      (Onward (fun (raw : Turso.Statement) world => Ready world model ∧ raw.sql = sql)
        (FailsUnprepared meaning sql model : Outcome SqlxError α → _)) := by
  have onConnection : ∀ (world : World (Sqlite D)) (change : TursoConnection → TursoConnection),
      Ready world model →
      (change world.connection).transactionState = world.transactionState →
      SoundCache (change world.connection).statements →
      Ready (world.onConnection change) model := fun world change ready same sound =>
    ⟨ready.agrees.onConnection same sound, ready.calm.script,
      (congrArg TransactionState.rollbackFailed same).trans ready.calm.sound⟩
  exact prepareQueryStatement_onward _ (fun _ ready => ready.agrees.cache) onConnection
    (callPrepare_ready model) persistent

theorem callQuery_ready (noCommand : meaning.command (firstStatement sql) = none)
    {statement : Turso.Statement} (isSql : statement.sql = sql)
    (arguments : Option (List Turso.Value)) :
    Meets (Ready · model) (call (sqlite meaning) (.query statement arguments))
      fun outcome world =>
        outcome = .returned (.ofRun
          (meaning.run (firstStatement sql) (arguments.getD []) model.current)) ∧
        Ready world (model.afterRun
          (meaning.run (firstStatement sql) (arguments.getD []) model.current)) := by
  subst isSql
  intro world ready
  have serves : ∀ {result database},
      meaning.performQuery statement (arguments.getD []) none world.engine.database =
        (result, database) →
      (sqlite meaning).serve (.query statement arguments) world.engine =
        (.answered result, { database, script := [] }) :=
    underVerdict_performs (meaning.performQuery statement (arguments.getD []))
      ready.calm.script
  unfold Meaning.performQuery at serves
  rw [meaning.perform_of_noCommand noCommand, ready.agrees.current] at serves
  cases isRun : meaning.run (firstStatement statement.sql) (arguments.getD []) model.current with
  | ok effect =>
      rw [isRun] at serves
      rw [call_of_answered (serves rfl)]
      exact ⟨rfl, ready.write _ _ _⟩
  | error failure =>
      rw [isRun] at serves
      rw [call_of_answered (serves rfl)]
      exact ⟨rfl, ready.send _ _⟩

/-- A statement gives what its run gives, unless it is not prepared. -/
theorem querySql_ready (noCommand : meaning.command (firstStatement sql) = none)
    (persistent : Bool) (arguments : Option TursoArguments) :
    Meets (Ready · model) (querySql (sqlite meaning) sql persistent arguments)
      fun outcome world =>
        let run := meaning.run (firstStatement sql)
          ((arguments.map TursoArguments.intoTursoValues).getD []) model.current
        (outcome = .returned (.unfolded
              (.rows (.ofRun run) (meaning.columnsOf sql model.current) none)) ∧
            Ready world (model.afterRun run)) ∨
          FailsUnprepared meaning sql model outcome world := by
  refine Meets.bind (fun (raw : Turso.Statement) world => Ready world model ∧ raw.sql = sql)
    ?_ fun raw => ?_
  · have prepares : Meets (Ready · model)
        (prepareQueryStatement (sqlite meaning) sql persistent)
        (Onward (fun (raw : Turso.Statement) world => Ready world model ∧ raw.sql = sql)
          (FailsUnprepared meaning sql model : Outcome SqlxError FetchStream → _)) :=
      prepareQueryStatement_ready model persistent
    refine prepares.imp ?_
    intro outcome world ended
    cases outcome with
    | returned raw => exact ended
    | failed error => exact .inr ended
    | dropped => exact .inr ended
  · rintro world ⟨ready, isSql⟩
    obtain ⟨returned, readyAfter⟩ := callQuery_ready model noCommand isSql
      (arguments.map TursoArguments.intoTursoValues) world ready
    have areColumns : tursoColumns ((sqlite meaning).columns raw world.engine) =
        meaning.columnsOf sql model.current := by
      subst isSql
      rw [Meaning.columnsOf, ← ready.agrees.current]
      rfl
    refine .inl ?_
    rw [bind_apply, read_apply]
    dsimp only
    rw [areColumns, bind_apply]
    cases ended : call (sqlite meaning) (.query raw _) world with
    | mk outcome reached =>
        rw [ended] at returned readyAfter
        cases returned
        exact ⟨rfl, readyAfter⟩

end Statements

/-! ## Queries -/

/-- A text of one statement that the engine can prepare, whatever it holds. -/
structure Preparable (meaning : Meaning D) (sql : String) : Prop where
  inspected : inspectSql sql = {}
  noCommand : meaning.command (firstStatement sql) = none
  columns : ∀ content, ∃ columns, meaning.columns (firstStatement sql) content = .ok columns

theorem Preparable.not_unprepared {sql : String} (preparable : Preparable meaning sql) :
    ¬Unprepared meaning sql := by
  rintro ⟨content, error, isError⟩
  obtain ⟨columns, isOk⟩ := preparable.columns content
  rw [isOk] at isError
  cases isError

/-- What a query gives when it runs. -/
def Query.run (meaning : Meaning D) (query : Query) (content : D) :
    Except Failure (Effect D) :=
  meaning.run (firstStatement query.sql) query.values content

section Queries

variable (model : Snapshots D)

theorem fetchMany_ready {query : Query} {arguments : Option TursoArguments}
    (encoded : query.arguments = .ok arguments) (preparable : Preparable meaning query.sql) :
    Meets (Quiet · model) (fetchMany (sqlite meaning) query) fun outcome world =>
      outcome = .returned (.unfolded (.rows (.ofRun (query.run meaning model.current))
        (meaning.columnsOf query.sql model.current) none)) ∧
      Ready world (model.afterRun (query.run meaning model.current)) := by
  have values : query.values = (arguments.map TursoArguments.intoTursoValues).getD [] := by
    rw [Query.values, encoded]
    cases arguments <;> rfl
  rw [fetchMany, encoded, Query.run, values]
  dsimp only
  rw [fetchManySql_of_inspected preparable.inspected]
  refine clearFirst_ready ((querySql_ready model preparable.noCommand
    query.persistent arguments).imp ?_)
  rintro outcome world (ran | fails)
  · exact ran
  · cases outcome with
    | returned _ => cases fails
    | failed _ => exact absurd fails.2 preparable.not_unprepared
    | dropped => cases fails

/-- A statement is executed exactly when its run succeeds. -/
theorem execute_ready {query : Query} {arguments : Option TursoArguments}
    (encoded : query.arguments = .ok arguments) (preparable : Preparable meaning query.sql) :
    Meets (Quiet · model) (execute (sqlite meaning) query) fun outcome world =>
      Ready world (model.afterRun (query.run meaning model.current)) ∧
        match query.run meaning model.current with
        | .ok effect => effect.rows = [] → outcome = .returned ⟨effect.changes⟩
        | .error _ => ∃ error, outcome = .failed error := by
  refine Meets.bind (fun stream world =>
    stream = .unfolded (.rows (.ofRun (query.run meaning model.current))
      (meaning.columnsOf query.sql model.current) none) ∧
    Ready world (model.afterRun (query.run meaning model.current))) ?_ ?_
  · refine (fetchMany_ready model encoded preparable).imp ?_
    rintro _ world ⟨rfl, ready⟩
    exact ⟨rfl, ready⟩
  · rintro _ world ⟨rfl, ready⟩
    cases isRun : query.run meaning model.current with
    | ok effect =>
        rw [isRun] at ready
        refine ⟨?_, ?_⟩
        · cases FetchStream.queryResult _ <;> exact ready
        · intro noRows
          rw [Turso.Rows.ofRun, noRows]
          rfl
    | error failure =>
        rw [isRun] at ready
        cases result : (FetchStream.unfolded (.rows (.ofRun (.error failure))
            (meaning.columnsOf query.sql model.current) none)).queryResult with
        | ok value => cases FetchStream.failure_of_queryResult result
        | error error => exact ⟨ready, error, rfl⟩

/-- The world after some of the first statements of a text. -/
def Partly (meaning : Meaning D) (sql : String) (model : Snapshots D)
    (world : World (Sqlite D)) : Prop :=
  ∃ count content, meaning.runAll ((statementsOf sql).take count) model.current = some content ∧
    Quiet world (model.write content)

theorem fetchMany_calm {sql : String}
    (noCommand : ∀ statement ∈ statementsOf sql, meaning.command statement = none) :
    Meets (Quiet · model) (fetchMany (sqlite meaning) { sql })
      (Undropped Calm) := by
  refine clearFirst_ready ?_
  dsimp only
  split
  · refine Meets.bind (fun _ => Calm) ?_ fun items => Meets.pureUndropped _
    refine Meets.bind (fun _ => Calm) ?_ fun _ => Meets.pure fun _ calm => calm
    refine (call_calm (.executeBatch sql)).mono (fun _ ready => ready.calm) ?_
    intro outcome world ended
    cases outcome <;> exact ended
  · refine (querySql_ready model (firstStatement_noCommand noCommand) true none).imp ?_
    rintro outcome world (⟨rfl, ready⟩ | fails)
    · exact ready.calm
    · cases outcome with
      | returned _ => cases fails
      | failed _ => exact fails.1.calm
      | dropped => exact fails

/-- Executing a text runs some of its first statements, and all of them if it succeeds. -/
theorem execute_partly {sql : String}
    (noCommand : ∀ statement ∈ statementsOf sql, meaning.command statement = none) :
    Meets (Quiet · model) (execute (sqlite meaning) { sql })
      (Undropped (Partly meaning sql model)) := by
  have undropped : Meets (Quiet · model) (execute (sqlite meaning) { sql })
      (Undropped Calm) := by
    refine Meets.bind (fun _ => Calm) ?_ ?_
    · refine (fetchMany_calm model noCommand).imp ?_
      intro outcome world ended
      cases outcome <;> exact ended
    · intro stream world calm
      cases stream.queryResult <;> exact calm
  have interrupts : Meets (Refines · model) (execute (sqlite meaning) { sql })
      fun _ world => Interrupted meaning (statementsOf sql) model world := by
    refine (execute_text model noCommand).imp ?_
    intro outcome world executed
    cases outcome with
    | returned _ => exact .of_changed executed
    | failed _ => exact executed
    | dropped => exact executed
  intro world quiet
  obtain ⟨count, content, ran, refines⟩ := interrupts world quiet.refines
  have calm := undropped world quiet
  cases outcome : (execute (sqlite meaning) { sql } world).1 with
  | returned _ =>
      rw [outcome] at calm
      exact ⟨count, content, ran, refines, calm⟩
  | failed _ =>
      rw [outcome] at calm
      exact ⟨count, content, ran, refines, calm⟩
  | dropped =>
      rw [outcome] at calm
      exact calm

end Queries

end SqlxTurso
