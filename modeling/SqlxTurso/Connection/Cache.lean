import SqlxTurso.Connection.Discipline

/-!
# What a connection prepares

A connection keeps prepared statements by their texts, in a cache of which only the contract
is known.  Whatever is kept and however the engine answers, a statement runs only for the text
that it was prepared for, and a text is prepared exactly where no statement is kept for it or
none is asked for.
-/

namespace SqlxTurso

open Library Async Sql

namespace TursoConnection

def clearCachedStatements (connection : TursoConnection) : TursoConnection :=
  { connection with statements := connection.statements.clear }

end TursoConnection

variable {σ : Type} {engine : Engine σ} {sql : String} {world after : World σ}

/-! ## Preparing a text -/

/-- The world after the statement of a text was looked for. -/
def World.looked (world : World σ) (sql : String) : World σ :=
  world.onConnection fun connection => (connection.cachedStatement sql).2

/-- The statement that is made of a raw one which the engine has just prepared. -/
def madeOf (engine : Engine σ) (sql : String) (raw : Turso.Statement) (state : σ) :
    TursoStatement :=
  .withRaw sql (tursoColumns (engine.columns raw state)) raw

/-- A statement that is held is got without a request. -/
theorem prepareSql_of_held {statement : TursoStatement}
    (isHeld : world.connection.statements.held sql = some statement) :
    prepareSql engine sql world = (.returned statement, world.looked sql) := by
  have cached : (world.connection.cachedStatement sql).1 = some statement := isHeld
  simp only [prepareSql, bind_apply, read_apply, modify_apply, cached]
  rfl

/-- How preparing a text ends.  Nothing is sent where a statement is held for it, and exactly
one request otherwise. -/
inductive Prepares (engine : Engine σ) (sql : String) (world : World σ) :
    Outcome SqlxError TursoStatement → World σ → Prop
  | held {statement : TursoStatement}
      (isHeld : world.connection.statements.held sql = some statement) :
      Prepares engine sql world (.returned statement) (world.looked sql)
  | made {raw : Turso.Statement} {state : σ}
      (notHeld : world.connection.statements.held sql = none)
      (served : engine.serve (.prepare sql) world.engine = (.answered (.ok raw), state)) :
      Prepares engine sql world (.returned (madeOf engine sql raw state))
        (((world.looked sql).send (.prepare sql) .done state).onConnection fun connection =>
          connection.cacheStatement sql (madeOf engine sql raw state))
  | refused {error : Turso.Error} {state : σ}
      (notHeld : world.connection.statements.held sql = none)
      (served : engine.serve (.prepare sql) world.engine = (.answered (.error error), state)) :
      Prepares engine sql world (.failed (mapTursoError error))
        ((world.looked sql).send (.prepare sql) (.refused error) state)
  | dropped {state : σ} (notHeld : world.connection.statements.held sql = none)
      (served : engine.serve (.prepare sql) world.engine = (.dropped, state)) :
      Prepares engine sql world .dropped ((world.looked sql).send (.prepare sql) .dropped state)

variable (engine sql world) in
theorem prepareSql_cases :
    Prepares engine sql world (prepareSql engine sql world).1 (prepareSql engine sql world).2 := by
  cases isHeld : world.connection.statements.held sql with
  | some statement =>
      rw [prepareSql_of_held isHeld]
      exact .held isHeld
  | none =>
      have missed : (world.connection.cachedStatement sql).1 = none := isHeld
      simp only [prepareSql, bind_apply, read_apply, modify_apply, missed, call, attempt]
      cases served : engine.serve (.prepare sql) world.engine with
      | mk reply state =>
          have isServed : engine.serve (.prepare sql) (world.looked sql).engine =
              (reply, state) := served
          rw [World.looked] at isServed
          rw [isServed]
          rcases reply with (error | raw) | _
          · exact .refused isHeld served
          · exact .made isHeld served
          · exact .dropped isHeld served

/-- A statement as it was when the engine prepared it for a text. -/
def Describes (engine : Engine σ) (sql : String) (statement : TursoStatement) : Prop :=
  ∃ raw state state', engine.serve (.prepare sql) state = (.answered (.ok raw), state') ∧
    statement = madeOf engine sql raw state'

/-- Every statement in the cache is as the engine prepared it for its text, and a cache
without room holds none. -/
structure StatementCache.Keeps (engine : Engine σ) (cache : StatementCache) : Prop where
  describes : ∀ sql statement, cache.held sql = some statement → Describes engine sql statement
  disabled : cache.capacity = 0 → ∀ sql, cache.held sql = none

/-! ## Operations -/

/-- The cache keeps what it did, and gets no statement for another text. -/
structure CacheStep (engine : Engine σ) (text : Option String) (start world : World σ) :
    Prop where
  keeps : start.connection.statements.Keeps engine → world.connection.statements.Keeps engine
  others : ∀ other statement, text ≠ some other →
    world.connection.statements.held other = some statement →
    start.connection.statements.held other = some statement

variable {text : Option String}

theorem CacheStep.of_same {start world : World σ}
    (same : world.connection.statements = start.connection.statements) :
    CacheStep engine text start world := by
  constructor
  · intro keeps
    rw [same]
    exact keeps
  · intro other statement _ isHeld
    rw [← same]
    exact isHeld

instance : Std.Refl (CacheStep engine text) := ⟨fun _ => .of_same rfl⟩

instance : IsTrans (World σ) (CacheStep engine text) := by
  constructor
  intro first second third before after
  refine ⟨fun keeps => after.keeps (before.keeps keeps), ?_⟩
  intro other statement differ isHeld
  exact before.others other statement differ (after.others other statement differ isHeld)

theorem looked_step (world : World σ) (sql : String) :
    CacheStep engine text world (world.looked sql) := by
  constructor
  · intro keeps
    refine ⟨fun other statement isHeld => ?_, fun disabled other => ?_⟩
    · exact keeps.describes other statement
        ((StatementCache.held_getMut _ other sql).symm.trans isHeld)
    · exact (StatementCache.held_getMut _ other sql).trans (keeps.disabled disabled other)
  · intro other statement _ isHeld
    exact (StatementCache.held_getMut _ other sql).symm.trans isHeld

/-- Caching a statement that the engine has prepared for the text. -/
theorem cacheStatement_step {statement : TursoStatement}
    (describes : Describes engine sql statement) (world : World σ) :
    CacheStep engine (some sql) world
      (world.onConnection fun connection => connection.cacheStatement sql statement) := by
  by_cases isEnabled : world.connection.statements.isEnabled = true
  · have inserted : (world.connection.cacheStatement sql statement).statements =
        world.connection.statements.insert sql statement := by
      rw [TursoConnection.cacheStatement, if_pos isEnabled]
    have isHeld : ∀ other found,
        (world.connection.cacheStatement sql statement).statements.held other = some found →
        (other = sql ∧ found = statement) ∨
          world.connection.statements.held other = some found := by
      rw [inserted]
      exact fun other found => StatementCache.held_insert isEnabled
    constructor
    · intro keeps
      refine ⟨fun other found isFound => ?_, fun disabled => ?_⟩
      · rcases isHeld other found isFound with ⟨rfl, rfl⟩ | wasHeld
        · exact describes
        · exact keeps.describes other found wasHeld
      · change (world.connection.cacheStatement sql statement).statements.capacity = 0 at disabled
        rw [inserted] at disabled
        exact absurd (of_decide_eq_true isEnabled) (Nat.not_lt.mpr (Nat.le_of_eq disabled))
    · intro other found differ isFound
      rcases isHeld other found isFound with ⟨rfl, _⟩ | wasHeld
      · exact absurd rfl differ
      · exact wasHeld
  · refine .of_same ?_
    change (world.connection.cacheStatement sql statement).statements = _
    rw [TursoConnection.cacheStatement, if_neg isEnabled]

theorem prepareSql_step (sql : String) :
    Preserves (CacheStep engine (some sql)) (prepareSql engine sql) := by
  rintro _ start rfl
  have looked : CacheStep engine (some sql) start (start.looked sql) := looked_step start sql
  have prepares := prepareSql_cases engine sql start
  generalize prepareSql engine sql start = ended at prepares ⊢
  obtain ⟨outcome, reached⟩ := ended
  cases prepares with
  | held isHeld => exact looked
  | @made raw state notHeld served =>
      have sent : CacheStep engine (some sql) start
          ((start.looked sql).send (.prepare sql) .done state) := ⟨looked.keeps, looked.others⟩
      exact IsTrans.trans _ _ _ sent (cacheStatement_step ⟨raw, _, state, served, rfl⟩ _)
  | refused notHeld served => exact ⟨looked.keeps, looked.others⟩
  | dropped notHeld served => exact ⟨looked.keeps, looked.others⟩

/-- The cache is left alone. -/
def SameCache (start world : World σ) : Prop :=
  world.connection.statements = start.connection.statements

instance : Std.Refl (SameCache (σ := σ)) := ⟨fun _ => rfl⟩

instance : IsTrans (World σ) SameCache := ⟨fun _ _ _ before after => Eq.trans after before⟩

theorem attempt_sameCache (request : Request) : Preserves SameCache (attempt engine request) := by
  rintro _ start rfl
  rw [attempt]
  split <;> rfl

theorem call_sameCache (request : Request) : Preserves SameCache (call engine request) := by
  refine .bind (attempt_sameCache request) fun result => ?_
  cases result with
  | ok answer => exact .pure answer
  | error error => exact .fail _

theorem changeTransaction_sameCache (change : TransactionState → TransactionState) :
    Preserves SameCache (changeTransaction change : Program σ Unit) := .modify fun _ => rfl

theorem clearPendingRollback_sameCache : Preserves SameCache (clearPendingRollback engine) := by
  refine .bind (.read _) fun state => ?_
  split
  · exact .fail _
  · induction state.pendingRollbackDepths with
    | nil => exact .pure _
    | cons depth queue ih =>
        refine .bind (changeTransaction_sameCache _) fun _ =>
          .bind (attempt_sameCache _) fun result => ?_
        cases result with
        | ok _ => exact ih
        | error error =>
            dsimp only
            split
            · exact ih
            · exact .bind (changeTransaction_sameCache _) fun _ => .fail _

/-- A program that leaves the cache alone makes a step that gets no statement. -/
theorem step_of_sameCache {α : Type} {program : Program σ α}
    (same : Preserves SameCache program) : Preserves (CacheStep engine text) program :=
  same.mono fun _ _ => CacheStep.of_same

theorem prepareQueryStatement_step (sql : String) (persistent : Bool) :
    Preserves (CacheStep engine (if persistent then some sql else none))
      (prepareQueryStatement engine sql persistent) := by
  cases persistent with
  | false => exact step_of_sameCache (call_sameCache _)
  | true =>
      refine .bind (prepareSql_step sql) fun statement => ?_
      cases statement.raw with
      | some raw => exact .pure raw
      | none => exact step_of_sameCache (call_sameCache _)

/-- The text of which a query may get a statement from the cache. -/
def Query.cachedText (query : Query) : Option String :=
  if query.persistent then some query.sql else none

theorem fetchMany_step (query : Query) :
    Preserves (CacheStep engine query.cachedText) (fetchMany engine query) := by
  unfold fetchMany
  cases query.arguments with
  | error error => exact .fail _
  | ok arguments =>
      refine .bind (step_of_sameCache clearPendingRollback_sameCache) fun _ => ?_
      dsimp only
      split
      · split
        · exact .fail _
        · exact step_of_sameCache
            (.bind (.bind (call_sameCache _) fun _ => .pure _) fun _ => .pure _)
      · split
        · exact .fail _
        · exact .bind (prepareQueryStatement_step query.sql query.persistent) fun _ =>
            step_of_sameCache (.bind (.read _) fun _ => .bind (call_sameCache _) fun _ => .pure _)

namespace Operation

def cachedText : Operation → Option String
  | fetchMany query => query.cachedText
  | fetchOptional query => query.cachedText
  | prepareWith sql => some sql
  | describe sql => some sql
  | _ => none

theorem step (operation : Operation) :
    Preserves (CacheStep engine operation.cachedText) (operation.run engine) := by
  have finished (sql : Nat → TransactionSql) :
      Preserves (CacheStep engine none) (TursoTransactionManager.finish engine sql) := by
    refine step_of_sameCache (.bind clearPendingRollback_sameCache fun _ =>
      .bind (.read _) fun depth => ?_)
    split
    · exact .pure _
    · exact .bind (call_sameCache _) fun _ => changeTransaction_sameCache _
  cases operation with
  | begin statement =>
      refine step_of_sameCache (.bind clearPendingRollback_sameCache fun _ =>
        .bind (.read _) fun depth => ?_)
      split
      · exact .fail _
      · exact .bind (call_sameCache _) fun _ => changeTransaction_sameCache _
  | commit => exact finished _
  | rollback => exact finished _
  | fetchMany query => exact .bind (fetchMany_step query) fun _ => .pure _
  | fetchOptional query =>
      refine .bind (.bind (fetchMany_step query) fun stream => ?_) fun _ => .pure _
      cases stream.firstRow with
      | ok row => exact .pure row
      | error error => exact .fail error
  | prepareWith sql => exact .bind (prepareSql_step sql) fun _ => .pure _
  | describe sql =>
      exact .bind (.bind (prepareSql_step sql) fun _ => .pure _) fun _ => .pure _
  | ping => exact .pure _

end Operation

/-! ## Runs -/

/-- The worlds that a connection reaches with any engine and any cache: by operations, by
dropped handles and by clearing its cache. -/
inductive Connected (engine : Engine σ) : World σ → Prop where
  | fresh (caches : StatementCaches) (capacity : Nat) (state : σ) :
      Connected engine { connection := { statements := { caches, capacity } }, engine := state }
  | operate {world : World σ} (operation : Operation) :
      Connected engine world → Connected engine (operation.run engine world).2
  | drop {world : World σ} :
      Connected engine world → Connected engine (TursoTransactionManager.startRollback world).2
  | clear {world : World σ} :
      Connected engine world →
      Connected engine (world.onConnection TursoConnection.clearCachedStatements)

theorem StatementCache.Keeps.clear {cache : StatementCache} : cache.clear.Keeps engine := by
  refine ⟨fun sql statement isHeld => ?_, fun _ sql => StatementCache.held_clear cache sql⟩
  rw [StatementCache.held_clear] at isHeld
  cases isHeld

theorem Connected.keeps (connected : Connected engine world) :
    world.connection.statements.Keeps engine := by
  induction connected with
  | fresh caches capacity state =>
      refine ⟨fun sql statement isHeld => ?_, fun _ sql => StatementCache.held_new caches _ sql⟩
      rw [StatementCache.held_new] at isHeld
      cases isHeld
  | operate operation _ ih => exact (operation.step _ _ rfl).keeps ih
  | drop _ ih => exact ih
  | clear _ _ => exact .clear

/-! ## What is sent for a text -/

/-- The engine has prepared the statement for the text. -/
def PreparedBy (engine : Engine σ) (sql : String) (raw : Turso.Statement) : Prop :=
  ∃ state state', engine.serve (.prepare sql) state = (.answered (.ok raw), state')

/-- What a fetch sends for its text, by the statement that is held for it. -/
inductive TextSent (engine : Engine σ) (sql : String) (persistent : Bool)
    (arguments : Option TursoArguments) (held : Option TursoStatement) : List Event → Prop
  | turnedAway (bound : arguments.isSome = true) (seen : inspectSql sql ≠ {}) :
      TextSent engine sql persistent arguments held []
  | batch (several : (inspectSql sql).mayContainMultipleStatements = true)
      (unbound : arguments = none) (status : Status) :
      TextSent engine sql persistent arguments held [⟨.executeBatch sql, status⟩]
  | unprepared (single : (inspectSql sql).mayContainMultipleStatements = false)
      (isAsked : persistent = true → held = none) {status : Status} (ended : status ≠ .done) :
      TextSent engine sql persistent arguments held [⟨.prepare sql, status⟩]
  | prepared (single : (inspectSql sql).mayContainMultipleStatements = false)
      (isAsked : persistent = true → held = none) {raw : Turso.Statement}
      (isPrepared : PreparedBy engine sql raw) (status : Status) :
      TextSent engine sql persistent arguments held [⟨.prepare sql, .done⟩,
        ⟨.query raw (arguments.map TursoArguments.intoTursoValues), status⟩]
  | kept (single : (inspectSql sql).mayContainMultipleStatements = false)
      (isPersistent : persistent = true) {statement : TursoStatement} (isHeld : held = some statement)
      {raw : Turso.Statement} (isRaw : statement.raw = some raw)
      (isPrepared : PreparedBy engine sql raw) (status : Status) :
      TextSent engine sql persistent arguments held
        [⟨.query raw (arguments.map TursoArguments.intoTursoValues), status⟩]

/-- What a fetch sends: all rollbacks of the queue and then what its text asks for, or only
rollbacks.  A statement that was got for a persistent fetch is held then. -/
structure FetchSends (engine : Engine σ) (sql : String) (persistent : Bool)
    (arguments : Option TursoArguments) (start : World σ)
    (outcome : Outcome SqlxError FetchStream) (world : World σ) : Prop where
  cleared : (clearPendingRollback engine start).1 = .returned () → ∃ events own,
    List.Forall₂ ExecutedRollback start.pending events ∧
      world.sent = start.sent ++ events ++ own ∧
      TextSent engine sql persistent arguments (start.connection.statements.held sql) own
  uncleared : (clearPendingRollback engine start).1 ≠ .returned () → ∃ events,
    world.sent = start.sent ++ events ∧
      ∀ event ∈ events, ∃ depth ∈ start.pending, event.request = rollbackRequest depth
  keeps : (inspectSql sql).mayContainMultipleStatements = false → persistent = true →
    start.connection.statements.isEnabled = true → ∀ stream, outcome = .returned stream →
    ∃ statement, world.connection.statements.held sql = some statement

/-- What preparing sends: nothing where a statement is held, which is got then, and one
request otherwise.  What was got is held then. -/
structure PrepareSends (engine : Engine σ) (sql : String) (start : World σ)
    (outcome : Outcome SqlxError TursoStatement) (world : World σ) : Prop where
  held : ∀ statement, start.connection.statements.held sql = some statement →
    outcome = .returned statement ∧ world.sent = start.sent
  asked : start.connection.statements.held sql = none →
    ∃ status, world.sent = start.sent ++ [⟨.prepare sql, status⟩]
  got : ∀ statement, outcome = .returned statement → Describes engine sql statement
  keeps : start.connection.statements.isEnabled = true → ∀ statement,
    outcome = .returned statement → world.connection.statements.held sql = some statement

theorem held_cacheStatement (connection : TursoConnection)
    (isEnabled : connection.statements.isEnabled = true) (statement : TursoStatement) :
    (connection.cacheStatement sql statement).statements.held sql = some statement := by
  rw [TursoConnection.cacheStatement, if_pos isEnabled]
  exact connection.statements.caches.inserted connection.statements.calls sql statement
    (of_decide_eq_true isEnabled)

variable (sql) in
theorem prepareSql_sends (keeps : world.connection.statements.Keeps engine) :
    PrepareSends engine sql world (prepareSql engine sql world).1
      (prepareSql engine sql world).2 := by
  have prepares := prepareSql_cases engine sql world
  generalize prepareSql engine sql world = ended at prepares ⊢
  obtain ⟨outcome, reached⟩ := ended
  cases prepares with
  | @held found isHeld =>
      refine ⟨fun statement isFound => ?_, fun notHeld => ?_, ?_, fun _ => ?_⟩
      · cases isHeld.symm.trans isFound
        exact ⟨rfl, rfl⟩
      · cases isHeld.symm.trans notHeld
      · rintro _ ⟨⟩
        exact keeps.describes sql _ isHeld
      · rintro _ ⟨⟩
        exact (StatementCache.held_getMut _ sql sql).trans isHeld
  | made notHeld served =>
      refine ⟨fun _ isFound => ?_, fun _ => ⟨_, rfl⟩, ?_, fun isEnabled => ?_⟩
      · cases notHeld.symm.trans isFound
      · rintro _ ⟨⟩
        exact ⟨_, _, _, served, rfl⟩
      · rintro _ ⟨⟩
        exact held_cacheStatement (world.connection.cachedStatement sql).2 isEnabled _
  | refused notHeld served =>
      refine ⟨fun _ isFound => ?_, fun _ => ⟨_, rfl⟩, fun _ => nofun, fun _ _ => nofun⟩
      cases notHeld.symm.trans isFound
  | dropped notHeld served =>
      refine ⟨fun _ isFound => ?_, fun _ => ⟨_, rfl⟩, fun _ => nofun, fun _ _ => nofun⟩
      cases notHeld.symm.trans isFound

/-- How getting a statement for a query ends. -/
inductive Readies (engine : Engine σ) (sql : String) (persistent : Bool) (start : World σ) :
    Outcome SqlxError Turso.Statement → World σ → Prop
  | kept {statement : TursoStatement} {raw : Turso.Statement} {world : World σ}
      (isPersistent : persistent = true)
      (isHeld : start.connection.statements.held sql = some statement)
      (isRaw : statement.raw = some raw) (isPrepared : PreparedBy engine sql raw)
      (sent : world.sent = start.sent)
      (same : world.connection.statements.held sql = some statement) :
      Readies engine sql persistent start (.returned raw) world
  | prepared {raw : Turso.Statement} {world : World σ}
      (isAsked : persistent = true → start.connection.statements.held sql = none)
      (isPrepared : PreparedBy engine sql raw)
      (sent : world.sent = start.sent ++ [⟨.prepare sql, .done⟩])
      (keeps : persistent = true → start.connection.statements.isEnabled = true →
        ∃ statement, world.connection.statements.held sql = some statement) :
      Readies engine sql persistent start (.returned raw) world
  | unprepared {outcome : Outcome SqlxError Turso.Statement} {world : World σ} (status : Status)
      (isAsked : persistent = true → start.connection.statements.held sql = none)
      (ended : ∀ raw, outcome ≠ .returned raw) (isEnd : status ≠ .done)
      (sent : world.sent = start.sent ++ [⟨.prepare sql, status⟩]) :
      Readies engine sql persistent start outcome world

variable (sql) in
theorem prepareQueryStatement_readies (persistent : Bool)
    (keeps : world.connection.statements.Keeps engine) :
    Readies engine sql persistent world (prepareQueryStatement engine sql persistent world).1
      (prepareQueryStatement engine sql persistent world).2 := by
  cases persistent with
  | false =>
      change Readies engine sql false world (call engine (.prepare sql) world).1
        (call engine (.prepare sql) world).2
      have notAsked : false = true → world.connection.statements.held sql = none := nofun
      have meets : Meets (· = world) (call engine (.prepare sql))
          (Readies engine sql false world) := by
        apply call_meets
        · rintro _ raw state rfl served
          exact .prepared notAsked ⟨_, _, served⟩ rfl nofun
        · rintro _ error state rfl _
          exact .unprepared (.refused error) notAsked (fun _ => nofun) nofun rfl
        · rintro _ state rfl _
          exact .unprepared .dropped notAsked (fun _ => nofun) nofun rfl
      exact meets world rfl
  | true =>
      change Readies engine sql true world ((prepareSql engine sql >>= _) world).1
        ((prepareSql engine sql >>= _) world).2
      rw [bind_apply]
      have prepares := prepareSql_cases engine sql world
      generalize prepareSql engine sql world = ended at prepares ⊢
      obtain ⟨outcome, reached⟩ := ended
      cases prepares with
      | @held found isHeld =>
          obtain ⟨raw, state, state', served, rfl⟩ := keeps.describes sql _ isHeld
          exact .kept rfl isHeld rfl ⟨state, state', served⟩ rfl
            ((StatementCache.held_getMut _ sql sql).trans isHeld)
      | @made raw state notHeld served =>
          exact .prepared (fun _ => notHeld) ⟨_, state, served⟩ rfl fun _ isEnabled =>
            ⟨_, held_cacheStatement (world.connection.cachedStatement sql).2 isEnabled _⟩
      | @refused error state notHeld served =>
          exact .unprepared (.refused error) (fun _ => notHeld) (fun _ => nofun) nofun rfl
      | dropped notHeld served =>
          exact .unprepared .dropped (fun _ => notHeld) (fun _ => nofun) nofun rfl

variable (engine world) in
theorem call_sendsOne (request : Request) :
    SameCache world (call engine request world).2 ∧ ∃ status,
      (call engine request world).2.sent = world.sent ++ [⟨request, status⟩] := by
  have meets : Meets (· = world) (call engine request) fun _ reached =>
      SameCache world reached ∧ ∃ status, reached.sent = world.sent ++ [⟨request, status⟩] := by
    apply call_meets
    · rintro _ answer state rfl _
      exact ⟨rfl, _, rfl⟩
    · rintro _ error state rfl _
      exact ⟨rfl, _, rfl⟩
    · rintro _ state rfl _
      exact ⟨rfl, _, rfl⟩
  exact meets world rfl

/-- What a query sends for its text, and what is held after it. -/
structure Queries (engine : Engine σ) (sql : String) (persistent : Bool)
    (arguments : Option TursoArguments) (start : World σ)
    (outcome : Outcome SqlxError FetchStream) (world : World σ) : Prop where
  sends : ∃ own, world.sent = start.sent ++ own ∧
    TextSent engine sql persistent arguments (start.connection.statements.held sql) own
  keeps : persistent = true → start.connection.statements.isEnabled = true →
    ∀ stream, outcome = .returned stream →
    ∃ statement, world.connection.statements.held sql = some statement

section Querying

variable {persistent : Bool} {arguments : Option TursoArguments}

variable (arguments) in
/-- Querying a raw statement sends one request. -/
theorem querySql_of_readied {raw : Turso.Statement} {middle : World σ}
    (readied : prepareQueryStatement engine sql persistent world = (.returned raw, middle)) :
    SameCache middle (querySql engine sql persistent arguments world).2 ∧ ∃ status,
      (querySql engine sql persistent arguments world).2.sent = middle.sent ++
        [⟨.query raw (arguments.map TursoArguments.intoTursoValues), status⟩] := by
  have sendsOne := call_sendsOne engine middle
    (.query raw (arguments.map TursoArguments.intoTursoValues))
  rw [querySql, bind_apply, readied]
  dsimp only
  rw [bind_apply, read_apply]
  dsimp only
  rw [bind_apply]
  generalize call engine (.query raw (arguments.map TursoArguments.intoTursoValues)) middle =
    called at sendsOne ⊢
  obtain ⟨outcome, reached⟩ := called
  cases outcome <;> exact sendsOne

variable (persistent arguments) in
theorem querySql_queries (single : (inspectSql sql).mayContainMultipleStatements = false)
    (keeps : world.connection.statements.Keeps engine) :
    Queries engine sql persistent arguments world
      (querySql engine sql persistent arguments world).1
      (querySql engine sql persistent arguments world).2 := by
  have readies := prepareQueryStatement_readies sql persistent keeps
  cases readied : prepareQueryStatement engine sql persistent world with
  | mk outcome middle =>
      rw [readied] at readies
      cases readies with
      | @kept statement raw _ isPersistent isHeld isRaw isPrepared sent same =>
          obtain ⟨sameCache, status, sends⟩ := querySql_of_readied arguments readied
          rw [sent] at sends
          refine ⟨⟨_, sends, .kept single isPersistent isHeld isRaw isPrepared status⟩, ?_⟩
          intro _ _ _ _
          rw [sameCache]
          exact ⟨statement, same⟩
      | @prepared raw _ isAsked isPrepared sent held =>
          obtain ⟨sameCache, status, sends⟩ := querySql_of_readied arguments readied
          rw [sent, List.append_assoc] at sends
          refine ⟨⟨_, sends, .prepared single isAsked isPrepared status⟩, ?_⟩
          intro isPersistent isEnabled _ _
          rw [sameCache]
          exact held isPersistent isEnabled
      | unprepared status isAsked ended isEnd sent =>
          rw [querySql, bind_apply, readied]
          cases outcome with
          | returned raw => exact absurd rfl (ended raw)
          | failed error => exact ⟨⟨_, sent, .unprepared single isAsked isEnd⟩, fun _ _ _ => nofun⟩
          | dropped => exact ⟨⟨_, sent, .unprepared single isAsked isEnd⟩, fun _ _ _ => nofun⟩

variable (sql persistent arguments) in
theorem fetchCleared_sends (keeps : world.connection.statements.Keeps engine) :
    (∃ own, (fetchCleared engine sql persistent arguments world).2.sent = world.sent ++ own ∧
      TextSent engine sql persistent arguments (world.connection.statements.held sql) own) ∧
    ((inspectSql sql).mayContainMultipleStatements = false → persistent = true →
      world.connection.statements.isEnabled = true → ∀ stream,
      (fetchCleared engine sql persistent arguments world).1 = .returned stream →
      ∃ statement, (fetchCleared engine sql persistent arguments
        world).2.connection.statements.held sql = some statement) := by
  cases several : (inspectSql sql).mayContainMultipleStatements with
  | true =>
      refine ⟨?_, nofun⟩
      cases arguments with
      | some arguments =>
          obtain ⟨surface, fails⟩ := fetchCleared_of_seen engine persistent arguments (.inl several)
          rw [fails]
          refine ⟨[], (List.append_nil _).symm, .turnedAway rfl fun unseen => ?_⟩
          rw [unseen] at several
          cases several
      | none =>
          rw [fetchCleared_of_several several, executeBatchSql]
          obtain ⟨_, status, sends⟩ := call_sendsOne engine world (.executeBatch sql)
          refine ⟨_, ?_, .batch several rfl status⟩
          rw [← sends, bind_apply, bind_apply]
          cases call engine (.executeBatch sql) world with
          | mk outcome reached => cases outcome <;> rfl
  | false =>
      have queried := querySql_queries persistent arguments several keeps
      cases arguments with
      | none =>
          rw [fetchCleared_of_single several]
          exact ⟨queried.sends, fun _ => queried.keeps⟩
      | some arguments =>
          rcases inspected_or_seen sql with inspected | isSeen
          · rw [fetchCleared_of_inspected inspected]
            exact ⟨queried.sends, fun _ => queried.keeps⟩
          · obtain ⟨surface, fails⟩ := fetchCleared_of_seen engine persistent arguments isSeen
            rw [fails]
            refine ⟨⟨[], (List.append_nil _).symm, .turnedAway rfl fun unseen => ?_⟩,
              fun _ _ _ _ => nofun⟩
            rw [unseen] at isSeen
            rcases isSeen with isSeen | isSeen <;> cases isSeen

theorem fetchManySql_sends (keeps : world.connection.statements.Keeps engine) :
    FetchSends engine sql persistent arguments world
      (fetchManySql engine sql persistent arguments world).1
      (fetchManySql engine sql persistent arguments world).2 := by
  have meets : Meets (· = world) (clearPendingRollback engine) _ :=
    clearPendingRollback_spec world
  have ended := meets world rfl
  have sameCache : SameCache world (clearPendingRollback engine world).2 :=
    clearPendingRollback_sameCache world world rfl
  rw [fetchManySql_eq, bind_apply]
  have uncleared : ∀ {outcome reached}, Uncleared world reached →
      clearPendingRollback engine world = (outcome, reached) → outcome ≠ .returned () →
      ∀ {end_ : Outcome SqlxError FetchStream}, (∀ stream, end_ ≠ .returned stream) →
      FetchSends engine sql persistent arguments world end_ reached := by
    intro outcome reached uncleared isEnd notReturned end_ noStream
    refine ⟨fun returned => ?_, fun _ => uncleared.onlyRollbacks, ?_⟩
    · rw [isEnd] at returned
      exact absurd returned notReturned
    · exact fun _ _ _ stream returned => absurd returned (noStream stream)
  cases cleared : clearPendingRollback engine world with
  | mk outcome reached =>
      rw [cleared] at ended sameCache
      cases outcome with
      | failed error => exact uncleared ended cleared nofun fun _ => nofun
      | dropped => exact uncleared ended.1 cleared nofun fun _ => nofun
      | returned value =>
          have sameCache : reached.connection.statements = world.connection.statements := sameCache
          obtain ⟨events, executed, sent⟩ := ended.executed
          have keeps : reached.connection.statements.Keeps engine := sameCache ▸ keeps
          obtain ⟨⟨own, sends, isOwn⟩, held⟩ := fetchCleared_sends sql persistent arguments keeps
          rw [sameCache] at isOwn held
          dsimp only
          refine ⟨fun _ => ⟨events, own, executed, by rw [sends, sent], isOwn⟩, ?_, held⟩
          intro notReturned
          rw [cleared] at notReturned
          exact absurd rfl notReturned

end Querying

/-- A connection that has fetched a text once. -/
def fetchedOnce : World Unit :=
  ((Operation.fetchMany { sql := "SELECT 1" }).run acceptingEngine
    { connection := { statements := { caches := .roomy, capacity := 1 } }, engine := () }).2

end SqlxTurso
