import SqlxTurso.Connection.Discipline

/-!
# The depth and the queue

A dropped handle lowers the depth at once and leaves its rollback in the queue.  Whatever
the engine answers, and wherever a future is dropped, the queue holds the levels right
above the depth, and it is drained from the innermost level on.
-/

namespace SqlxTurso

open Library Async

variable {σ α β : Type} {engine : Engine σ}

/-! ## The levels above a depth -/

/-- The queue holds the levels right above the depth, the innermost first. -/
def FitsDepth (world : World σ) : Prop :=
  ∃ count, world.pending = levelsAbove world.depth count

/-- What is left of the levels above a depth when the innermost ones are taken. -/
theorem levelsAbove_rest {depth count : Nat} {levels queue : List Nat}
    (split : levelsAbove depth count = levels ++ queue) :
    ∃ left, queue = levelsAbove depth left := by
  induction levels generalizing count with
  | nil => exact ⟨count, split.symm⟩
  | cons level levels ih =>
      cases count with
      | zero => cases split
      | succ count => exact ih (List.cons.inj split).2

/-- The depth is lowered or raised by one level at most. -/
def MovesByOne (depth after : Nat) : Prop :=
  after = depth ∨ after = depth + 1 ∨ after + 1 = depth

theorem movesByOne_pred (depth : Nat) : MovesByOne depth (depth - 1) := by
  cases depth with
  | zero => exact .inl rfl
  | succ depth => exact .inr (.inr rfl)

/-! ## Steps -/

/-- The queue was drained: each of its rollbacks was sent in order, before anything else. -/
structure Drained (start : World σ) (outcome : Outcome SqlxError α) (world : World σ) :
    Prop where
  sent : ∃ events later, world.sent = start.sent ++ events ++ later ∧
    List.Forall₂ (fun depth event => event.request = rollbackRequest depth) start.pending
      events ∧
    (outcome ≠ .dropped → List.Forall₂ ExecutedRollback start.pending events)

/-- What a step does to the depth and to the queue. -/
structure Stepped (start : World σ) (outcome : Outcome SqlxError α) (world : World σ) :
    Prop where
  fits : FitsDepth start → FitsDepth world
  moved : MovesByOne start.depth world.depth
  drained : world.pending = [] → world.failed = false → Drained start outcome world

/-- A program that keeps the queue and the depth together. -/
def Steps (program : Program σ α) : Prop :=
  ∀ start, Meets (· = start) program (Stepped start)

/-- The end of a step matters only where its future is dropped. -/
theorem Stepped.of_outcome {start world : World σ} {outcome : Outcome SqlxError α}
    {other : Outcome SqlxError β} (stepped : Stepped start outcome world)
    (undropped : other ≠ .dropped → outcome ≠ .dropped) : Stepped start other world := by
  refine ⟨stepped.fits, stepped.moved, fun empty sound => ?_⟩
  obtain ⟨events, later, sent, requests, executed⟩ := (stepped.drained empty sound).sent
  exact ⟨events, later, sent, requests, fun notDropped => executed (undropped notDropped)⟩

/-- The queue stays, more is sent, and the depth moves by one level at most. -/
structure Moves (start world : World σ) : Prop where
  keeps : KeepsQueue start world
  sameFailed : world.failed = start.failed
  moved : MovesByOne start.depth world.depth

theorem OnlySends.moves {start world : World σ} (onlySends : OnlySends start world) :
    Moves start world :=
  ⟨onlySends.keepsQueue, congrArg TransactionState.rollbackFailed onlySends.sameState,
    .inl (congrArg TransactionState.depth onlySends.sameState)⟩

/-- A move may come after requests. -/
theorem OnlySends.thenMoves {start middle world : World σ} (first : OnlySends start middle)
    (second : Moves middle world) : Moves start world := by
  have onward := first.moves
  have sameDepth : middle.depth = start.depth :=
    congrArg TransactionState.depth first.sameState
  refine ⟨onward.keeps.trans second.keeps, second.sameFailed.trans onward.sameFailed, ?_⟩
  rw [← sameDepth]
  exact second.moved

theorem moves_bind {first : Program σ α} {next : α → Program σ β}
    (sends : Preserves OnlySends first) (moves : ∀ value, Preserves Moves (next value)) :
    Preserves Moves (first >>= next) := by
  intro start
  refine Meets.bind (fun _ world => OnlySends start world) ?_ ?_
  · refine (sends start).imp ?_
    intro outcome world onlySends
    cases outcome with
    | returned value => exact onlySends
    | failed error => exact onlySends.moves
    | dropped => exact onlySends.moves
  · intro value
    apply Meets.of_state
    intro middle onlySends
    exact (moves value middle).mono (fun _ atMiddle => atMiddle)
      fun _ _ onward => onlySends.thenMoves onward

theorem changeTransaction_moves {change : TransactionState → TransactionState}
    (samePending : ∀ state, (change state).pendingRollbackDepths = state.pendingRollbackDepths)
    (sameFailed : ∀ state, (change state).rollbackFailed = state.rollbackFailed)
    (moved : ∀ state, MovesByOne state.depth (change state).depth) :
    Preserves Moves (changeTransaction change : Program σ Unit) :=
  .modify fun world => ⟨⟨samePending world.transactionState, [], (List.append_nil _).symm⟩,
    sameFailed world.transactionState, moved world.transactionState⟩

theorem stepped_of_onlySends {start world : World σ} (outcome : Outcome SqlxError α)
    (onlySends : OnlySends start world) : Stepped start outcome world := by
  have moves := onlySends.moves
  have sameDepth : world.depth = start.depth :=
    congrArg TransactionState.depth onlySends.sameState
  constructor
  · rintro ⟨count, isQueue⟩
    exact ⟨count, by rw [moves.keeps.samePending, sameDepth, isQueue]⟩
  · exact moves.moved
  · intro empty _
    obtain ⟨later, sends⟩ := onlySends.sends
    have startEmpty := moves.keeps.samePending.symm.trans empty
    refine ⟨[], later, ?_, ?_, fun _ => ?_⟩
    · rw [sends, List.append_nil]
    · rw [startEmpty]
      exact .nil
    · rw [startEmpty]
      exact .nil

/-- More may be sent after a step that returned. -/
theorem Stepped.thenSends {start middle world : World σ} {value : α}
    (stepped : Stepped start (.returned value) middle) (onlySends : OnlySends middle world)
    (outcome : Outcome SqlxError β) : Stepped start outcome world := by
  have sameDepth : world.depth = middle.depth :=
    congrArg TransactionState.depth onlySends.sameState
  have samePending : world.pending = middle.pending := onlySends.keepsQueue.samePending
  have sameFailed : world.failed = middle.failed := onlySends.moves.sameFailed
  constructor
  · intro startFits
    rw [FitsDepth, sameDepth, samePending]
    exact stepped.fits startFits
  · rw [sameDepth]
    exact stepped.moved
  · rw [samePending, sameFailed]
    intro empty sound
    obtain ⟨events, later, sent, requests, executed⟩ := (stepped.drained empty sound).sent
    obtain ⟨more, sends⟩ := onlySends.sends
    refine ⟨events, later ++ more, ?_, requests, fun _ => executed nofun⟩
    rw [sends, sent, List.append_assoc _ later more]

theorem Steps.of_onlySends {program : Program σ α} (preserves : Preserves OnlySends program) :
    Steps program :=
  fun start => (preserves start).imp fun outcome _ => stepped_of_onlySends outcome

/-! ## Draining -/

/-- Clearing the queue came to an early end: it was not started, or the engine executed some
of the rollbacks and refused the next one, or the future of that one was dropped. -/
inductive Undrained (start world : World σ) : Outcome SqlxError Unit → Prop where
  | crashed : start.failed = true → world = start →
      Undrained start world (.failed .workerCrashed)
  | refused {levels queue : List Nat} {depth : Nat} {events : List Event}
      {error : Turso.Error} : start.pending = levels ++ depth :: queue →
      List.Forall₂ ExecutedRollback levels events → isEndedLevel depth error = false →
      world.sent = start.sent ++ (events ++ [⟨rollbackRequest depth, .refused error⟩]) →
      world.failed = true → world.pending = [] → world.depth = start.depth →
      Undrained start world (.failed (mapTursoError error))
  | dropped {levels : List Nat} {depth : Nat} {events : List Event} :
      start.pending = levels ++ depth :: world.pending →
      List.Forall₂ ExecutedRollback levels events →
      world.sent = start.sent ++ (events ++ [⟨rollbackRequest depth, .dropped⟩]) →
      world.depth = start.depth → Undrained start world .dropped

theorem clearPendingRollback_drains (start : World σ) :
    Meets (· = start) (clearPendingRollback engine) fun outcome world =>
      match outcome with
      | .returned _ => Cleared start world
      | outcome => Undrained start world outcome := by
  apply clearPendingRollback_clearing
  · exact fun failed => .crashed failed rfl
  · exact fun world clearing => clearing.cleared
  · intro depth queue world error state clearing notEnded
    obtain ⟨levels, events, split, executed, sent⟩ := clearing.executed
    refine .refused split executed notEnded ?_ rfl rfl clearing.sameDepth
    rw [← List.append_assoc, ← sent]
    exact World.afterRollback_sent world depth _ state
  · intro depth queue world state clearing
    obtain ⟨levels, events, split, executed, sent⟩ := clearing.executed
    have rest : start.pending =
        levels ++ depth :: (world.afterRollback depth .dropped state).pending := by
      rw [World.afterRollback_pending, clearing.rest, List.tail_cons, split]
    have sentLast : (world.afterRollback depth .dropped state).sent =
        start.sent ++ (events ++ [⟨rollbackRequest depth, .dropped⟩]) := by
      rw [World.afterRollback_sent, sent, List.append_assoc]
    exact .dropped rest executed sentLast clearing.sameDepth

/-- Where clearing the queue ends early, the queue fits the depth still, and it is drained
only if all of it was sent. -/
theorem Undrained.stepped {start world : World σ} {outcome : Outcome SqlxError Unit}
    (undrained : Undrained start world outcome) : Stepped start outcome world := by
  cases undrained with
  | crashed failed same =>
      subst same
      refine ⟨fun fits => fits, .inl rfl, fun _ sound => ?_⟩
      exact absurd (sound.symm.trans failed) Bool.false_ne_true
  | refused _ _ _ _ failed empty sameDepth =>
      refine ⟨fun _ => ⟨0, empty⟩, .inl sameDepth, fun _ sound => ?_⟩
      exact absurd (sound.symm.trans failed) Bool.false_ne_true
  | @dropped levels depth events split executed sent sameDepth =>
      rw [List.append_cons] at split
      refine ⟨?_, .inl sameDepth, ?_⟩
      · rintro ⟨count, isQueue⟩
        rw [FitsDepth, sameDepth]
        exact levelsAbove_rest (isQueue.symm.trans split)
      · intro empty _
        rw [empty, List.append_nil] at split
        refine ⟨events ++ [⟨rollbackRequest depth, .dropped⟩], [], ?_, ?_,
          fun notDropped => absurd rfl notDropped⟩
        · rw [List.append_nil, sent]
        · rw [split]
          exact List.rel_append (executed.imp fun _ _ done => done.1) (.cons rfl .nil)

/-- What comes after the queue was cleared moves the depth once. -/
theorem Cleared.stepped {start middle world : World σ} (cleared : Cleared start middle)
    (moves : Moves middle world) (outcome : Outcome SqlxError α) :
    Stepped start outcome world := by
  refine ⟨fun _ => ⟨0, moves.keeps.samePending.trans cleared.empty⟩, ?_, ?_⟩
  · rw [← cleared.sameDepth]
    exact moves.moved
  · intro _ _
    obtain ⟨events, executed, sent⟩ := cleared.executed
    obtain ⟨later, sends⟩ := moves.keeps.sends
    refine ⟨events, later, ?_, executed.imp fun _ _ done => done.1, fun _ => executed⟩
    rw [sends, sent]

/-! ## The operations -/

/-- A program that clears the queue first and then moves the depth once at most. -/
def ClearsFirst (engine : Engine σ) (program : Program σ α) : Prop :=
  ∃ next : Unit → Program σ α, program = clearPendingRollback engine >>= next ∧
    ∀ value, Preserves Moves (next value)

theorem begin_clearsFirst (statement : Option SqlStr) :
    ClearsFirst engine (TursoTransactionManager.begin engine statement) := by
  refine ⟨_, rfl, fun _ => moves_bind (.read _) fun depth => ?_⟩
  split
  · exact (Preserves.fail _).mono fun _ _ => OnlySends.moves
  · refine moves_bind (call_onlySends _) fun _ => ?_
    exact changeTransaction_moves (fun _ => rfl) (fun _ => rfl) fun _ => .inr (.inl rfl)

/-- A begin that returns counts one level more. -/
theorem begin_depth {statement : Option SqlStr} (start : World σ) :
    Meets (· = start) (TursoTransactionManager.begin engine statement)
      fun outcome world => outcome = .returned () → world.depth = start.depth + 1 := by
  refine Meets.bind (fun _ world => world.depth = start.depth) ?_ fun _ => ?_
  · refine (clearPendingRollback_spec start).imp ?_
    intro outcome world ended
    cases outcome with
    | returned value => exact Cleared.sameDepth ended
    | failed error => exact nofun
    | dropped => exact nofun
  · apply Meets.of_state
    intro middle sameDepth
    apply Meets.read
    intro depth
    split
    · exact Meets.fail fun _ _ => nofun
    · refine Meets.bind (fun _ world => world.depth = start.depth) ?_ fun _ => ?_
      · refine (call_onlySends _ middle).mono (fun _ atMiddle => atMiddle.1) ?_
        intro outcome world onlySends
        cases outcome with
        | returned value =>
            exact (congrArg TransactionState.depth onlySends.sameState).trans sameDepth
        | failed error => exact nofun
        | dropped => exact nofun
      · exact Meets.modify fun _ isDepth _ => congrArg (· + 1) isDepth

theorem finish_clearsFirst (sql : Nat → TransactionSql) :
    ClearsFirst engine (TursoTransactionManager.finish engine sql) := by
  refine ⟨_, rfl, fun _ => moves_bind (.read _) fun depth => ?_⟩
  split
  · exact (Preserves.pure _).mono fun _ _ => OnlySends.moves
  · refine moves_bind (call_onlySends _) fun _ => ?_
    apply changeTransaction_moves TransactionState.decrementDepth_pending
      TransactionState.decrementDepth_failed
    intro state
    rw [TransactionState.decrementDepth_depth]
    exact movesByOne_pred state.depth

theorem fetchManySql_clearsFirst (sql : String) (persistent : Bool)
    (arguments : Option TursoArguments) :
    ClearsFirst engine (fetchManySql engine sql persistent arguments) :=
  ⟨_, fetchManySql_eq engine sql persistent arguments, fun _ =>
    (fetchCleared_onlySends sql persistent arguments).mono fun _ _ => OnlySends.moves⟩

/-- A fetch fails without a request where its arguments cannot be encoded. -/
theorem fetchMany_cases (engine : Engine σ) (query : Query) :
    (∃ error, fetchMany engine query = Async.fail error) ∨
      ClearsFirst engine (fetchMany engine query) := by
  rw [fetchMany]
  cases query.arguments with
  | error error => exact .inl ⟨_, rfl⟩
  | ok arguments => exact .inr (fetchManySql_clearsFirst _ _ _)

namespace Steps

theorem of_clearsFirst {program : Program σ α} (clears : ClearsFirst engine program) :
    Steps program := by
  obtain ⟨next, rfl, moves⟩ := clears
  intro start
  refine Meets.bind (fun _ world => Cleared start world) ?_ fun value => ?_
  · refine (clearPendingRollback_drains start).imp ?_
    intro outcome world ended
    cases outcome with
    | returned value => exact ended
    | failed error => exact ended.stepped.of_outcome fun _ => nofun
    | dropped => exact ended.stepped.of_outcome fun notDropped => absurd rfl notDropped
  · apply Meets.of_state
    intro middle cleared
    exact (moves value middle).mono (fun _ atMiddle => atMiddle)
      fun outcome _ onward => cleared.stepped onward outcome

theorem bind {first : Program σ α} {next : α → Program σ β} (steps : Steps first)
    (sends : ∀ value, Preserves OnlySends (next value)) : Steps (first >>= next) := by
  intro start
  refine Meets.bind (fun value world => Stepped start (.returned value) world) ?_ fun value => ?_
  · refine (steps start).imp ?_
    intro outcome world stepped
    cases outcome with
    | returned value => exact stepped
    | failed error => exact stepped.of_outcome fun _ => nofun
    | dropped => exact stepped.of_outcome fun notDropped => absurd rfl notDropped
  · apply Meets.of_state
    intro middle stepped
    exact (sends value middle).mono (fun _ atMiddle => atMiddle)
      fun outcome _ onward => stepped.thenSends onward outcome

end Steps

theorem fetchMany_steps (query : Query) : Steps (fetchMany engine query) := by
  rcases fetchMany_cases engine query with ⟨error, fails⟩ | clears
  · rw [fails]
    exact .of_onlySends (.fail error)
  · exact .of_clearsFirst clears

theorem Operation.steps (operation : Operation) : Steps (operation.run engine) := by
  cases operation with
  | begin statement => exact .of_clearsFirst (begin_clearsFirst statement)
  | commit => exact .of_clearsFirst (finish_clearsFirst _)
  | rollback => exact .of_clearsFirst (finish_clearsFirst _)
  | fetchMany query => exact .bind (fetchMany_steps query) fun _ => .pure _
  | fetchOptional query =>
      exact .bind (.bind (fetchMany_steps query) fun _ => liftExcept_onlySends _) fun _ =>
        .pure _
  | prepareWith sql => exact .of_onlySends (Operation.onlySends_of_skipsQueue _ _ rfl)
  | describe sql => exact .of_onlySends (Operation.onlySends_of_skipsQueue _ _ rfl)
  | ping => exact .of_onlySends (Operation.onlySends_of_skipsQueue _ _ rfl)

theorem startRollback_steps : Steps (TursoTransactionManager.startRollback (σ := σ)) := by
  rintro _ start rfl
  change Stepped start _ (start.onTransaction TransactionState.markRollbackNeeded)
  by_cases closed : start.depth = 0
  · apply stepped_of_onlySends
    refine ⟨TransactionState.markRollbackNeeded_of_depth_zero _ closed, [], ?_⟩
    exact (List.append_nil _).symm
  · have isPending : (start.onTransaction TransactionState.markRollbackNeeded).pending =
        start.pending ++ [start.depth] :=
      TransactionState.markRollbackNeeded_pending _ (Nat.pos_of_ne_zero closed)
    have isDepth : (start.onTransaction TransactionState.markRollbackNeeded).depth =
        start.depth - 1 := TransactionState.markRollbackNeeded_depth _
    refine ⟨?_, ?_, ?_⟩
    · rintro ⟨count, isQueue⟩
      obtain ⟨more, ordered, _⟩ := start.transactionState.markRollbackNeeded_levels isQueue
      exact ⟨more, ordered⟩
    · rw [isDepth]
      exact movesByOne_pred start.depth
    · intro empty
      exact absurd (isPending.symm.trans empty) (List.append_ne_nil_of_right_ne_nil _ nofun)

/-! ## Runs -/

/-- The worlds that runs of operations and of drops lead to. -/
inductive Reached (engine : Engine σ) : World σ → Prop where
  | fresh {world : World σ} : world.transactionState = {} → Reached engine world
  | operate {world : World σ} (operation : Operation) :
      Reached engine world → Reached engine (operation.run engine world).2
  | drop {world : World σ} :
      Reached engine world →
      Reached engine (TursoTransactionManager.startRollback world).2

theorem Reached.fitsDepth {world : World σ} (reached : Reached engine world) :
    FitsDepth world := by
  induction reached with
  | fresh isFresh => exact ⟨0, congrArg TransactionState.pendingRollbackDepths isFresh⟩
  | operate operation _ ih => exact (operation.steps _ _ rfl).fits ih
  | drop _ ih => exact (startRollback_steps _ _ rfl).fits ih

/-- In every run the queue holds the levels right above the depth, which moves by one level
at a time.  An operation that looks at the queue succeeds only where it is empty then, and
a queue is drained by the rollbacks of its levels, in order and before anything else. -/
theorem depth_and_queue_fit {world : World σ} (reached : Reached engine world) :
    (∃ count, world.pending = levelsAbove world.depth count) ∧
      MovesByOne world.depth (TursoTransactionManager.startRollback world).2.depth ∧
      ∀ (operation : Operation) (outcome : Outcome SqlxError Unit) (after : World σ),
        operation.run engine world = (outcome, after) →
        MovesByOne world.depth after.depth ∧
          (operation.skipsQueue = false → outcome = .returned () → after.pending = []) ∧
          (after.pending = [] → after.failed = false → Drained world outcome after) := by
  refine ⟨reached.fitsDepth, (startRollback_steps _ world rfl).moved, ?_⟩
  intro operation outcome after ran
  have stepped : Stepped world (operation.run engine world).1 (operation.run engine world).2 :=
    operation.steps world world rfl
  rw [ran] at stepped
  refine ⟨stepped.moved, ?_, stepped.drained⟩
  intro looks returned
  have safeUse : SafeUse world (operation.run engine world).1 (operation.run engine world).2 :=
    operation.usesSafely_of_not_skipsQueue looks world world rfl
  rw [ran] at safeUse
  cases failed : world.failed with
  | true =>
      obtain ⟨error, isFailed⟩ := (safeUse.crashed failed).1
      cases returned.symm.trans isFailed
  | false => exact (safeUse.cleared failed () returned).1

theorem dropped_handle_is_drained :
    Reached acceptingEngine withDroppedHandle ∧ withDroppedHandle.pending = [1] ∧
      ∃ after, Operation.commit.run acceptingEngine withDroppedHandle = (.returned (), after) ∧
        after.pending = [] ∧ Drained withDroppedHandle (.returned () : Outcome SqlxError Unit)
          after := by
  have reached : Reached acceptingEngine withDroppedHandle :=
    .drop (.operate (.begin none) (.fresh rfl))
  obtain ⟨-, -, operations⟩ := depth_and_queue_fit reached
  obtain ⟨-, empty, drained⟩ := operations .commit _ _ rfl
  exact ⟨reached, rfl, _, rfl, empty rfl rfl, drained rfl rfl⟩

end SqlxTurso
