import SqlxTurso.Connection.Refinement

/-!
# Executing a text

A query that is executed is read to its end.  It returns a result only if every
statement of its text ran.  If it fails, a single statement may still have run, and of
several statements any number of the first ones.
-/

namespace SqlxTurso

open Library Async Sql

variable {D : Type} {meaning : Meaning D}

/-- The world holds the content after a change. -/
def Changed (change : D → Option D) (model : Snapshots D) (world : World (Sqlite D)) : Prop :=
  ∃ content, change model.current = some content ∧ Refines world (model.write content)

/-- The world holds the content before a change or the one after it. -/
def ChangedOrNot (change : D → Option D) (model : Snapshots D) (world : World (Sqlite D)) :
    Prop :=
  Refines world model ∨ Changed change model world

/-- The world holds any content. -/
def Rewritten (model : Snapshots D) (world : World (Sqlite D)) : Prop :=
  ∃ content, Refines world (model.write content)

theorem Changed.rewritten {change : D → Option D} {model : Snapshots D}
    {world : World (Sqlite D)} (changed : Changed change model world) :
    Rewritten model world :=
  changed.imp fun _ facts => facts.2

theorem ChangedOrNot.rewritten {change : D → Option D} {model : Snapshots D}
    {world : World (Sqlite D)} (changedOrNot : ChangedOrNot change model world) :
    Rewritten model world :=
  changedOrNot.elim (⟨model.current, ·⟩) Changed.rewritten

/-! ## One statement -/

/-- The change of a query that is a single statement. -/
def Query.change (meaning : Meaning D) (query : Query) : D → Option D :=
  meaning.contentAfter (firstStatement query.sql) query.values

theorem Ran.cases_change {query : Query} {model after : Snapshots D} {rows : Turso.Rows}
    (ran : Ran meaning query.sql query.values model rows after) :
    (∃ content, query.change meaning model.current = some content ∧
        after = model.write content) ∨
      after = model ∧ rows.failure.isSome = true := by
  cases ran with
  | executed isEffect _ =>
      refine .inl ⟨_, ?_, rfl⟩
      simp only [Query.change, Meaning.contentAfter, isEffect]
  | refused failed => exact .inr ⟨rfl, failed⟩

theorem execute_single (model : Snapshots D) {query : Query}
    (single : SingleStatement meaning query.sql) :
    Meets (Refines · model) (execute (sqlite meaning) query)
      (Ending (Changed (query.change meaning) model)
        (ChangedOrNot (query.change meaning) model)) := by
  refine Meets.bind (fun stream world => ∃ rows columns after,
    stream = .unfolded (.rows rows columns none) ∧
      Ran meaning query.sql query.values model rows after ∧ Refines world after) ?_ ?_
  · refine (fetchMany_refines model single).imp ?_
    intro outcome world queried
    cases outcome with
    | returned stream => exact queried
    | failed _ => exact .inl queried
    | dropped => exact .inl queried
  · rintro _ world ⟨rows, columns, after, rfl, ran, refines⟩
    have change := ran.cases_change
    cases result : (FetchStream.unfolded (.rows rows columns none)).queryResult with
    | ok value =>
        have sound := FetchStream.failure_of_queryResult result
        rcases change with ⟨content, isContent, rfl⟩ | ⟨_, failed⟩
        · exact ⟨content, isContent, refines⟩
        · rw [sound] at failed
          cases failed
    | error error =>
        rcases change with ⟨content, isContent, rfl⟩ | ⟨rfl, _⟩
        · exact .inr ⟨content, isContent, refines⟩
        · exact .inl refines

/-- A text with arguments is never executed as more than one statement. -/
theorem execute_bound (model : Snapshots D) {query : Query} {arguments : TursoArguments}
    (bound : query.arguments = .ok (some arguments))
    (noCommand : meaning.command (firstStatement query.sql) = none) :
    Meets (Refines · model) (execute (sqlite meaning) query)
      (Ending (Changed (query.change meaning) model)
        (ChangedOrNot (query.change meaning) model)) := by
  cases several : (inspectSql query.sql).mayContainMultipleStatements with
  | false => exact execute_single model ⟨several, noCommand⟩
  | true =>
      have refuses : Meets (Refines · model) (fetchMany (sqlite meaning) query)
          (Ending (fun _ => False) (Refines · model)) := by
        simp only [fetchMany, bound, fetchManySql]
        refine Meets.bindEnding (clearPendingRollback_ending model) fun _ => ?_
        rw [if_pos several]
        exact Meets.fail fun world agrees => agrees.refines
      exact Meets.bindEnding
        (refuses.impEnding (fun _ never => never) fun _ => .inl)
        fun _ _ => False.elim

/-! ## Several statements -/

/-- The change of a text: its statements run one after the other. -/
def textChange (meaning : Meaning D) (sql : String) : D → Option D :=
  meaning.runAll (statementsOf sql)

/-- The world holds the content after some of the first statements. -/
def Interrupted (meaning : Meaning D) (statements : List String) (model : Snapshots D)
    (world : World (Sqlite D)) : Prop :=
  ∃ count content, meaning.runAll (statements.take count) model.current = some content ∧
    Refines world (model.write content)

namespace Interrupted

variable {statements : List String} {model : Snapshots D} {world : World (Sqlite D)}

theorem rewritten (interrupted : Interrupted meaning statements model world) :
    Rewritten model world := by
  rcases interrupted with ⟨_, content, _, refines⟩
  exact ⟨content, refines⟩

theorem of_unchanged (refines : Refines world model) :
    Interrupted meaning statements model world :=
  ⟨0, model.current, rfl, refines⟩

theorem of_changed (changed : Changed (meaning.runAll statements) model world) :
    Interrupted meaning statements model world := by
  rcases changed with ⟨content, isContent, refines⟩
  refine ⟨statements.length, content, ?_, refines⟩
  rw [List.take_length]
  exact isContent

end Interrupted

/-- A text that is executed as one statement has no other change.  One without a statement
is refused. -/
theorem textChange_of_single {sql : String}
    (single : (inspectSql sql).mayContainMultipleStatements = false) {content after : D}
    (changed : meaning.contentAfter (firstStatement sql) [] content = some after) :
    textChange meaning sql content = some after := by
  have atMostOne : (statementsOf sql).length < 2 := by
    by_contra several
    rw [statementsOf, List.length_map, Nat.not_lt] at several
    exact Bool.false_ne_true (single.symm.trans (multiple_of_two_filled sql several))
  unfold textChange
  unfold firstStatement at changed
  match statementsOf sql, atMostOne, changed with
  | [], _, changed => simp [Meaning.contentAfter, meaning.run_empty] at changed
  | [statement], _, changed => simpa [Meaning.runAll] using changed

theorem performExecute_runs {statement : String}
    (noCommand : meaning.command statement = none) (refusal : Option Refusal)
    (database : Database D) :
    (∃ content, meaning.contentAfter statement [] database.content = some content ∧
      ∃ changes, performExecute (meaning.perform statement []) refusal database =
        (.ok changes, { database with content })) ∨
      ∃ error, performExecute (meaning.perform statement []) refusal database =
        (.error error, database) := by
  unfold performExecute Meaning.contentAfter
  rw [meaning.perform_of_noCommand noCommand]
  cases refusal with
  | some refusal => exact .inr ⟨_, rfl⟩
  | none =>
      cases meaning.run statement [] database.content with
      | ok effect =>
          rcases effect with ⟨_ | ⟨row, rows⟩, changes, content⟩
          · exact .inl ⟨_, rfl, _, rfl⟩
          · exact .inr ⟨_, rfl⟩
      | error failure =>
          rcases failure with ⟨_ | ⟨row, rows⟩, error⟩
          · exact .inr ⟨_, rfl⟩
          · exact .inr ⟨_, rfl⟩

/-- A batch runs its first statements, and all of them if it is answered without an
error. -/
theorem serveBatch_runs {statements : List String}
    (noCommand : ∀ statement ∈ statements, meaning.command statement = none)
    {state state' : Sqlite D} {reply : Reply Unit} (never : NeverDrops state)
    (served : meaning.serveBatch statements state = (reply, state')) :
    NeverDrops state' ∧
      ∃ content, state'.database = { content, transaction := state.database.transaction } ∧
      ((reply = .answered (.ok ()) ∧
          meaning.runAll statements state.database.content = some content) ∨
        (∃ error, reply = .answered (.error error)) ∧
          ∃ count, meaning.runAll (statements.take count) state.database.content =
            some content) := by
  induction statements generalizing state with
  | nil =>
      cases served
      exact ⟨never, state'.database.content, rfl, .inl ⟨rfl, rfl⟩⟩
  | cons statement rest ih =>
      have first := noCommand statement List.mem_cons_self
      cases isServed :
          underVerdict (performExecute (meaning.perform statement [])) state with
      | mk firstReply middle =>
          obtain ⟨neverMiddle, refusal, _, isReply, changed⟩ :=
            underVerdict_answers never isServed
          rw [Meaning.serveBatch, isServed] at served
          obtain ⟨content, isContent, changes, performed⟩ | ⟨error, performed⟩ :=
            performExecute_runs first refusal state.database
          · rw [performed] at isReply changed
            subst isReply
            obtain ⟨neverLast, last, isLast, ended⟩ :=
              ih (fun _ inRest => noCommand _ (List.mem_cons_of_mem _ inRest)) neverMiddle
                served
            rw [changed] at isLast ended
            have onward : ∀ statements,
                meaning.runAll (statement :: statements) state.database.content =
                  meaning.runAll statements content := by
              intro statements
              rw [Meaning.runAll, List.foldlM_cons, isContent]
              rfl
            refine ⟨neverLast, last, isLast, ended.imp ?_ ?_⟩
            · exact fun ran => ⟨ran.1, (onward rest).trans ran.2⟩
            · rintro ⟨isError, count, ran⟩
              exact ⟨isError, count + 1, (onward (rest.take count)).trans ran⟩
          · rw [performed] at isReply changed
            subst isReply
            cases served
            exact ⟨neverMiddle, state.database.content, changed, .inr ⟨⟨error, rfl⟩, 0, rfl⟩⟩

theorem callBatch_agrees (model : Snapshots D) {sql : String}
    (noCommand : ∀ statement ∈ statementsOf sql, meaning.command statement = none) :
    Meets (Agrees · model) (call (sqlite meaning) (.executeBatch sql))
      (Ending (Changed (textChange meaning sql) model)
        (Interrupted meaning (statementsOf sql) model)) := by
  have serves : ∀ (world : World (Sqlite D)) state' (reply : Reply Unit) status,
      Agrees world model →
      (sqlite meaning).serve (.executeBatch sql) world.engine = (reply, state') →
      (reply = .answered (.ok ()) ∧ Changed (textChange meaning sql) model
          (world.send (.executeBatch sql) status state')) ∨
        (∃ error, reply = .answered (.error error)) ∧
          Interrupted meaning (statementsOf sql) model
            (world.send (.executeBatch sql) status state') := by
    intro world state' reply status agrees served
    change meaning.serveBatch (statementsOf sql) world.engine = _ at served
    obtain ⟨never, content, changed, ended⟩ := serveBatch_runs noCommand agrees.never served
    have refines := (agrees.write never changed (.executeBatch sql) status).refines
    rw [agrees.current] at ended
    exact ended.imp (fun ran => ⟨ran.1, content, ran.2, refines⟩)
      fun ⟨isError, count, ran⟩ => ⟨isError, count, content, ran, refines⟩
  apply call_meets
  · intro world answer state agrees served
    rcases serves world state _ .done agrees served with ⟨_, changed⟩ | ⟨⟨_, isError⟩, _⟩
    · exact changed
    · cases isError
  · intro world error state agrees served
    rcases serves world state _ (.refused error) agrees served with ⟨isOk, _⟩ | ⟨_, stopped⟩
    · cases isOk
    · exact stopped
  · intro world state agrees served
    rcases serves world state _ .dropped agrees served with ⟨isOk, _⟩ | ⟨⟨_, isError⟩, _⟩
    · cases isOk
    · cases isError

/-- A text that is taken for several statements is executed as a batch. -/
theorem execute_several (model : Snapshots D) {sql : String}
    (several : (inspectSql sql).mayContainMultipleStatements = true)
    (noCommand : ∀ statement ∈ statementsOf sql, meaning.command statement = none) :
    Meets (Refines · model) (execute (sqlite meaning) { sql })
      (Ending (Changed (textChange meaning sql) model)
        (Interrupted meaning (statementsOf sql) model)) := by
  have batched : Meets (Agrees · model) (executeBatchSql (sqlite meaning) sql)
      (Ending (Changed (textChange meaning sql) model)
        (Interrupted meaning (statementsOf sql) model)) :=
    Meets.bindEnding (callBatch_agrees model noCommand) fun _ => Meets.pureEnding _
  refine Meets.bind (fun stream world => (∃ items, stream = .batch items) ∧
    Changed (textChange meaning sql) model world) ?_ ?_
  · refine Meets.bind (fun _ world => Agrees world model) ?_ fun _ => ?_
    · refine (clearPendingRollback_ending model).imp ?_
      intro outcome world ended
      cases outcome with
      | returned _ => exact ended
      | failed _ => exact .of_unchanged ended
      | dropped => exact .of_unchanged ended
    · dsimp only
      rw [if_pos several, Option.isSome_none, if_neg Bool.false_ne_true]
      refine Meets.bind (fun _ => Changed (textChange meaning sql) model) ?_
        fun items => Meets.pure fun world changed => ⟨⟨items, rfl⟩, changed⟩
      refine batched.imp ?_
      intro outcome world ended
      cases outcome <;> exact ended
  · rintro _ world ⟨⟨items, rfl⟩, changed⟩
    exact changed

theorem firstStatement_noCommand {sql : String}
    (noCommand : ∀ statement ∈ statementsOf sql, meaning.command statement = none) :
    meaning.command (firstStatement sql) = none := by
  unfold firstStatement
  cases statements : statementsOf sql with
  | nil => exact meaning.command_empty
  | cons first rest =>
      rw [statements] at noCommand
      exact noCommand first List.mem_cons_self

theorem execute_text (model : Snapshots D) {sql : String}
    (noCommand : ∀ statement ∈ statementsOf sql, meaning.command statement = none) :
    Meets (Refines · model) (execute (sqlite meaning) { sql })
      (Ending (Changed (textChange meaning sql) model)
        (Interrupted meaning (statementsOf sql) model)) := by
  cases several : (inspectSql sql).mayContainMultipleStatements with
  | true => exact execute_several model several noCommand
  | false =>
      have single : SingleStatement meaning ({ sql } : Query).sql :=
        ⟨several, firstStatement_noCommand noCommand⟩
      have isChange : ∀ world : World (Sqlite D),
          Changed (({ sql } : Query).change meaning) model world →
          Changed (textChange meaning sql) model world :=
        fun world ⟨content, isContent, refines⟩ =>
          ⟨content, textChange_of_single several isContent, refines⟩
      exact (execute_single model single).impEnding isChange
        fun world changedOrNot => changedOrNot.elim .of_unchanged
          fun changed => .of_changed (isChange world changed)

end SqlxTurso
