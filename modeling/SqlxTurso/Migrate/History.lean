import SqlxTurso.Migrate.Ledger

/-!
# Histories of the migrations table

Calls of the migrator follow one another in any order, and the texts of their migrations
may succeed or fail.  The table keeps up with a ledger that is told of each call and of
its end, and nothing else.
-/

namespace SqlxTurso

open Library Async Sql

variable {D : Type}

/-- A call of the migrator, with the time that the clock shows where it is asked. -/
inductive MigratorCall where
  | apply (migration : Migration) (elapsed : Nat)
  | revert (migration : Migration) (elapsed : Nat)
  | skip (migration : Migration)
  | listAppliedMigrations
  | dirtyVersion
  deriving DecidableEq, Repr

namespace MigratorCall

/-- Make a call, whatever value it returns. -/
def perform {σ : Type} (engine : Engine σ) (reader : RowReader) (tableName : String) :
    MigratorCall → MigrateProgram σ Unit
  | apply migration elapsed => do
      let _ ← SqlxTurso.apply engine tableName migration elapsed
      pure ()
  | revert migration elapsed => do
      let _ ← SqlxTurso.revert engine tableName migration elapsed
      pure ()
  | skip migration => SqlxTurso.skip engine tableName migration
  | listAppliedMigrations => do
      let _ ← SqlxTurso.listAppliedMigrations engine reader tableName
      pure ()
  | dirtyVersion => do
      let _ ← SqlxTurso.dirtyVersion engine reader tableName
      pure ()

/-- The ledger after a call that ended as told. -/
def follow (ledger : Ledger) (outcome : Outcome MigrateError Unit) : MigratorCall → Ledger
  | apply migration _ =>
      outcome.choose
        (Function.update ledger migration.version (some (true, migration.checksum)))
        (Function.update ledger migration.version (some (false, migration.checksum)))
  | revert migration _ =>
      outcome.choose (Function.update ledger migration.version none) ledger
  | skip migration =>
      if ledger migration.version = none then
        Function.update ledger migration.version (some (true, migration.checksum))
      else ledger
  | listAppliedMigrations => ledger
  | dirtyVersion => ledger

/-- The text that a call executes leaves the table alone. -/
def Apart (rows : D → List LedgerRow) (meaning : Meaning D) : MigratorCall → Prop
  | apply migration _ => migration.Apart rows meaning
  | revert migration _ => migration.Apart rows meaning
  | _ => True

end MigratorCall

/-- The worlds and ledgers that calls on one table lead to.  What the engine makes of the
texts of the migrations may be another one for each call. -/
inductive LedgerRun (rows : D → List LedgerRow) (path : SqliteIdentifierPath)
    (reader : RowReader) (tableName : String) : World (Sqlite D) → Ledger → Prop where
  | start {world model ledger} :
      Holding rows ledger world model → LedgerRun rows path reader tableName world ledger
  | call {world ledger} (meaning : Meaning D) (call : MigratorCall) :
      LedgerRun rows path reader tableName world ledger → LedgerMeaning rows path meaning →
      call.Apart rows meaning →
      LedgerRun rows path reader tableName (call.perform (sqlite meaning) reader tableName world).2
        (call.follow ledger (call.perform (sqlite meaning) reader tableName world).1)

section Runs

variable {rows : D → List LedgerRow} {path : SqliteIdentifierPath} {reader : RowReader}
  {tableName : String} {meaning : Meaning D} {world : World (Sqlite D)} {model : Snapshots D} {ledger : Ledger}

/-- The program of a call ends as the call itself, and the ledger follows it. -/
theorem MigratorCall.perform_holds (means : LedgerMeaning rows path meaning)
    (parsed : SqliteIdentifierPath.parse tableName = .ok path) (call : MigratorCall)
    (apart : call.Apart rows meaning) (holding : Holding rows ledger world model) :
    Holds rows (call.follow ledger (call.perform (sqlite meaning) reader tableName world).1) model
      (call.perform (sqlite meaning) reader tableName world).2 := by
  have named := SqliteIdentifierPath.named_of_parse parsed
  cases call with
  | apply migration elapsed =>
      have applied := (apply_holds means named holding apart parsed elapsed).discard
      rw [perform, applied.outcome, follow, Outcome.choose_map, Outcome.choose_map]
      exact applied.reached.choose (Holds rows · model)
  | revert migration elapsed =>
      have reverted := (revert_holds means named holding apart parsed elapsed).discard
      rw [perform, reverted.outcome, follow, Outcome.choose_map, Outcome.choose_map]
      exact reverted.reached.choose (Holds rows · model)
  | skip migration =>
      rw [follow]
      split
      next absent => exact (skip_records means named holding parsed absent).reached
      next known =>
        obtain ⟨_, refused⟩ := skip_refuses means named holding parsed known
        exact refused.reached
  | listAppliedMigrations =>
      obtain ⟨_, _, listed⟩ := listAppliedMigrations_holds means named holding reader parsed
      exact listed.discard.reached
  | dirtyVersion =>
      obtain ⟨_, _, asked⟩ := dirtyVersion_holds means named holding reader parsed
      exact asked.discard.reached

theorem LedgerRun.holding (parsed : SqliteIdentifierPath.parse tableName = .ok path)
    (run : LedgerRun rows path reader tableName world ledger) :
    ∃ model, Holding rows ledger world model := by
  induction run with
  | start holding => exact ⟨_, holding⟩
  | call meaning call _ means apart ih =>
      obtain ⟨model, holding⟩ := ih
      obtain ⟨content, holding⟩ := call.perform_holds means parsed apart holding
      exact ⟨model.write content, holding⟩

/-- The table that a connection holds once its queue is cleared, and the one that it leaves
behind when it is closed outside of all transactions. -/
structure Keeps (rows : D → List LedgerRow) (ledger : Ledger) (world : World (Sqlite D)) :
    Prop where
  cleared : ∀ meaning, (clearPendingRollback (sqlite meaning) world).1 = .returned () ∧
    Records (rows (clearPendingRollback (sqlite meaning) world).2.engine.database.content) ledger
  closed : world.depth = 0 → Records (rows world.engine.database.closed) ledger

theorem Holding.keeps (holding : Holding rows ledger world model) :
    Keeps rows ledger world := by
  refine ⟨fun meaning => ?_, fun atZero => ?_⟩
  · have cleared : (clearPendingRollback (sqlite meaning) world).1 = _ ∧ Ready _ _ :=
      clearPendingRollback_ready model world holding.quiet
    refine ⟨cleared.1, ?_⟩
    rw [cleared.2.agrees.current]
    exact holding.records
  · obtain ⟨dropped, linked⟩ := holding.quiet.refines.linked holding.quiet.calm.sound
    have noneSaved : model.saved = [] :=
      List.length_eq_zero_iff.mp (linked.depth.symm.trans atZero)
    rw [holding.quiet.refines.closes, Snapshots.bottom, noneSaved]
    exact holding.records

/-- The migrations table is a faithful ledger.  After any calls of the migrator it records
exactly what they were told to record, and reading it gives that back; and the next call
ends as its migration does, or, for one that is skipped, as the ledger says. -/
theorem migrations_table_is_a_ledger
    (parsed : SqliteIdentifierPath.parse tableName = .ok path)
    (run : LedgerRun rows path reader tableName world ledger) :
    Keeps rows ledger world ∧
      ∀ meaning, LedgerMeaning rows path meaning →
        (∃ entries, Lists ledger entries ∧
          (listAppliedMigrations (sqlite meaning) reader tableName world).1 = .returned entries) ∧
        (∃ dirty, LeastDirty ledger dirty ∧
          (dirtyVersion (sqlite meaning) reader tableName world).1 = .returned dirty) ∧
        (∀ migration,
          if ledger migration.version = none then
            (skip (sqlite meaning) tableName migration world).1 = .returned ()
          else ∃ error, (skip (sqlite meaning) tableName migration world).1 = .failed error) ∧
        ∀ migration elapsed, migration.Apart rows meaning →
          bodyOutcome (sqlite meaning) migration world ≠ .dropped ∧
          (apply (sqlite meaning) tableName migration elapsed world).1 =
            ((bodyOutcome (sqlite meaning) migration world).map fun _ => elapsed) ∧
          (revert (sqlite meaning) tableName migration elapsed world).1 =
            ((bodyOutcome (sqlite meaning) migration world).map fun _ => elapsed) := by
  have named := SqliteIdentifierPath.named_of_parse parsed
  obtain ⟨model, holding⟩ := run.holding parsed
  refine ⟨holding.keeps, fun meaning means => ⟨?_, ?_, fun migration => ?_, ?_⟩⟩
  · obtain ⟨entries, lists, listed⟩ := listAppliedMigrations_holds means named holding reader parsed
    exact ⟨entries, lists, listed.outcome⟩
  · obtain ⟨dirty, least, asked⟩ := dirtyVersion_holds means named holding reader parsed
    exact ⟨dirty, least, asked.outcome⟩
  · split
    next absent => exact (skip_records means named holding parsed absent).outcome
    next known =>
      obtain ⟨error, refused⟩ := skip_refuses means named holding parsed known
      exact ⟨error, refused.outcome⟩
  · intro migration elapsed apart
    have applied := apply_holds means named holding apart parsed elapsed
    refine ⟨fun dropped => ?_, applied.outcome,
      (revert_holds means named holding apart parsed elapsed).outcome⟩
    have reached := applied.reached
    rw [dropped] at reached
    exact reached

end Runs

/-! ## An engine for the table -/

/-- The statements on the table, by their first words. -/
inductive TableStatement where
  | createTable
  | insertRow
  | skip
  | deleteRow
  | updateTime
  | dirtyVersion
  | listApplied
  | missing
  | other
  deriving DecidableEq, Repr

def tableStatementFrom (chars : List Char) : TableStatement :=
  let words := chars.dropWhile Char.isWhitespace
  if ['C', 'R', 'E', 'A', 'T', 'E'].isPrefixOf words then .createTable
  else if ['I', 'N', 'S', 'E', 'R', 'T', ' ', 'O', 'R'].isPrefixOf words then .insertRow
  else if ['I', 'N', 'S', 'E', 'R', 'T'].isPrefixOf words then .skip
  else if ['D', 'E', 'L', 'E', 'T', 'E'].isPrefixOf words then .deleteRow
  else if ['U', 'P', 'D', 'A', 'T', 'E'].isPrefixOf words then .updateTime
  else if ['S', 'E', 'L', 'E', 'C', 'T', ' ', 'v', 'e', 'r', 's', 'i', 'o', 'n', ' '].isPrefixOf
    words then .dirtyVersion
  else if ['S', 'E', 'L', 'E', 'C', 'T', ' ', 'v', 'e', 'r', 's', 'i', 'o', 'n', ','].isPrefixOf
    words then .listApplied
  else if ['S', 'E', 'L', 'E', 'C', 'T', ' ', 'm', 'i', 's', 's', 'i', 'n', 'g'].isPrefixOf
    words then .missing
  else .other

def tableStatement (statement : String) : TableStatement :=
  tableStatementFrom statement.toList

theorem tableStatement_firstStatement (sql : String) :
    tableStatement (firstStatement sql) = tableStatementFrom
      ((((pieces Marked.isSeparator (annotate .code sql.toList)).filter isFilledPiece).head?.map
        fun piece => piece.map Marked.char).getD []) := by
  unfold firstStatement statementsOf filledPieces sqlPieces tableStatement
  rw [List.head?_map]
  cases ((pieces Marked.isSeparator (annotate .code sql.toList)).filter isFilledPiece).head? with
  | none => rfl
  | some piece =>
      rw [Option.map_some, Option.map_some, Option.getD_some, Option.getD_some,
        String.toList_ofList]

def migrationsPath : SqliteIdentifierPath := ⟨[⟨"_sqlx_migrations"⟩]⟩

/-- The name of the table in quotes. -/
def migrationsName : List Char :=
  ['"', '_', 's', 'q', 'l', 'x', '_', 'm', 'i', 'g', 'r', 'a', 't', 'i', 'o', 'n', 's', '"']

theorem display_migrationsPath : migrationsPath.display.toList = migrationsName := by
  refine (SqliteIdentifier.toList_display ⟨"_sqlx_migrations"⟩).trans ?_
  rewrite [String.toList_ofList]
  decide +kernel

theorem tableStatement_of_toList {sql : String} {before after : List Char}
    (isText : sql.toList = before ++ (migrationsPath.display.toList ++ after))
    {kind : TableStatement} (isKind : tableStatementFrom
      ((((pieces Marked.isSeparator (annotate .code (before ++ (migrationsName ++ after)))).filter
        isFilledPiece).head?.map fun piece => piece.map Marked.char).getD []) = kind) :
    tableStatement (firstStatement sql) = kind := by
  have isChars : sql.toList = before ++ (migrationsName ++ after) :=
    isText.trans (congrArg (fun name => before ++ (name ++ after)) display_migrationsPath)
  rw [← isChars] at isKind
  exact (tableStatement_firstStatement sql).trans isKind

/-- The seven statements are told apart. -/
theorem tableStatement_texts :
    tableStatement (firstStatement (createTableSql migrationsPath)) = .createTable ∧
    tableStatement (firstStatement (insertRowSql migrationsPath)) = .insertRow ∧
    tableStatement (firstStatement (skipSql migrationsPath)) = .skip ∧
    tableStatement (firstStatement (deleteRowSql migrationsPath)) = .deleteRow ∧
    tableStatement (firstStatement (updateTimeSql migrationsPath)) = .updateTime ∧
    tableStatement (firstStatement (dirtyVersionSql migrationsPath)) = .dirtyVersion ∧
    tableStatement (firstStatement (listAppliedSql migrationsPath)) = .listApplied := by
  refine ⟨tableStatement_of_toList (by
      unfold createTableSql
      simp only [String.toList_append, List.append_assoc]
      rfl) ?_,
    tableStatement_of_toList (by
      unfold insertRowSql
      simp only [String.toList_append, List.append_assoc]
      rfl) ?_,
    tableStatement_of_toList (by
      unfold skipSql
      simp only [String.toList_append, List.append_assoc]
      rfl) ?_,
    tableStatement_of_toList (by
      unfold deleteRowSql
      simp only [String.toList_append, List.append_assoc]
      rfl) ?_,
    tableStatement_of_toList (by
      unfold updateTimeSql
      simp only [String.toList_append, List.append_assoc]
      rfl) ?_,
    tableStatement_of_toList (by
      unfold dirtyVersionSql
      simp only [String.toList_append, List.append_assoc]
      rfl) ?_,
    tableStatement_of_toList (by
      unfold listAppliedSql
      simp only [String.toList_append, List.append_assoc]
      rfl) ?_⟩
  all_goals
    repeat rewrite [String.toList_ofList]
    decide +kernel

/-- A statement that returns no rows and leaves a table. -/
def leaving (table : List LedgerRow) : Except Failure (Effect (List LedgerRow)) :=
  .ok { rows := [], changes := 1, content := table }

def refusing (text : String) : Except Failure (Effect (List LedgerRow)) :=
  .error { error := { variant := .error, text } }

def inOrder (table : List LedgerRow) : List LedgerRow :=
  table.mergeSort fun row other => row.version ≤ other.version

/-- What a statement of a kind does to the table.  It is refused to select what is missing,
and any other statement does nothing. -/
def runKind (kind : TableStatement) (values : List Turso.Value) (table : List LedgerRow) :
    Except Failure (Effect (List LedgerRow)) :=
  match kind, values with
  | .createTable, _ => leaving table
  | .insertRow, [.integer version, .text _, .integer success, .blob checksum] =>
      leaving (⟨version, success = 1, checksum⟩ ::
        table.filter fun row => row.version ≠ version)
  | .skip, [.integer version, .text _, .blob checksum] =>
      if table.any (·.version = version) then refusing "UNIQUE constraint failed"
      else leaving (⟨version, true, checksum⟩ :: table)
  | .deleteRow, [.integer version] => leaving (table.filter fun row => row.version ≠ version)
  | .updateTime, [.integer _, .integer _] => leaving table
  | .dirtyVersion, [] =>
      .ok {
        rows := ((inOrder (table.filter fun row => row.success = false)).take 1).map fun row =>
          [.integer row.version]
        changes := 0
        content := table }
  | .listApplied, [] =>
      .ok {
        rows := (inOrder table).map fun row => [.integer row.version, .blob row.checksum]
        changes := 0
        content := table }
  | .missing, _ => refusing "no such column: missing"
  | .other, _ => .ok { rows := [], changes := 0, content := table }
  | _, _ => refusing "wrong number of arguments"

def columnsOfKind : TableStatement → List Turso.Column
  | .dirtyVersion => [versionColumn]
  | .listApplied => [versionColumn, checksumColumn]
  | _ => []

/-- An engine that holds the table and nothing else. -/
def ledgerEngine : Meaning (List LedgerRow) where
  describes statement _ := .ok (columnsOfKind (tableStatement statement))
  runs statement := runKind (tableStatement statement)
  controls := Function.const String none

theorem inOrder_perm (table : List LedgerRow) : (inOrder table).Perm table :=
  List.mergeSort_perm _ _

theorem inOrder_pairwise (table : List LedgerRow) :
    (inOrder table).Pairwise fun row other => row.version ≤ other.version := by
  have transitive : ∀ first second third : LedgerRow,
      decide (first.version ≤ second.version) = true →
      decide (second.version ≤ third.version) = true →
      decide (first.version ≤ third.version) = true := fun _ _ _ before after =>
    decide_eq_true (Int64.le_trans (of_decide_eq_true before) (of_decide_eq_true after))
  have total : ∀ first second : LedgerRow,
      (decide (first.version ≤ second.version) || decide (second.version ≤ first.version)) =
        true := by
    intro first second
    rw [Bool.or_eq_true, decide_eq_true_eq, decide_eq_true_eq]
    exact Int64.le_total first.version second.version
  exact (List.pairwise_mergeSort transitive total table).imp of_decide_eq_true

/-- A text without a statement is of no kind of the table. -/
theorem nonempty_of_kind {statement : String} {kind : TableStatement}
    (isKind : tableStatement statement = kind) (known : kind ≠ .other) : statement ≠ "" := by
  rintro rfl
  exact known (isKind.symm.trans (by decide))

theorem ledgerEngine_run {statement : String} {kind : TableStatement}
    (isKind : tableStatement statement = kind) (known : kind ≠ .other)
    (values : List Turso.Value) (table : List LedgerRow) :
    ledgerEngine.run statement values table = runKind kind values table := by
  rw [Meaning.run, if_neg (nonempty_of_kind isKind known), ← isKind]
  rfl

theorem ledgerEngine_columns {statement : String} {kind : TableStatement}
    (isKind : tableStatement statement = kind) (known : kind ≠ .other)
    (table : List LedgerRow) :
    ledgerEngine.columns statement table = .ok (columnsOfKind kind) := by
  rw [Meaning.columns, if_neg (nonempty_of_kind isKind known), ← isKind]
  rfl

theorem ledgerEngine_command (statement : String) : ledgerEngine.command statement = none :=
  Meaning.command_of_noControls (fun _ => rfl) statement

theorem ledgerEngine_means : LedgerMeaning id migrationsPath ledgerEngine := by
  obtain ⟨isCreate, isInsert, isSkip, isDelete, isUpdate, isDirty, isList⟩ :=
    tableStatement_texts
  refine ⟨fun _ _ => ledgerEngine_command _, ?_, ?_, ?_, ?_, ?_, ?_, ?_, ?_, ?_, ?_⟩
  · simp only [tableTexts, List.forall_mem_cons, List.not_mem_nil, false_implies,
      implies_true, and_true]
    exact ⟨fun content => ⟨_, ledgerEngine_columns isCreate (by decide) content⟩,
      fun content => ⟨_, ledgerEngine_columns isDirty (by decide) content⟩,
      fun content => ⟨_, ledgerEngine_columns isList (by decide) content⟩,
      fun content => ⟨_, ledgerEngine_columns isInsert (by decide) content⟩,
      fun content => ⟨_, ledgerEngine_columns isSkip (by decide) content⟩,
      fun content => ⟨_, ledgerEngine_columns isUpdate (by decide) content⟩,
      fun content => ⟨_, ledgerEngine_columns isDelete (by decide) content⟩⟩
  · intro content columns isColumns
    rw [ledgerEngine_columns isDirty (by decide)] at isColumns
    exact (Except.ok.inj isColumns).symm
  · intro content columns isColumns
    rw [ledgerEngine_columns isList (by decide)] at isColumns
    exact (Except.ok.inj isColumns).symm
  · intro content version description success checksum
    rw [ledgerEngine_run isInsert (by decide)]
    refine ⟨_, rfl, rfl, ?_⟩
    cases success <;> exact .refl _
  · intro content version description checksum absent
    have notAny : ¬content.any (·.version = version) = true := by
      rw [List.any_eq_true]
      rintro ⟨row, inRows, isVersion⟩
      exact absent row inRows (of_decide_eq_true isVersion)
    rw [ledgerEngine_run isSkip (by decide)]
    exact ⟨_, if_neg notAny, rfl, .refl _⟩
  · rintro content version description checksum ⟨row, inRows, isVersion⟩
    have isAny : content.any (·.version = version) = true :=
      List.any_eq_true.mpr ⟨row, inRows, decide_eq_true isVersion⟩
    rw [ledgerEngine_run isSkip (by decide)]
    exact ⟨_, if_pos isAny⟩
  · intro content version
    rw [ledgerEngine_run isDelete (by decide)]
    exact ⟨_, rfl, rfl, .refl _⟩
  · intro content time version
    rw [ledgerEngine_run isUpdate (by decide)]
    exact ⟨_, rfl, rfl, .refl _⟩
  · intro content
    rw [ledgerEngine_run isDirty (by decide)]
    exact ⟨_, _, rfl, rfl, inOrder_perm _, inOrder_pairwise _, .refl _⟩
  · intro content
    rw [ledgerEngine_run isList (by decide)]
    exact ⟨_, _, rfl, rfl, inOrder_perm _, inOrder_pairwise _, .refl _⟩

/-- A migration that the engine refuses. -/
def badMigration : Migration where
  version := 2
  description := "bad migration"
  sql := "SELECT missing"
  checksum := [1, 2, 3]
  noTx := false

/-- A fresh connection to an empty table. -/
def freshTable : World (Sqlite (List LedgerRow)) where
  connection := { statements := { caches := .roomy, capacity := 100 } }
  engine := { database := { content := [] } }

/-- A statement without arguments changes nothing. -/
theorem runKind_untouched {kind : TableStatement} {table : List LedgerRow}
    {effect : Effect (List LedgerRow)} (ran : runKind kind [] table = .ok effect) :
    effect.content = table := by
  cases kind <;> cases ran <;> rfl

theorem badMigration_apart : badMigration.Apart id ledgerEngine := by
  refine ⟨fun _ _ => ledgerEngine_command _, fun statement _ table effect ran => ?_⟩
  rw [Meaning.run] at ran
  split at ran
  next => cases ran
  next => exact (runKind_untouched ran) ▸ .refl _

theorem freshTable_holding :
    Holding id (fun _ => none) freshTable { current := [] } :=
  ⟨.fresh .roomy [] 100, .empty⟩

/-- The ledger that tells of its failure. -/
def badLedger : Ledger := Function.update (fun _ => none) 2 (some (false, [1, 2, 3]))

def applyBad : MigrateProgram (Sqlite (List LedgerRow)) Unit :=
  (MigratorCall.apply badMigration 5).perform (sqlite ledgerEngine) .plain migrationsPath.display

theorem bad_migration_is_recorded :
    Keeps id badLedger (applyBad freshTable).2 ∧
      ∃ dirty, LeastDirty badLedger dirty ∧
        (dirtyVersion (sqlite ledgerEngine) .plain migrationsPath.display
            (applyBad freshTable).2).1 =
          .returned dirty := by
  have named : migrationsPath.Named := ⟨.inl rfl, by decide⟩
  have parsed : SqliteIdentifierPath.parse migrationsPath.display = .ok migrationsPath :=
    SqliteIdentifierPath.parse_display named
  have notReturned : (bodyOutcome (sqlite ledgerEngine) badMigration freshTable).choose
      true false = false := by
    decide +kernel
  have isLedger : (MigratorCall.apply badMigration 5).follow (fun _ => none)
      (applyBad freshTable).1 = badLedger := by
    have applied := (apply_holds ledgerEngine_means named freshTable_holding badMigration_apart
      parsed 5).discard
    rw [applyBad, MigratorCall.perform, applied.outcome, MigratorCall.follow,
      Outcome.choose_map, Outcome.choose_map, Outcome.choose_of_not_returned notReturned]
    rfl
  have run : LedgerRun id migrationsPath .plain migrationsPath.display (applyBad freshTable).2 _ :=
    .call ledgerEngine (.apply badMigration 5) (.start freshTable_holding) ledgerEngine_means
      badMigration_apart
  have faithful := migrations_table_is_a_ledger parsed (isLedger ▸ run)
  exact ⟨faithful.1, (faithful.2 ledgerEngine ledgerEngine_means).2.1⟩

end SqlxTurso
