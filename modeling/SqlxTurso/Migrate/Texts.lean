import SqlxTurso.Migrate.Apply
import SqlxTurso.Migrate.RoundTrip
import SqlxTurso.Sql.Names

/-!
# The texts of the migrator

Every text on the migrations table is built around the text of its name.  The scanner
takes each of them for one statement without a named placeholder, whatever the name is.
-/

namespace SqlxTurso

open Library Async Sql

def createTableSql (tableName : SqliteIdentifierPath) : String :=
  "\nCREATE TABLE IF NOT EXISTS " ++ tableName.display ++
    " (\n    version BIGINT PRIMARY KEY,\n    description TEXT NOT NULL,\n" ++
    "    installed_on TIMESTAMP NOT NULL DEFAULT CURRENT_TIMESTAMP,\n" ++
    "    success BOOLEAN NOT NULL,\n    checksum BLOB NOT NULL,\n" ++
    "    execution_time BIGINT NOT NULL\n);\n                "

def dirtyVersionSql (tableName : SqliteIdentifierPath) : String :=
  "SELECT version FROM " ++ tableName.display ++
    " WHERE success = false ORDER BY version LIMIT 1"

def listAppliedSql (tableName : SqliteIdentifierPath) : String :=
  "SELECT version, checksum FROM " ++ tableName.display ++ " ORDER BY version"

/-- The plain `INSERT` of a migration that is skipped. -/
def skipSql (tableName : SqliteIdentifierPath) : String :=
  "\nINSERT INTO " ++ tableName.display ++
    " ( version, description, success, checksum, execution_time )\n" ++
    "VALUES ( ?1, ?2, TRUE, ?3, -1 )\n                "

/-- The texts on the migrations table. -/
def tableTexts (tableName : SqliteIdentifierPath) : List String :=
  [createTableSql tableName, dirtyVersionSql tableName, listAppliedSql tableName,
    insertRowSql tableName, skipSql tableName, updateTimeSql tableName, deleteRowSql tableName]

/-! ## Under the scanner -/

theorem SqliteIdentifier.inspectFrom_display (identifier : SqliteIdentifier)
    (sawStatement : Bool) (placeholder : Option String) (rest : List Char) :
    inspectFrom sawStatement placeholder (identifier.display.toList ++ rest) =
      inspectFrom true placeholder rest := by
  rw [toList_display, List.cons_append, List.append_assoc, List.singleton_append,
    inspectFrom_quote]
  exact inspectFrom_doubled placeholder identifier.name.toList rest

/-- The name of a table is a statement's text to the scanner, and nothing more. -/
theorem SqliteIdentifierPath.Named.inspectFrom_display {path : SqliteIdentifierPath}
    (named : path.Named) (sawStatement : Bool) (placeholder : Option String)
    (rest : List Char) :
    inspectFrom sawStatement placeholder (path.display.toList ++ rest) =
      inspectFrom true placeholder rest := by
  rcases path with ⟨parts⟩
  rcases named with ⟨length, _⟩
  match parts, length with
  | [part], _ => exact part.inspectFrom_display sawStatement placeholder rest
  | [first, second], _ =>
      have characters : (SqliteIdentifierPath.display ⟨[first, second]⟩).toList ++ rest =
          first.display.toList ++ (['.'] ++ (second.display.toList ++ rest)) := by
        simp [SqliteIdentifierPath.display]
      rw [characters, first.inspectFrom_display, inspectFrom_append (List.all_eq_true.mp rfl),
        second.inspectFrom_display]

/-- The scanner has seen a statement after the text, and no placeholder. -/
def LeadsInto (text : String) : Prop :=
  ∀ rest : String, inspectSql (text ++ rest) = inspectFrom true none rest.toList

theorem leadsInto_name {path : SqliteIdentifierPath} (named : path.Named) {before : String}
    (silent : before.toList.all isSilent = true) : LeadsInto (before ++ path.display) := by
  intro rest
  rw [inspectSql_eq, String.toList_append, String.toList_append, List.append_assoc,
    inspectFrom_append (List.all_eq_true.mp silent), named.inspectFrom_display]

namespace LeadsInto

variable {text more : String} (leads : LeadsInto text)

include leads

theorem append (silent : more.toList.all isSilent = true) : LeadsInto (text ++ more) := by
  intro rest
  rw [String.append_assoc, leads, String.toList_append,
    inspectFrom_append (List.all_eq_true.mp silent), Bool.true_or]

theorem ends (rests : inspectFrom true none more.toList = {}) :
    inspectSql (text ++ more) = {} := by
  rw [leads, rests]

end LeadsInto

section Texts

variable {path : SqliteIdentifierPath} (named : path.Named)

include named

theorem inspectSql_createTableSql : inspectSql (createTableSql path) = {} := by
  refine ((((leadsInto_name named ?_).append ?_).append ?_).append ?_).ends ?_
  all_goals
    rw [String.toList_ofList]
    decide +kernel

theorem inspectSql_insertRowSql : inspectSql (insertRowSql path) = {} := by
  refine ((leadsInto_name named ?_).append ?_).ends ?_
  all_goals
    rw [String.toList_ofList]
    decide +kernel

theorem inspectSql_skipSql : inspectSql (skipSql path) = {} := by
  refine ((leadsInto_name named ?_).append ?_).ends ?_
  all_goals
    rw [String.toList_ofList]
    decide +kernel

/-- No text on the migrations table is taken for several statements, and none for one with
a named placeholder. -/
theorem inspectSql_tableTexts : ∀ sql ∈ tableTexts path, inspectSql sql = {} := by
  simp only [tableTexts, List.forall_mem_cons, List.not_mem_nil, false_implies,
    implies_true, and_true]
  refine ⟨inspectSql_createTableSql named, (leadsInto_name named ?_).ends ?_,
    (leadsInto_name named ?_).ends ?_, inspectSql_insertRowSql named, inspectSql_skipSql named,
    (leadsInto_name named ?_).ends ?_, (leadsInto_name named ?_).ends ?_⟩
  all_goals
    rw [String.toList_ofList]
    decide +kernel

end Texts

/-- Whatever the name of the table is, every text on it is prepared as one statement, with
or without arguments. -/
theorem table_texts_are_single_statements {tableName : String} {path : SqliteIdentifierPath}
    (parsed : SqliteIdentifierPath.parse tableName = .ok path) :
    ∀ sql ∈ tableTexts path,
      (inspectSql sql).mayContainMultipleStatements = false ∧
        (inspectSql sql).unsupportedNamedPlaceholder = none ∧
        ∀ (σ : Type) (engine : Engine σ) persistent arguments,
          fetchManySql engine sql persistent arguments =
            clearPendingRollback engine >>= fun _ =>
              querySql engine sql persistent arguments := by
  intro sql isText
  have inspected := inspectSql_tableTexts (SqliteIdentifierPath.named_of_parse parsed) sql isText
  rw [inspected]
  exact ⟨rfl, rfl, fun _ _ => fetchManySql_of_inspected inspected⟩

/-- A path whose names hold what the scanner looks for. -/
def hostilePath : SqliteIdentifierPath := ⟨[⟨"a;$x --"⟩, ⟨"\"; :y [ /*"⟩]⟩

theorem hostile_table_is_single_statement :
    ((tableTexts hostilePath).all fun sql =>
      !(inspectSql sql).mayContainMultipleStatements) = true := by
  have parsed : SqliteIdentifierPath.parse hostilePath.display = .ok hostilePath :=
    SqliteIdentifierPath.parse_display ⟨.inr rfl, by decide⟩
  refine List.all_eq_true.mpr fun sql isText => ?_
  rw [(table_texts_are_single_statements parsed sql isText).1]
  rfl

end SqlxTurso
