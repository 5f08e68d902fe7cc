import SqlxTurso.Sql.Regions
import SqlxTurso.Sql.Statements

/-!
# Statements joined by semicolons

The text of a statement closes its regions and has no semicolon outside them.  Joined by
semicolons, such texts are the pieces of the text that they make up.
-/

namespace SqlxTurso.Sql

open SqlxTurso.Library

/-- The text of one statement. -/
structure IsStatement (sql : String) : Prop where
  closed : Mode.code.after sql.toList (some ';') = .code
  noSeparator : (annotate .code sql.toList).any Marked.isSeparator = false
  filled : (annotate .code sql.toList).any Marked.isContent = true

instance (sql : String) : Decidable (IsStatement sql) :=
  decidable_of_iff
    (Mode.code.after sql.toList (some ';') = .code ∧
      (annotate .code sql.toList).any Marked.isSeparator = false ∧
      (annotate .code sql.toList).any Marked.isContent = true)
    ⟨fun ⟨closed, noSeparator, filled⟩ => ⟨closed, noSeparator, filled⟩,
      fun statement => ⟨statement.closed, statement.noSeparator, statement.filled⟩⟩

/-- Texts with a semicolon between each two of them. -/
def joined : List String → List Char
  | [] => []
  | [sql] => sql.toList
  | sql :: rest => sql.toList ++ ';' :: joined rest

theorem joined_cons (sql : String) {rest : List String} (more : rest ≠ []) :
    joined (sql :: rest) = sql.toList ++ ';' :: joined rest := by
  cases rest with
  | nil => exact absurd rfl more
  | cons next rest => rfl

/-- A semicolon that follows has no part in how a character is marked. -/
theorem mark_semicolon (mode : Mode) (ch : Char) :
    mode.mark ch (some ';') = mode.mark ch none ∧ mode.next ch (some ';') = mode.next ch none := by
  cases mode <;> simp [Mode.mark, Mode.next]

/-- A text that a semicolon follows is marked as it is alone. -/
theorem annotate_append_semicolon (mode : Mode) (text rest : List Char) :
    annotate mode (text ++ ';' :: rest) =
      annotate mode text ++ annotate (mode.after text (some ';')) (';' :: rest) := by
  induction text generalizing mode with
  | nil => cases mode <;> simp [annotate, Mode.after]
  | cons ch text ih =>
      rw [List.cons_append, annotate_cons, annotate_cons, List.head?_append, ih, Mode.after,
        List.head?_cons]
      cases text with
      | nil => simp [mark_semicolon]
      | cons next text => simp

theorem annotate_joined {sql : String} (statement : IsStatement sql) (rest : List Char) :
    annotate .code (sql.toList ++ ';' :: rest) =
      annotate .code sql.toList ++ ⟨';', .outside⟩ :: annotate .code rest := by
  rw [annotate_append_semicolon, statement.closed, annotate_plain rest (by decide)]

theorem annotate_chars (mode : Mode) (chars : List Char) :
    (annotate mode chars).map Marked.char = chars := by
  induction chars generalizing mode with
  | nil => cases mode <;> rfl
  | cons ch rest ih => rw [annotate_cons, List.map_cons, ih]

theorem pieces_statement {sql : String} (statement : IsStatement sql) :
    pieces Marked.isSeparator (annotate .code sql.toList) = [annotate .code sql.toList] := by
  apply List.splitOnP_eq_singleton
  intro item inText
  have none := List.any_eq_false.mp statement.noSeparator item inText
  simpa using none

/-- The statements of a joined text are those that it was joined from. -/
theorem filledPieces_joined {statements : List String} (nonempty : statements ≠ [])
    (valid : ∀ sql ∈ statements, IsStatement sql) :
    filledPieces (String.ofList (joined statements)) =
      statements.map fun sql => annotate .code sql.toList := by
  rw [filledPieces, sqlPieces, String.toList_ofList]
  induction statements with
  | nil => exact absurd rfl nonempty
  | cons sql rest ih =>
      rw [List.forall_mem_cons] at valid
      have first : isFilledPiece (annotate .code sql.toList) = true := valid.1.filled
      cases rest with
      | nil =>
          rw [joined, pieces_statement valid.1]
          simp [first]
      | cons next rest =>
          have separator : Marked.isSeparator ⟨';', .outside⟩ = true := by decide
          rw [joined_cons sql (List.cons_ne_nil _ _), annotate_joined valid.1, pieces,
            List.splitOnP_append_cons _ _ separator, List.filter_append]
          have onward := ih (List.cons_ne_nil _ _) valid.2
          have alone := pieces_statement valid.1
          unfold pieces at onward alone
          rw [onward, alone]
          simp [first]

theorem inspectSql_statement {sql : String} (statement : IsStatement sql) :
    (inspectSql sql).mayContainMultipleStatements = false := by
  rw [mayContainMultipleStatements_eq, sqlPieces, pieces_statement statement]
  split <;> rfl

theorem inspectSql_joined {statements : List String} (several : 2 ≤ statements.length)
    (valid : ∀ sql ∈ statements, IsStatement sql) :
    (inspectSql (String.ofList (joined statements))).mayContainMultipleStatements = true := by
  apply multiple_of_two_filled
  rw [filledPieces_joined (by rintro rfl; cases several) valid, List.length_map]
  exact several

end SqlxTurso.Sql
