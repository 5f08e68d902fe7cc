import SqlxTurso.Sql.Marks

/-!
# The scanner against the grammar

Over the marks of the text the loop of `inspect_sql` is the one-pass split of
`Library.splitsLater`.  From that follow the two classification results: a text with
two statements is always reported, and a text with one statement is reported exactly
when two or more semicolons stand before it.
-/

namespace SqlxTurso.Sql

open SqlxTurso.Library

/-- The pass of `Library.splitsLater` over marked characters. -/
def splits (seen : Bool) (items : List Marked) : Bool :=
  splitsLater Marked.isSeparator Marked.isContent seen items

/-- The scanner's look-ahead at a separator is that of the pass. -/
theorem inspectMarks_splits (sawStatement : Bool) (placeholder : Option String)
    (items : List Marked) :
    (inspectMarks sawStatement placeholder items).mayContainMultipleStatements =
      splits sawStatement items := by
  induction items generalizing sawStatement placeholder with
  | nil => rfl
  | cons item rest ih =>
      rw [inspectMarks, splits, splitsLater]
      cases separator : item.isSeparator with
      | false =>
          simp only [Bool.false_and, Bool.false_eq_true, ↓reduceIte, Bool.or_false, ih]
          rfl
      | true =>
          rw [item.not_content_of_separator separator]
          cases later : sawStatement && rest.any Marked.isContent with
          | false => simp [later, ih, splits]
          | true => simp [later]

/-- What `inspect_sql` reports, in terms of the pieces of the text. -/
theorem mayContainMultipleStatements_eq (sql : String) :
    (inspectSql sql).mayContainMultipleStatements =
      if (sqlPieces sql).head?.any isFilledPiece then
        (sqlPieces sql).tail.any isFilledPiece
      else
        (sqlPieces sql).tail.tail.any isFilledPiece := by
  rw [inspectSql_marks, inspectMarks_splits, splits, splitsLater_eq _ _ _
    Marked.not_content_of_separator, Bool.false_or]
  rfl

/-- A text with two or more statements is reported as such. -/
theorem multiple_of_two_filled (sql : String)
    (several : 2 ≤ (filledPieces sql).length) :
    (inspectSql sql).mayContainMultipleStatements = true := by
  rw [mayContainMultipleStatements_eq]
  obtain ⟨first, others, split⟩ :=
    exists_pieces_eq Marked.isSeparator (annotate .code sql.toList)
  rw [filledPieces, sqlPieces, split, ← List.countP_eq_length_filter,
    List.countP_cons] at several
  rw [sqlPieces, split]
  cases firstFilled : isFilledPiece first with
  | true =>
      simp only [firstFilled, ↓reduceIte] at several
      have later : 0 < others.countP isFilledPiece := by omega
      simpa [firstFilled] using List.countP_pos_iff.mp later
  | false =>
      simp only [firstFilled, Bool.false_eq_true, ↓reduceIte, Nat.add_zero] at several
      cases others with
      | nil => simp at several
      | cons second rest =>
          have later : 0 < rest.countP isFilledPiece := by
            rw [List.countP_cons] at several
            split at several <;> omega
          simpa [firstFilled] using List.countP_pos_iff.mp later

/-- The number of semicolons that stand before the first statement. -/
def separatorsBefore (sql : String) : Nat := (sqlPieces sql).findIdx isFilledPiece

/-- A text with one statement is taken for several when two semicolons stand before it. -/
theorem multiple_of_single {sql : String} (single : (filledPieces sql).length = 1) :
    (inspectSql sql).mayContainMultipleStatements = decide (2 ≤ separatorsBefore sql) := by
  rw [mayContainMultipleStatements_eq]
  obtain ⟨first, others, split⟩ :=
    exists_pieces_eq Marked.isSeparator (annotate .code sql.toList)
  rw [filledPieces, sqlPieces, split, ← List.countP_eq_length_filter,
    List.countP_cons] at single
  rw [separatorsBefore, sqlPieces, split]
  have none_filled : ∀ rest : List (List Marked), rest.countP isFilledPiece = 0 →
      rest.any isFilledPiece = false := by
    intro rest empty
    simpa using List.countP_eq_zero.mp empty
  cases firstFilled : isFilledPiece first with
  | true =>
      simp only [firstFilled, ↓reduceIte, Nat.add_eq_right] at single
      simp [List.findIdx_cons, firstFilled, none_filled others single]
  | false =>
      simp only [firstFilled, Bool.false_eq_true, ↓reduceIte, Nat.add_zero] at single
      cases others with
      | nil => simp at single
      | cons second rest =>
          rw [List.countP_cons] at single
          cases secondFilled : isFilledPiece second with
          | true =>
              simp only [secondFilled, ↓reduceIte, Nat.add_eq_right] at single
              simp [List.findIdx_cons, firstFilled, secondFilled, none_filled rest single]
          | false =>
              simp only [secondFilled, Bool.false_eq_true, ↓reduceIte, Nat.add_zero] at single
              have later : rest.any isFilledPiece = true := by
                simpa using List.countP_pos_iff.mp (by omega : 0 < rest.countP isFilledPiece)
              simp [List.findIdx_cons, firstFilled, secondFilled, later]

/-- A text with one statement is taken for a single statement exactly when at
most one semicolon stands before it: the semicolon itself sets
`saw_statement`, so a second one is already looked ahead of. -/
theorem single_statement_iff (sql : String) (single : (filledPieces sql).length = 1) :
    (inspectSql sql).mayContainMultipleStatements = false ↔
      separatorsBefore sql ≤ 1 := by
  rw [multiple_of_single single, decide_eq_false_iff_not, Nat.not_le, Nat.lt_succ_iff]

theorem single_statement_after_one_semicolon :
    (inspectSql ";SELECT 1; -- done").mayContainMultipleStatements = false :=
  (single_statement_iff ";SELECT 1; -- done" (by decide)).mpr (by decide)

/-- Two semicolons before the only statement make it a batch. -/
theorem single_statement_taken_for_batch :
    ¬∀ sql : String, (filledPieces sql).length = 1 →
      (inspectSql sql).mayContainMultipleStatements = false := by
  intro always
  have single := always ";;SELECT 1" (by decide)
  exact absurd single (by decide)

end SqlxTurso.Sql
