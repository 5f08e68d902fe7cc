import SqlxTurso.Library.Pieces
import SqlxTurso.Sql.Scanner

/-!
# The lexical grammar of SQL texts

The reference reading of a text, independent of the scanner.  Every character
is marked as standing outside, inside a quoted region or inside a comment.  A
semicolon outside regions separates pieces, and a piece is filled when it has a
character outside comments that is not white space.
-/

namespace SqlxTurso.Sql

open SqlxTurso.Library

/-- Where a character of a text stands. -/
inductive Mark where
  | outside
  | quoted
  | comment
  deriving DecidableEq, Repr

/-- The region that the next character belongs to. -/
inductive Mode where
  | code
  /-- inside a single-quoted literal -/
  | single
  /-- on the second quote of a doubled one -/
  | singleEscape
  /-- inside a region ended by the first `close` -/
  | delimited (close : Char)
  | line
  /-- on the star that opens a block comment -/
  | blockOpen
  | block
  /-- on the slash that closes a block comment -/
  | blockClose
  deriving DecidableEq, Repr

/-- A character with its mark. -/
structure Marked where
  char : Char
  mark : Mark
  deriving DecidableEq, Repr

/-- Mark every character of a text that is read from the given mode.  A region
that is not closed runs to the end of the text. -/
def annotate : Mode → List Char → List Marked
  | _, [] => []
  | .code, ch :: rest =>
      if ch = '\'' then
        ⟨ch, .quoted⟩ :: annotate .single rest
      else if ch = doubleQuote ∨ ch = backQuote then
        ⟨ch, .quoted⟩ :: annotate (.delimited ch) rest
      else if ch = '[' then
        ⟨ch, .quoted⟩ :: annotate (.delimited ']') rest
      else if ch = '-' ∧ rest.head? = some '-' then
        ⟨ch, .comment⟩ :: annotate .line rest
      else if ch = '/' ∧ rest.head? = some '*' then
        ⟨ch, .comment⟩ :: annotate .blockOpen rest
      else
        ⟨ch, .outside⟩ :: annotate .code rest
  | .single, ch :: rest =>
      ⟨ch, .quoted⟩ ::
        (if ch = '\'' then
          if rest.head? = some '\'' then annotate .singleEscape rest
          else annotate .code rest
        else annotate .single rest)
  | .singleEscape, ch :: rest => ⟨ch, .quoted⟩ :: annotate .single rest
  | .delimited close, ch :: rest =>
      ⟨ch, .quoted⟩ ::
        (if ch = close then annotate .code rest else annotate (.delimited close) rest)
  | .line, ch :: rest =>
      ⟨ch, .comment⟩ :: (if ch = '\n' then annotate .code rest else annotate .line rest)
  | .blockOpen, ch :: rest => ⟨ch, .comment⟩ :: annotate .block rest
  | .block, ch :: rest =>
      ⟨ch, .comment⟩ ::
        (if ch = '*' ∧ rest.head? = some '/' then annotate .blockClose rest
        else annotate .block rest)
  | .blockClose, ch :: rest => ⟨ch, .comment⟩ :: annotate .code rest

namespace Marked

/-- A semicolon outside regions. -/
def isSeparator (item : Marked) : Bool := item.mark == .outside && item.char == ';'

/-- A character outside comments that is not white space, separators apart. -/
def isContent (item : Marked) : Bool :=
  item.mark != .comment && !isWhitespace item.char && !item.isSeparator

theorem not_content_of_separator (item : Marked)
    (separator : item.isSeparator = true) : item.isContent = false := by
  simp [isContent, separator]

@[simp] theorem isSeparator_quoted (ch : Char) :
    isSeparator ⟨ch, .quoted⟩ = false := by
  simp [isSeparator]

@[simp] theorem isSeparator_comment (ch : Char) :
    isSeparator ⟨ch, .comment⟩ = false := by
  simp [isSeparator]

@[simp] theorem isContent_comment (ch : Char) :
    isContent ⟨ch, .comment⟩ = false := by
  simp [isContent]

end Marked

/-- The pieces of a text between its separators. -/
def sqlPieces (sql : String) : List (List Marked) :=
  pieces Marked.isSeparator (annotate .code sql.toList)

/-- A piece that holds a character outside comments that is not white space. -/
def isFilledPiece (piece : List Marked) : Bool := isFilled Marked.isContent piece

/-- The statements of a text: its filled pieces, in order. -/
def filledPieces (sql : String) : List (List Marked) :=
  (sqlPieces sql).filter isFilledPiece

/-! ## What one region does to the marks of a text -/

/-- A text read from `mode` is a run of characters with one mark, followed by
`rest` read as code. -/
def RunsTo (mode : Mode) (mark : Mark) (chars rest : List Char) : Prop :=
  ∃ body : List Marked, annotate mode chars = body ++ annotate .code rest ∧
    ∀ item ∈ body, item.mark = mark

theorem RunsTo.nil (mode : Mode) (mark : Mark) : RunsTo mode mark [] [] :=
  ⟨[], by cases mode <;> simp [annotate], by simp⟩

theorem RunsTo.cons {mode next : Mode} {mark : Mark} {ch : Char}
    {chars rest : List Char} (run : RunsTo next mark chars rest)
    (first : annotate mode (ch :: chars) = ⟨ch, mark⟩ :: annotate next chars) :
    RunsTo mode mark (ch :: chars) rest := by
  rcases run with ⟨body, split, marks⟩
  refine ⟨⟨ch, mark⟩ :: body, ?_, ?_⟩
  · rw [first, split, List.cons_append]
  · exact List.forall_mem_cons.mpr ⟨rfl, marks⟩

theorem RunsTo.close {mode : Mode} {mark : Mark} {ch : Char} {chars : List Char}
    (first : annotate mode (ch :: chars) = ⟨ch, mark⟩ :: annotate .code chars) :
    RunsTo mode mark (ch :: chars) chars := by
  have none : RunsTo .code mark chars chars := ⟨[], by simp, by simp⟩
  exact none.cons first

@[simp] theorem annotate_length (mode : Mode) (chars : List Char) :
    (annotate mode chars).length = chars.length := by
  induction chars generalizing mode with
  | nil => cases mode <;> simp [annotate]
  | cons ch rest ih =>
      cases mode <;> simp only [annotate] <;> repeat' split
      all_goals simp [ih]

theorem RunsTo.length_le {mode : Mode} {mark : Mark} {chars rest : List Char}
    (run : RunsTo mode mark chars rest) : rest.length ≤ chars.length := by
  rcases run with ⟨body, split, marks⟩
  have lengths := congrArg List.length split
  simp only [annotate_length, List.length_append] at lengths
  omega

theorem runsTo_single (chars : List Char) :
    RunsTo .single .quoted chars (skipSingleQuoted chars) := by
  fun_induction skipSingleQuoted chars with
  | case1 => exact RunsTo.nil _ _
  | case2 chars ih =>
      have escape : RunsTo .singleEscape .quoted ('\'' :: chars) (skipSingleQuoted chars) :=
        ih.cons (by simp [annotate])
      exact escape.cons (by simp [annotate])
  | case3 chars notDoubled =>
      apply RunsTo.close
      have single : chars.head? ≠ some '\'' := by
        intro doubled
        cases chars with
        | nil => simp at doubled
        | cons ch rest =>
            simp only [List.head?_cons, Option.some.injEq] at doubled
            subst doubled
            exact notDoubled rest rfl rfl
      simp [annotate, single]
  | case4 quoted chars notDoubled notQuote ih =>
      exact ih.cons (by simp [annotate, notQuote])

theorem runsTo_delimited (close : Char) (chars : List Char) :
    RunsTo (.delimited close) .quoted chars (skipQuoted close chars) := by
  fun_induction skipQuoted close chars with
  | case1 => exact RunsTo.nil _ _
  | case2 chars => exact RunsTo.close (by simp [annotate])
  | case3 quoted chars other ih => exact ih.cons (by simp [annotate, other])

theorem runsTo_line (chars : List Char) :
    RunsTo .line .comment chars (skipLineComment chars) := by
  fun_induction skipLineComment chars with
  | case1 => exact RunsTo.nil _ _
  | case2 chars => exact RunsTo.close (by simp [annotate])
  | case3 ch chars other ih => exact ih.cons (by simp [annotate, other])

/-- The mode of a block comment after `previous` has been read.  The scanner
remembers the last character where the grammar looks at the next one. -/
def blockMode (previous : Char) (chars : List Char) : Mode :=
  if previous = '*' ∧ chars.head? = some '/' then .blockClose else .block

theorem runsTo_block (previous : Char) (chars : List Char) :
    RunsTo (blockMode previous chars) .comment chars
      (skipBlockCommentFrom previous chars) := by
  fun_induction skipBlockCommentFrom previous chars with
  | case1 => exact RunsTo.nil _ _
  | case2 previous ch chars closes =>
      exact RunsTo.close (by simp [blockMode, closes, annotate])
  | case3 previous ch chars stays ih =>
      have inside : blockMode previous (ch :: chars) = .block := by
        simp only [blockMode, List.head?_cons, Option.some.injEq, stays, ↓reduceIte]
      rw [inside]
      refine ih.cons ?_
      by_cases closing : ch = '*' ∧ chars.head? = some '/' <;>
        simp [annotate, blockMode, closing]

end SqlxTurso.Sql
