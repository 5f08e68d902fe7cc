import SqlxTurso.Sql.Marks

/-!
# Regions and what they hide

A region is a literal, a quoted name or a comment with its delimiters.  The scanner goes
on after a closed region as it was before it, except that a quoted region counts as text
of a statement, so what the region holds is of no consequence for its report.
-/

namespace SqlxTurso.Sql

/-! ## Reading a part of a text -/

/-- The mark of a character that is read from a mode and followed by `next`. -/
def Mode.mark (mode : Mode) (ch : Char) (next : Option Char) : Mark :=
  match mode with
  | .code =>
      if ch = '\'' ∨ (ch = doubleQuote ∨ ch = backQuote) ∨ ch = '[' then .quoted
      else if (ch = '-' ∧ next = some '-') ∨ (ch = '/' ∧ next = some '*') then .comment
      else .outside
  | .single | .singleEscape | .delimited _ => .quoted
  | .line | .blockOpen | .block | .blockClose => .comment

/-- The mode after a character that is followed by `next`. -/
def Mode.next (mode : Mode) (ch : Char) (next : Option Char) : Mode :=
  match mode with
  | .code =>
      if ch = '\'' then .single
      else if ch = doubleQuote ∨ ch = backQuote then .delimited ch
      else if ch = '[' then .delimited ']'
      else if ch = '-' ∧ next = some '-' then .line
      else if ch = '/' ∧ next = some '*' then .blockOpen
      else .code
  | .single =>
      if ch = '\'' then if next = some '\'' then .singleEscape else .code else .single
  | .singleEscape => .single
  | .delimited close => if ch = close then .code else .delimited close
  | .line => if ch = '\n' then .code else .line
  | .blockOpen => .block
  | .block => if ch = '*' ∧ next = some '/' then .blockClose else .block
  | .blockClose => .code

/-- The mode after a part of a text that is followed by `next`. -/
def Mode.after : Mode → List Char → Option Char → Mode
  | mode, [], _ => mode
  | mode, ch :: before, next => (mode.next ch (before.head?.or next)).after before next

theorem annotate_cons (mode : Mode) (ch : Char) (rest : List Char) :
    annotate mode (ch :: rest) =
      ⟨ch, mode.mark ch rest.head?⟩ :: annotate (mode.next ch rest.head?) rest := by
  cases mode with
  | code => simp only [annotate, Mode.mark, Mode.next]; grind
  | single => simp only [annotate, Mode.mark, Mode.next]; grind
  | delimited close => simp only [annotate, Mode.mark, Mode.next]; grind
  | line => simp only [annotate, Mode.mark, Mode.next]; grind
  | block => simp only [annotate, Mode.mark, Mode.next]; grind
  | singleEscape => rfl
  | blockOpen => rfl
  | blockClose => rfl

/-- The marks of a part of a text depend on the rest only through its first character. -/
theorem annotate_append (mode : Mode) (before : List Char) (next : Option Char) :
    ∃ marks : List Marked, ∀ rest : List Char, rest.head? = next →
      annotate mode (before ++ rest) =
        marks ++ annotate (mode.after before next) rest := by
  induction before generalizing mode with
  | nil => exact ⟨[], fun rest _ => rfl⟩
  | cons ch before ih =>
      obtain ⟨marks, split⟩ := ih (mode.next ch (before.head?.or next))
      refine ⟨⟨ch, mode.mark ch (before.head?.or next)⟩ :: marks, ?_⟩
      intro rest first
      rw [List.cons_append, annotate_cons, List.head?_append, first, split rest first,
        List.cons_append, Mode.after]

/-! ## Marks that the scanner does not tell apart -/

/-- The scanner reports the same for both, whatever it has read before them. -/
structure Indistinct (items others : List Marked) : Prop where
  report : ∀ sawStatement placeholder,
    inspectMarks sawStatement placeholder items = inspectMarks sawStatement placeholder others
  content : items.any Marked.isContent = others.any Marked.isContent
  name : placeholderName items = placeholderName others

namespace Indistinct

variable {items others : List Marked}

theorem cons (same : Indistinct items others) (item : Marked) :
    Indistinct (item :: items) (item :: others) where
  report sawStatement placeholder := by
    have after : placeholderAfter item items placeholder =
        placeholderAfter item others placeholder := by
      rw [placeholderAfter, placeholderAfter, same.name]
    rw [inspectMarks, inspectMarks, same.content, after, same.report]
  content := by rw [List.any_cons, List.any_cons, same.content]
  name := by
    have rest := same.name
    unfold placeholderName at rest ⊢
    rw [List.takeWhile_cons, List.takeWhile_cons]
    split
    next => rw [List.map_cons, List.map_cons, rest]
    next => rfl

theorem append (same : Indistinct items others) (before : List Marked) :
    Indistinct (before ++ items) (before ++ others) := by
  induction before with
  | nil => exact same
  | cons item before ih => exact ih.cons item

end Indistinct

theorem placeholderName_inside {item : Marked} (inside : item.mark ≠ .outside)
    (rest : List Marked) : placeholderName (item :: rest) = [] := by
  simp [placeholderName, inside]

section Runs

variable {mode : Mode} {ch : Char} {chars others rest : List Char}

/-- Two quoted regions that end at the same place. -/
theorem Indistinct.quoted (visible : isWhitespace ch = false)
    (run : RunsTo mode .quoted chars rest) (otherRun : RunsTo mode .quoted others rest) :
    Indistinct (⟨ch, .quoted⟩ :: annotate mode chars)
      (⟨ch, .quoted⟩ :: annotate mode others) where
  report sawStatement placeholder := by
    rw [inspectMarks_quoted run visible, inspectMarks_quoted otherRun visible]
  content := by
    have content : Marked.isContent ⟨ch, .quoted⟩ = true := by
      simp [Marked.isContent, visible]
    rw [List.any_cons, List.any_cons, content, Bool.true_or, Bool.true_or]
  name := by
    rw [placeholderName_inside (by simp), placeholderName_inside (by simp)]

/-- Two comments that end at the same place. -/
theorem Indistinct.comment (run : RunsTo mode .comment chars rest)
    (otherRun : RunsTo mode .comment others rest) :
    Indistinct (⟨ch, .comment⟩ :: annotate mode chars)
      (⟨ch, .comment⟩ :: annotate mode others) where
  report sawStatement placeholder := by
    rw [inspectMarks_comment run, inspectMarks_comment otherRun]
  content := by rw [any_content_comment run, any_content_comment otherRun]
  name := by
    rw [placeholderName_inside (by simp), placeholderName_inside (by simp)]

end Runs

/-! ## Closed regions -/

/-- The regions of a text. -/
inductive Region where
  /-- a single-quoted literal -/
  | literal
  | doubleQuoted
  | backQuoted
  | bracketed
  | lineComment
  | blockComment
  deriving DecidableEq, Repr

namespace Region

/-- The characters that open a region, the first one apart. -/
def opening : Region → Char × List Char
  | literal => ('\'', [])
  | doubleQuoted => (doubleQuote, [])
  | backQuoted => (backQuote, [])
  | bracketed => ('[', [])
  | lineComment => ('-', ['-'])
  | blockComment => ('/', ['*'])

def closing : Region → List Char
  | literal => ['\'']
  | doubleQuoted => [doubleQuote]
  | backQuoted => [backQuote]
  | bracketed => [']']
  | lineComment => ['\n']
  | blockComment => ['*', '/']

/-- A region with its delimiters. -/
def text (region : Region) (content : List Char) : List Char :=
  region.opening.1 :: region.opening.2 ++ content ++ region.closing

/-- A literal's text with its quotes doubled. -/
def doubled (text : List Char) : List Char :=
  text.flatMap fun ch => if ch = '\'' then ['\'', '\''] else [ch]

/-- What may stand between the delimiters of a region. -/
def Admits (region : Region) (content : List Char) : Prop :=
  if region = literal then ∃ text, content = doubled text
  else ¬region.closing <:+: content

theorem not_mem_of_admits {region : Region} {content : List Char} {close : Char}
    (notLiteral : region ≠ literal) (closes : region.closing = [close])
    (admits : region.Admits content) : close ∉ content := by
  intro member
  rw [Admits, if_neg notLiteral, closes] at admits
  obtain ⟨before, after, split⟩ := List.append_of_mem member
  refine admits ⟨before, after, ?_⟩
  rw [split, List.append_assoc, List.singleton_append]

/-! ## The skip loops on a closed region -/

theorem skipSingleQuoted_closed (text : List Char) {after : List Char}
    (apart : after.head? ≠ some '\'') :
    skipSingleQuoted (doubled text ++ '\'' :: after) = after := by
  induction text with
  | nil =>
      have single : ∀ rest : List Char, after ≠ '\'' :: rest := by
        rintro rest rfl
        exact apart rfl
      change skipSingleQuoted ('\'' :: after) = after
      rw [skipSingleQuoted.eq_3 _ _ (by
        intro chars quote isAfter
        exact single chars isAfter)]
      rfl
  | cons ch text ih =>
      rw [doubled, List.flatMap_cons, List.append_assoc]
      by_cases quote : ch = '\''
      · rw [if_pos quote, List.cons_append, List.singleton_append, skipSingleQuoted]
        exact ih
      · rw [if_neg quote, List.singleton_append, skipSingleQuoted.eq_3 _ _ (by
          intro chars isQuote
          exact absurd isQuote quote), if_neg quote]
        exact ih

theorem skipQuoted_closed {close : Char} {content : List Char} (inside : close ∉ content)
    (after : List Char) : skipQuoted close (content ++ close :: after) = after := by
  induction content with
  | nil => simp [skipQuoted]
  | cons ch content ih =>
      rw [List.mem_cons, not_or] at inside
      rw [List.cons_append, skipQuoted, if_neg (Ne.symm inside.1)]
      exact ih inside.2

theorem skipLineComment_closed {content : List Char} (inside : '\n' ∉ content)
    (after : List Char) : skipLineComment (content ++ '\n' :: after) = after := by
  induction content with
  | nil => simp [skipLineComment]
  | cons ch content ih =>
      rw [List.mem_cons, not_or] at inside
      rw [List.cons_append, skipLineComment, if_neg (Ne.symm inside.1)]
      exact ih inside.2

/-- The induction goes through with the character read before, which may be the star of
an end that is not one. -/
theorem skipBlockCommentFrom_closed {previous : Char} {content : List Char}
    (inside : ¬['*', '/'] <:+: previous :: content) (after : List Char) :
    skipBlockCommentFrom previous (content ++ '*' :: '/' :: after) = after := by
  induction content generalizing previous with
  | nil => simp [skipBlockCommentFrom]
  | cons ch content ih =>
      have stays : ¬(previous = '*' ∧ ch = '/') := by
        rintro ⟨rfl, rfl⟩
        exact inside ⟨[], content, rfl⟩
      rw [List.cons_append, skipBlockCommentFrom, if_neg stays]
      apply ih
      intro found
      exact inside (List.infix_cons found)

theorem skipBlockComment_closed {content : List Char}
    (inside : ¬['*', '/'] <:+: content) (after : List Char) :
    skipBlockComment (content ++ '*' :: '/' :: after) = after := by
  apply skipBlockCommentFrom_closed
  intro found
  obtain isFirst | isLater := List.infix_cons_iff.mp found
  · exact absurd (List.cons_prefix_cons.mp isFirst).1 (by decide)
  · exact inside isLater

/-- The mark of a region. -/
def mark : Region → Mark
  | lineComment | blockComment => .comment
  | _ => .quoted

/-- The mode behind the first character of a region. -/
def mode : Region → Mode
  | literal => .single
  | doubleQuoted => .delimited doubleQuote
  | backQuoted => .delimited backQuote
  | bracketed => .delimited ']'
  | lineComment => .line
  | blockComment => .blockOpen

/-- A closed region is read up to its end. -/
theorem runsTo (region : Region) {content after : List Char}
    (admits : region.Admits content)
    (apart : region = literal → after.head? ≠ some '\'') :
    RunsTo region.mode region.mark
      (region.opening.2 ++ content ++ region.closing ++ after) after := by
  cases region with
  | literal =>
      obtain ⟨text, rfl⟩ := admits
      have run := runsTo_single (doubled text ++ '\'' :: after)
      rw [skipSingleQuoted_closed text (apart rfl)] at run
      simpa [opening, closing, mode, mark] using run
  | doubleQuoted =>
      have run := runsTo_delimited doubleQuote (content ++ doubleQuote :: after)
      rw [skipQuoted_closed (not_mem_of_admits (by decide) rfl admits)] at run
      simpa [opening, closing, mode, mark] using run
  | backQuoted =>
      have run := runsTo_delimited backQuote (content ++ backQuote :: after)
      rw [skipQuoted_closed (not_mem_of_admits (by decide) rfl admits)] at run
      simpa [opening, closing, mode, mark] using run
  | bracketed =>
      have run := runsTo_delimited ']' (content ++ ']' :: after)
      rw [skipQuoted_closed (not_mem_of_admits (by decide) rfl admits)] at run
      simpa [opening, closing, mode, mark] using run
  | lineComment =>
      have dash : ('-' :: (content ++ '\n' :: after)).head? = some '-' := rfl
      have run := runsTo_line_open dash
      rw [List.tail_cons,
        skipLineComment_closed (not_mem_of_admits (by decide) rfl admits)] at run
      simpa [opening, closing, mode, mark] using run
  | blockComment =>
      have star : ('*' :: (content ++ '*' :: '/' :: after)).head? = some '*' := rfl
      have run := runsTo_block_open star
      rw [List.tail_cons, skipBlockComment_closed admits] at run
      simpa [opening, closing, mode, mark] using run

theorem annotate_text (region : Region) (content after : List Char) :
    annotate .code (region.text content ++ after) =
      ⟨region.opening.1, region.mark⟩ ::
        annotate region.mode (region.opening.2 ++ content ++ region.closing ++ after) := by
  cases region <;> rfl

theorem head?_text (region : Region) (content after : List Char) :
    (region.text content ++ after).head? = some region.opening.1 := rfl

/-- The scanner does not tell two contents of a region apart. -/
theorem indistinct (region : Region) {content other after : List Char}
    (admits : region.Admits content) (admitsOther : region.Admits other)
    (apart : region = literal → after.head? ≠ some '\'') :
    Indistinct (annotate .code (region.text content ++ after))
      (annotate .code (region.text other ++ after)) := by
  have run := region.runsTo admits apart
  have otherRun := region.runsTo admitsOther apart
  rw [annotate_text, annotate_text]
  cases region with
  | lineComment => exact Indistinct.comment run otherRun
  | blockComment => exact Indistinct.comment run otherRun
  | literal => exact Indistinct.quoted (by decide) run otherRun
  | doubleQuoted => exact Indistinct.quoted (by decide) run otherRun
  | backQuoted => exact Indistinct.quoted (by decide) run otherRun
  | bracketed => exact Indistinct.quoted (by decide) run otherRun

end Region

/-- What a region of a text holds has no part in what `inspect_sql` reports.  The region
is opened where the text before it has been read as code, and a literal that another
quote follows has not ended there. -/
theorem inspectSql_region (region : Region) (before content other after : List Char)
    (inCode : Mode.code.after before (some region.opening.1) = .code)
    (admits : region.Admits content) (admitsOther : region.Admits other)
    (apart : region = .literal → after.head? ≠ some '\'') :
    inspectSql (String.ofList (before ++ region.text content ++ after)) =
      inspectSql (String.ofList (before ++ region.text other ++ after)) := by
  obtain ⟨marks, split⟩ := annotate_append .code before (some region.opening.1)
  rw [inCode] at split
  have same := (region.indistinct admits admitsOther apart).append marks
  rw [← split _ (region.head?_text content after),
    ← split _ (region.head?_text other after)] at same
  rw [inspectSql_marks, inspectSql_marks, String.toList_ofList, String.toList_ofList,
    List.append_assoc, List.append_assoc]
  exact same.report false none

theorem inspectSql_region_literal :
    inspectSql "SELECT '' WHERE a = $1" = inspectSql "SELECT '''; $x --' WHERE a = $1" :=
  inspectSql_region .literal "SELECT ".toList [] "''; $x --".toList " WHERE a = $1".toList
    (by decide) ⟨[], rfl⟩ ⟨"'; $x --".toList, by decide⟩ fun _ => by decide

end SqlxTurso.Sql
