import SqlxTurso.Sql.Grammar

/-!
# The scanner over marked characters

The scanner jumps over regions and placeholder names.  Over the marks of a text the same
report is computed one character at a time, which is the form that the results about
regions, statements and variables are read off.
-/

namespace SqlxTurso.Sql

open SqlxTurso.Library

/-- The placeholder name at the front of marked characters. -/
def placeholderName (items : List Marked) : List Char :=
  (items.takeWhile fun item => item.mark == .outside && isPlaceholderChar item.char).map
    Marked.char

/-- The placeholder reported once `item`, which `rest` follows, has been read. -/
def placeholderAfter (item : Marked) (rest : List Marked) (placeholder : Option String) :
    Option String :=
  if item.mark ≠ .outside then
    placeholder
  else if item.char = '$' then
    dollarPlaceholder (placeholderName rest) placeholder
  else if item.char = ':' ∨ item.char = '@' then
    namedPlaceholder item.char (placeholderName rest) placeholder
  else
    placeholder

/-- The report of the scanner over the marks of a text. -/
def inspectMarks : Bool → Option String → List Marked → SqlInspection
  | _, placeholder, [] => { unsupportedNamedPlaceholder := placeholder }
  | sawStatement, placeholder, item :: rest =>
      if item.isSeparator && sawStatement && rest.any Marked.isContent then
        { mayContainMultipleStatements := true
          unsupportedNamedPlaceholder := placeholder }
      else
        inspectMarks (sawStatement || item.isContent || item.isSeparator)
          (placeholderAfter item rest placeholder) rest

/-! ## Regions -/

theorem inspectMarks_append_quoted {body : List Marked}
    (marks : ∀ item ∈ body, item.mark = .quoted) (placeholder : Option String)
    (rest : List Marked) :
    inspectMarks true placeholder (body ++ rest) = inspectMarks true placeholder rest := by
  induction body with
  | nil => rfl
  | cons item body ih =>
      rw [List.forall_mem_cons] at marks
      have noSeparator : item.isSeparator = false := by simp [Marked.isSeparator, marks.1]
      rw [List.cons_append, inspectMarks, noSeparator]
      simp only [Bool.false_and, Bool.false_eq_true, ↓reduceIte, Bool.true_or,
        placeholderAfter, marks.1]
      exact ih marks.2

theorem inspectMarks_append_comment {body : List Marked}
    (marks : ∀ item ∈ body, item.mark = .comment) (sawStatement : Bool)
    (placeholder : Option String) (rest : List Marked) :
    inspectMarks sawStatement placeholder (body ++ rest) =
      inspectMarks sawStatement placeholder rest := by
  induction body with
  | nil => rfl
  | cons item body ih =>
      rw [List.forall_mem_cons] at marks
      have noSeparator : item.isSeparator = false := by simp [Marked.isSeparator, marks.1]
      have noContent : item.isContent = false := by simp [Marked.isContent, marks.1]
      rw [List.cons_append, inspectMarks, noSeparator, noContent]
      simp only [Bool.false_and, Bool.false_eq_true, ↓reduceIte, Bool.or_false,
        placeholderAfter, marks.1]
      exact ih marks.2

theorem any_content_append_comment {body : List Marked}
    (marks : ∀ item ∈ body, item.mark = .comment) (rest : List Marked) :
    (body ++ rest).any Marked.isContent = rest.any Marked.isContent := by
  have blank : body.any Marked.isContent = false := by
    rw [List.any_eq_false]
    intro item member
    simp [Marked.isContent, marks item member]
  rw [List.any_append, blank, Bool.false_or]

theorem inspectMarks_quoted {mode : Mode} {chars rest : List Char} {ch : Char}
    (run : RunsTo mode .quoted chars rest) (visible : isWhitespace ch = false)
    (sawStatement : Bool) (placeholder : Option String) :
    inspectMarks sawStatement placeholder (⟨ch, .quoted⟩ :: annotate mode chars) =
      inspectMarks true placeholder (annotate .code rest) := by
  rcases run with ⟨body, split, marks⟩
  have content : Marked.isContent ⟨ch, .quoted⟩ = true := by
    simp [Marked.isContent, visible]
  rw [inspectMarks, Marked.isSeparator_quoted, content, split]
  simp only [Bool.false_and, Bool.false_eq_true, ↓reduceIte, Bool.or_true, Bool.or_false,
    placeholderAfter]
  exact inspectMarks_append_quoted marks placeholder _

theorem RunsTo.opened {mode : Mode} {mark : Mark} {chars rest : List Char}
    (run : RunsTo mode mark chars rest) (ch : Char) :
    ∃ body : List Marked,
      ⟨ch, mark⟩ :: annotate mode chars = body ++ annotate .code rest ∧
        ∀ item ∈ body, item.mark = mark := by
  rcases run with ⟨body, split, marks⟩
  exact ⟨⟨ch, mark⟩ :: body, by rw [split, List.cons_append],
    List.forall_mem_cons.mpr ⟨rfl, marks⟩⟩

theorem inspectMarks_comment {mode : Mode} {chars rest : List Char} {ch : Char}
    (run : RunsTo mode .comment chars rest) (sawStatement : Bool)
    (placeholder : Option String) :
    inspectMarks sawStatement placeholder (⟨ch, .comment⟩ :: annotate mode chars) =
      inspectMarks sawStatement placeholder (annotate .code rest) := by
  obtain ⟨body, split, marks⟩ := run.opened ch
  rw [split]
  exact inspectMarks_append_comment marks sawStatement placeholder _

theorem any_content_comment {mode : Mode} {chars rest : List Char} {ch : Char}
    (run : RunsTo mode .comment chars rest) :
    (⟨ch, .comment⟩ :: annotate mode chars).any Marked.isContent =
      (annotate .code rest).any Marked.isContent := by
  obtain ⟨body, split, marks⟩ := run.opened ch
  rw [split]
  exact any_content_append_comment marks _

/-! ## Comments and placeholders in code -/

theorem runsTo_line_open {rest : List Char} (dash : rest.head? = some '-') :
    RunsTo .line .comment rest (skipLineComment rest.tail) := by
  cases rest with
  | nil => simp at dash
  | cons ch chars =>
      simp only [List.head?_cons, Option.some.injEq] at dash
      subst dash
      exact (runsTo_line chars).cons (by simp [annotate])

theorem runsTo_block_open {rest : List Char} (star : rest.head? = some '*') :
    RunsTo .blockOpen .comment rest (skipBlockComment rest.tail) := by
  cases rest with
  | nil => simp at star
  | cons ch chars =>
      have body := runsTo_block (Char.ofNat 0) chars
      have inside : blockMode (Char.ofNat 0) chars = .block := by
        simp [blockMode, show Char.ofNat 0 ≠ '*' by decide]
      rw [inside] at body
      exact body.cons (by simp [annotate])

theorem annotate_line {ch : Char} {rest : List Char}
    (line : ch = '-' ∧ rest.head? = some '-') :
    annotate .code (ch :: rest) = ⟨ch, .comment⟩ :: annotate .line rest := by
  simp [annotate, line, show ('-' : Char) ≠ doubleQuote by decide,
    show ('-' : Char) ≠ backQuote by decide]

theorem annotate_block {ch : Char} {rest : List Char}
    (block : ch = '/' ∧ rest.head? = some '*') :
    annotate .code (ch :: rest) = ⟨ch, .comment⟩ :: annotate .blockOpen rest := by
  simp [annotate, block, show ('/' : Char) ≠ doubleQuote by decide,
    show ('/' : Char) ≠ backQuote by decide]

/-- A character of code that opens no comment is content unless it is white
space or a separator, whichever region it opens. -/
theorem any_content_code {ch : Char} {rest : List Char}
    (noLine : ¬(ch = '-' ∧ rest.head? = some '-'))
    (noBlock : ¬(ch = '/' ∧ rest.head? = some '*')) :
    (annotate .code (ch :: rest)).any Marked.isContent =
      ((!isWhitespace ch && ch != ';') || (annotate .code rest).any Marked.isContent) := by
  by_cases single : ch = '\''
  · subst single
    simp [annotate, Marked.isContent, isWhitespace]
  by_cases delimited : ch = doubleQuote ∨ ch = backQuote
  · rcases delimited with rfl | rfl <;>
      simp [annotate, Marked.isContent, isWhitespace, doubleQuote, backQuote]
  by_cases bracket : ch = '['
  · subst bracket
    simp [annotate, Marked.isContent, isWhitespace, doubleQuote, backQuote]
  · simp only [annotate, single, delimited, bracket, noLine, noBlock, ↓reduceIte,
      List.any_cons]
    simp [Marked.isContent, Marked.isSeparator]
    grind

/-- A character that opens no region. -/
def isPlain (ch : Char) : Bool :=
  ch != '\'' && ch != doubleQuote && ch != backQuote && ch != '[' && ch != '-' &&
    ch != '/'

theorem annotate_plain {ch : Char} (rest : List Char) (plain : isPlain ch = true) :
    annotate .code (ch :: rest) = ⟨ch, .outside⟩ :: annotate .code rest := by
  simp only [isPlain, Bool.and_eq_true, bne_iff_ne] at plain
  simp [annotate, plain]

theorem differs_of_placeholderChar {ch other : Char} (named : isPlaceholderChar ch = true)
    (notNamed : isPlaceholderChar other = false) : ch ≠ other := by
  intro equal
  rw [equal, notNamed] at named
  exact Bool.false_ne_true named

theorem plain_of_placeholderChar {ch : Char} (named : isPlaceholderChar ch = true) :
    isPlain ch = true ∧ ch ≠ ';' := by
  have differs : ∀ other, isPlaceholderChar other = false → ch ≠ other :=
    fun _ => differs_of_placeholderChar named
  simp only [isPlain, Bool.and_eq_true, bne_iff_ne]
  exact ⟨⟨⟨⟨⟨⟨differs _ (by decide), differs _ (by decide)⟩, differs _ (by decide)⟩,
    differs _ (by decide)⟩, differs _ (by decide)⟩, differs _ (by decide)⟩,
    differs _ (by decide)⟩

theorem placeholderName_eq (chars : List Char) :
    placeholderName (annotate .code chars) = (readPlaceholderName chars).1 := by
  fun_induction readPlaceholderName chars with
  | case1 => rfl
  | case2 ch chars named name rest read ih =>
      obtain ⟨plain, _⟩ := plain_of_placeholderChar named
      rw [read] at ih
      change _ = ch :: name
      rw [annotate_plain chars plain, ← show _ = name from ih]
      simp [placeholderName, named]
  | case3 ch chars other =>
      have stops : ∀ (mark : Mark) (rest : List Marked),
          placeholderName (⟨ch, mark⟩ :: rest) = [] := by
        intro mark rest
        simp [placeholderName, other]
      unfold annotate
      repeat' split
      all_goals exact stops _ _

/-- A name is walked over without a trace. -/
theorem inspectMarks_name (placeholder : Option String) (chars : List Char) :
    inspectMarks true placeholder (annotate .code chars) =
      inspectMarks true placeholder (annotate .code (readPlaceholderName chars).2) := by
  fun_induction readPlaceholderName chars with
  | case1 => rfl
  | case2 ch chars named name rest read ih =>
      obtain ⟨plain, notSeparator⟩ := plain_of_placeholderChar named
      have notSigil : ch ≠ '$' ∧ ¬(ch = ':' ∨ ch = '@') :=
        ⟨differs_of_placeholderChar named (by decide), not_or.mpr
          ⟨differs_of_placeholderChar named (by decide),
            differs_of_placeholderChar named (by decide)⟩⟩
      rw [read] at ih
      rw [annotate_plain chars plain, ← ih]
      simp [inspectMarks, Marked.isSeparator, notSeparator, placeholderAfter, notSigil]
  | case3 => rfl

theorem readPlaceholderName_length_le (chars : List Char) :
    (readPlaceholderName chars).2.length ≤ chars.length := by
  fun_induction readPlaceholderName chars with
  | case1 => simp
  | case2 ch chars named name rest read ih =>
      rw [read] at ih
      exact Nat.le_succ_of_le ih
  | case3 => simp

/-! ## The loops -/

theorem hasRemainingLoop_eq (fuel : Nat) (chars : List Char)
    (enough : chars.length ≤ fuel) :
    hasRemainingLoop fuel chars = (annotate .code chars).any Marked.isContent := by
  induction fuel generalizing chars with
  | zero =>
      rw [List.length_eq_zero_iff.mp (Nat.le_zero.mp enough)]
      rfl
  | succ fuel ih =>
      cases chars with
      | nil => rfl
      | cons ch rest =>
          rw [List.length_cons] at enough
          by_cases line : ch = '-' ∧ rest.head? = some '-'
          · have run := runsTo_line_open line.2
            have shorter := run.length_le
            rw [annotate_line line, any_content_comment run, ← ih _ (by omega)]
            simp [hasRemainingLoop, line]
          by_cases block : ch = '/' ∧ rest.head? = some '*'
          · have run := runsTo_block_open block.2
            have shorter := run.length_le
            rw [annotate_block block, any_content_comment run, ← ih _ (by omega)]
            simp [hasRemainingLoop, block]
          · rw [any_content_code line block, ← ih rest (by omega)]
            simp only [hasRemainingLoop, line, block, ↓reduceIte]
            split
            next visible => simp [visible]
            next blank =>
              have invisible : (!isWhitespace ch && ch != ';') = false := by
                simpa using blank
              rw [invisible, Bool.false_or]

theorem hasRemainingStatementText_eq (chars : List Char) :
    hasRemainingStatementText chars =
      (annotate .code chars).any Marked.isContent :=
  hasRemainingLoop_eq chars.length chars (Nat.le_refl _)

/-- A character that opens a quoted region. -/
def OpensQuoted (ch : Char) : Prop :=
  ch = '\'' ∨ (ch = doubleQuote ∨ ch = backQuote) ∨ ch = '['

/-- At a quoted region the scanner and the grammar go on at the same place. -/
theorem scan_quoted {ch : Char} (rest : List Char) (opens : OpensQuoted ch) :
    ∃ mode after, RunsTo mode .quoted rest after ∧
      annotate .code (ch :: rest) = ⟨ch, .quoted⟩ :: annotate mode rest ∧
      isWhitespace ch = false ∧
      ∀ fuel sawStatement placeholder,
        inspectLoop (fuel + 1) sawStatement placeholder (ch :: rest) =
          inspectLoop fuel true placeholder after := by
  by_cases single : ch = '\''
  · refine ⟨.single, skipSingleQuoted rest, runsTo_single rest, ?_, ?_, ?_⟩
    · rw [annotate, if_pos single]
    · rw [single]
      decide
    · intro fuel sawStatement placeholder
      rw [inspectLoop, if_pos single]
  by_cases delimited : ch = doubleQuote ∨ ch = backQuote
  · refine ⟨.delimited ch, skipQuoted ch rest, runsTo_delimited ch rest, ?_, ?_, ?_⟩
    · rw [annotate, if_neg single, if_pos delimited]
    · rcases delimited with rfl | rfl <;> decide
    · intro fuel sawStatement placeholder
      rw [inspectLoop, if_neg single, if_pos delimited]
  have bracket : ch = '[' := by
    rcases opens with quote | quote | quote
    · exact absurd quote single
    · exact absurd quote delimited
    · exact quote
  refine ⟨.delimited ']', skipQuoted ']' rest, runsTo_delimited ']' rest, ?_, ?_, ?_⟩
  · rw [annotate, if_neg single, if_neg delimited, if_pos bracket]
  · rw [bracket]
    decide
  · intro fuel sawStatement placeholder
    rw [inspectLoop, if_neg single, if_neg delimited, if_pos bracket]

theorem inspectLoop_line {ch : Char} {rest : List Char}
    (line : ch = '-' ∧ rest.head? = some '-') (fuel : Nat) (sawStatement : Bool)
    (placeholder : Option String) :
    inspectLoop (fuel + 1) sawStatement placeholder (ch :: rest) =
      inspectLoop fuel sawStatement placeholder (skipLineComment rest.tail) := by
  have dash := line.1
  rw [inspectLoop, if_neg (by rw [dash]; decide), if_neg (by rw [dash]; decide),
    if_neg (by rw [dash]; decide), if_pos line]

theorem inspectLoop_block {ch : Char} {rest : List Char}
    (block : ch = '/' ∧ rest.head? = some '*') (fuel : Nat) (sawStatement : Bool)
    (placeholder : Option String) :
    inspectLoop (fuel + 1) sawStatement placeholder (ch :: rest) =
      inspectLoop fuel sawStatement placeholder (skipBlockComment rest.tail) := by
  have slash := block.1
  rw [inspectLoop, if_neg (by rw [slash]; decide), if_neg (by rw [slash]; decide),
    if_neg (by rw [slash]; decide), if_neg (by rw [slash]; simp), if_pos block]

theorem annotate_outside {ch : Char} {rest : List Char} (plain : ¬OpensQuoted ch)
    (noLine : ¬(ch = '-' ∧ rest.head? = some '-'))
    (noBlock : ¬(ch = '/' ∧ rest.head? = some '*')) :
    annotate .code (ch :: rest) = ⟨ch, .outside⟩ :: annotate .code rest := by
  simp only [OpensQuoted, not_or] at plain
  rw [annotate, if_neg plain.1, if_neg (not_or.mpr plain.2.1), if_neg plain.2.2,
    if_neg noLine, if_neg noBlock]

/-- One iteration of the loop at a character outside regions, where `ih` is what the
remaining iterations compute. -/
theorem inspectLoop_outside {ch : Char} {rest : List Char} {fuel : Nat}
    {sawStatement : Bool} {placeholder : Option String} (plain : ¬OpensQuoted ch)
    (noLine : ¬(ch = '-' ∧ rest.head? = some '-'))
    (noBlock : ¬(ch = '/' ∧ rest.head? = some '*'))
    (enough : rest.length ≤ fuel)
    (ih : ∀ (sawStatement : Bool) (placeholder : Option String) (chars : List Char),
      chars.length ≤ fuel →
        inspectLoop fuel sawStatement placeholder chars =
          inspectMarks sawStatement placeholder (annotate .code chars)) :
    inspectLoop (fuel + 1) sawStatement placeholder (ch :: rest) =
      inspectMarks sawStatement placeholder (⟨ch, .outside⟩ :: annotate .code rest) := by
  simp only [OpensQuoted, not_or] at plain
  have nameFits : (readPlaceholderName rest).2.length ≤ fuel :=
    Nat.le_trans (readPlaceholderName_length_le rest) enough
  rw [inspectLoop, if_neg plain.1, if_neg (not_or.mpr plain.2.1), if_neg plain.2.2,
    if_neg noLine, if_neg noBlock, hasRemainingStatementText_eq, inspectMarks]
  by_cases semicolon : ch = ';'
  · subst semicolon
    by_cases more : sawStatement ∧ (annotate .code rest).any Marked.isContent
    · simp [more, Marked.isSeparator]
    · have stays : (Marked.isSeparator ⟨';', .outside⟩ && sawStatement &&
          (annotate .code rest).any Marked.isContent) = false := by
        simpa [Marked.isSeparator] using more
      rw [if_neg (by simpa using more), if_neg (by decide), if_neg (by decide),
        if_pos (by decide), ih true placeholder rest enough, stays]
      simp [Marked.isSeparator, placeholderAfter]
  have other : Marked.isSeparator ⟨ch, .outside⟩ = false := by
    simp [Marked.isSeparator, semicolon]
  have content : Marked.isContent ⟨ch, .outside⟩ = !isWhitespace ch := by
    simp [Marked.isContent, other, show (Mark.outside != Mark.comment) = true by decide]
  rw [if_neg (by simp [semicolon]), other, content]
  simp only [Bool.false_and, Bool.false_eq_true, ↓reduceIte, Bool.or_false,
    placeholderAfter, placeholderName_eq, not_true, ne_eq]
  by_cases dollar : ch = '$'
  · rw [if_pos dollar, if_pos dollar, ih _ _ _ nameFits, ← inspectMarks_name, dollar]
    simp [isWhitespace]
  by_cases named : ch = ':' ∨ ch = '@'
  · rw [if_neg dollar, if_neg dollar, if_pos named, if_pos named, ih _ _ _ nameFits,
      ← inspectMarks_name]
    rcases named with rfl | rfl <;> simp [isWhitespace]
  · rw [if_neg dollar, if_neg dollar, if_neg named, if_neg named]
    cases blank : isWhitespace ch <;> simp [ih _ _ rest enough]

/-- The loop of `inspect_sql` computes the report over the marks of the text. -/
theorem inspectLoop_marks {fuel : Nat} {chars : List Char} (enough : chars.length ≤ fuel)
    (sawStatement : Bool) (placeholder : Option String) :
    inspectLoop fuel sawStatement placeholder chars =
      inspectMarks sawStatement placeholder (annotate .code chars) := by
  induction fuel generalizing sawStatement placeholder chars with
  | zero =>
      rw [List.length_eq_zero_iff.mp (Nat.le_zero.mp enough)]
      rfl
  | succ fuel ih =>
      cases chars with
      | nil => rfl
      | cons ch rest =>
          rw [List.length_cons] at enough
          by_cases opens : OpensQuoted ch
          · obtain ⟨mode, after, run, marks, visible, loop⟩ := scan_quoted rest opens
            have shorter := run.length_le
            rw [marks, inspectMarks_quoted run visible, loop, ih (by omega)]
          by_cases line : ch = '-' ∧ rest.head? = some '-'
          · have run := runsTo_line_open line.2
            have shorter := run.length_le
            rw [annotate_line line, inspectMarks_comment run, inspectLoop_line line,
              ih (by omega)]
          by_cases block : ch = '/' ∧ rest.head? = some '*'
          · have run := runsTo_block_open block.2
            have shorter := run.length_le
            rw [annotate_block block, inspectMarks_comment run, inspectLoop_block block,
              ih (by omega)]
          · rw [annotate_outside opens line block]
            exact inspectLoop_outside opens line block (by omega)
              fun sawStatement placeholder chars fits => ih fits sawStatement placeholder

theorem inspectSql_marks (sql : String) :
    inspectSql sql = inspectMarks false none (annotate .code sql.toList) :=
  inspectLoop_marks (Nat.le_refl _) false none

end SqlxTurso.Sql
