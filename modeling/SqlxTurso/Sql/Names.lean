import SqlxTurso.Sql.Statements

/-!
# Quoted names under the scanner

The scanner reads a name in quotes as one region for each pair of quotes, so a name
with its quotes doubled leaves no trace, whatever its other characters are.
-/

namespace SqlxTurso.Sql

/-- The loop of `inspect_sql` with as many iterations as it can need. -/
def inspectFrom (sawStatement : Bool) (placeholder : Option String) (chars : List Char) :
    SqlInspection :=
  inspectLoop chars.length sawStatement placeholder chars

theorem inspectFrom_marks (sawStatement : Bool) (placeholder : Option String)
    (chars : List Char) :
    inspectFrom sawStatement placeholder chars =
      inspectMarks sawStatement placeholder (annotate .code chars) :=
  inspectLoop_marks (Nat.le_refl _) sawStatement placeholder

/-- More iterations than characters change nothing. -/
theorem inspectLoop_enough {fuel : Nat} {sawStatement : Bool} {placeholder : Option String}
    {chars : List Char} (enough : chars.length ≤ fuel) :
    inspectLoop fuel sawStatement placeholder chars =
      inspectFrom sawStatement placeholder chars := by
  rw [inspectLoop_marks enough, inspectFrom_marks]

theorem inspectSql_eq (sql : String) : inspectSql sql = inspectFrom false none sql.toList := rfl

/-- A character that the scanner only looks at to see whether it is white space. -/
def isSilent (ch : Char) : Bool :=
  isPlain ch && ch != ';' && ch != '$' && ch != ':' && ch != '@'

theorem inspectFrom_silent {ch : Char} (silent : isSilent ch = true) (sawStatement : Bool)
    (placeholder : Option String) (rest : List Char) :
    inspectFrom sawStatement placeholder (ch :: rest) =
      inspectFrom (sawStatement || !isWhitespace ch) placeholder rest := by
  simp only [isSilent, isPlain, Bool.and_eq_true, bne_iff_ne] at silent
  simp only [inspectFrom, List.length_cons, inspectLoop, silent, or_self, false_and,
    ↓reduceIte]
  cases isWhitespace ch <;> simp

theorem inspectFrom_append {text : List Char} (silent : ∀ ch ∈ text, isSilent ch = true)
    (sawStatement : Bool) (placeholder : Option String) (rest : List Char) :
    inspectFrom sawStatement placeholder (text ++ rest) =
      inspectFrom (sawStatement || text.any (!isWhitespace ·)) placeholder rest := by
  induction text generalizing sawStatement with
  | nil => simp
  | cons ch text ih =>
      rw [List.forall_mem_cons] at silent
      rw [List.cons_append, inspectFrom_silent silent.1, ih silent.2, List.any_cons,
        Bool.or_assoc]

/-- A quote opens a region that is skipped. -/
theorem inspectFrom_quote (sawStatement : Bool) (placeholder : Option String)
    (rest : List Char) :
    inspectFrom sawStatement placeholder (doubleQuote :: rest) =
      inspectFrom true placeholder (skipQuoted doubleQuote rest) := by
  have shorter := (runsTo_delimited doubleQuote rest).length_le
  rw [inspectFrom, List.length_cons, inspectLoop, if_neg (by decide), if_pos (.inl rfl),
    inspectLoop_enough shorter]

/-- A name with its quotes doubled is read as regions that touch each other. -/
theorem inspectFrom_doubled (placeholder : Option String) (name rest : List Char) :
    inspectFrom true placeholder
        (skipQuoted doubleQuote
          ((name.flatMap fun ch => if ch = doubleQuote then [doubleQuote, doubleQuote] else [ch])
            ++ doubleQuote :: rest)) =
      inspectFrom true placeholder rest := by
  induction name with
  | nil => simp [skipQuoted]
  | cons ch name ih =>
      rw [List.flatMap_cons, List.append_assoc]
      by_cases isQuote : ch = doubleQuote
      · rw [if_pos isQuote, List.cons_append, List.singleton_append, skipQuoted, if_pos rfl,
          inspectFrom_quote, ih]
      · rw [if_neg isQuote, List.singleton_append, skipQuoted, if_neg isQuote, ih]

end SqlxTurso.Sql
