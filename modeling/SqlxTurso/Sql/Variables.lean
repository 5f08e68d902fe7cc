import Mathlib.Data.List.TakeWhile
import SqlxTurso.Sql.Statements

/-!
# Variables under the scanner

The lexical grammar of SQLite tells the tokens of a text apart, and with them what each
`$`, `:` and `@` outside regions belongs to.  The scanner looks at every such sign, and
takes only ASCII letters, digits and underscores after it for its name, so its report
depends on the signs and these runs alone.
-/

namespace SqlxTurso.Sql

open SqlxTurso.Library

/-! ## Tokens -/

/-- A character that may stand in an identifier. -/
def isIdentifierChar (ch : Char) : Bool :=
  isPlaceholderChar ch || ch == '$' || 0x80 ≤ ch.toNat

/-- The signs that open a variable. -/
def isSigil (ch : Char) : Bool := ch == '$' || ch == ':' || ch == '@'

/-- The token that a character outside regions belongs to. -/
inductive Token where
  /-- an operator, punctuation or white space -/
  | other
  | identifier
  /-- a sigil with its name -/
  | named
  /-- a question mark with its digits -/
  | numbered
  /-- the digits that a number begins with -/
  | integer
  | number
  deriving DecidableEq, Repr

/-- The token that a character opens when `next` follows it outside regions. -/
def Token.opened (ch : Char) (next : Option Char) : Token :=
  if isSigil ch then
    if next.any isIdentifierChar then .named else .other
  else if ch.isDigit then .integer
  else if ch = '.' ∧ next.any Char.isDigit then .number
  else if ch = '?' then .numbered
  else if isIdentifierChar ch then .identifier
  else .other

/-- The token that a character continues. -/
def Token.continued : Token → Char → Option Token
  | .other, _ => none
  | .identifier, ch => if isIdentifierChar ch then some .identifier else none
  | .named, ch => if isIdentifierChar ch then some .named else none
  | .numbered, ch => if ch.isDigit then some .numbered else none
  | .integer, ch =>
      if ch.isDigit then some .integer
      else if isIdentifierChar ch ∨ ch = '.' then some .number
      else none
  | .number, ch => if isIdentifierChar ch then some .number else none

/-- The first character of a text, if it stands outside regions. -/
def nextOutside : List Marked → Option Char
  | [] => none
  | item :: _ => if item.mark = .outside then some item.char else none

/-- The identifier characters at the front of a text. -/
def identifierRun (items : List Marked) : List Char :=
  (items.takeWhile fun item => item.mark == .outside && isIdentifierChar item.char).map
    Marked.char

/-- A `$`, `:` or `@` outside regions. -/
structure Sigil where
  char : Char
  /-- the token that it belongs to -/
  token : Token
  /-- whether it is the first character of the token -/
  opens : Bool
  /-- the identifier characters that follow it -/
  run : List Char
  deriving DecidableEq, Repr

/-- The sigils of a text, where the character before it belongs to the given token. -/
def sigilsFrom : Token → List Marked → List Sigil
  | _, [] => []
  | token, item :: rest =>
      if item.mark = .outside then
        let continued := token.continued item.char
        let current := continued.getD (Token.opened item.char (nextOutside rest))
        if isSigil item.char then
          ⟨item.char, current, continued.isNone, identifierRun rest⟩ ::
            sigilsFrom current rest
        else sigilsFrom current rest
      else sigilsFrom .other rest

def sigils (sql : String) : List Sigil := sigilsFrom .other (annotate .code sql.toList)

/-- A sigil that opens a variable, other than `$` with an integer for its name. -/
def Sigil.isNamed (sigil : Sigil) : Bool :=
  sigil.opens && sigil.token == .named &&
    !(sigil.char == '$' && (parseUsize sigil.run).isSome)

/-- The text has a variable that is not an integer placeholder. -/
def UsesNamed (sql : String) : Prop := ∃ sigil ∈ sigils sql, sigil.isNamed = true

instance (sql : String) : Decidable (UsesNamed sql) :=
  inferInstanceAs (Decidable (∃ sigil ∈ sigils sql, sigil.isNamed = true))

/-- Every sigil belongs to a variable or to an identifier. -/
def WellPlaced (sql : String) : Prop :=
  ∀ sigil ∈ sigils sql, sigil.token = .named ∨ sigil.token = .identifier

instance (sql : String) : Decidable (WellPlaced sql) :=
  inferInstanceAs
    (Decidable (∀ sigil ∈ sigils sql, sigil.token = .named ∨ sigil.token = .identifier))

/-! ## What the scanner reads at a sigil -/

/-- What follows the sigil up to the first character that is no ASCII letter, digit or
underscore is not an integer for `$`, or is not empty for `:` and `@`. -/
def Sigil.isTaken (sigil : Sigil) : Bool :=
  let name := sigil.run.takeWhile isPlaceholderChar
  if sigil.char = '$' then (parseUsize name).isNone else !name.isEmpty

theorem takeWhile_identifierRun (items : List Marked) :
    (identifierRun items).takeWhile isPlaceholderChar = placeholderName items := by
  unfold identifierRun placeholderName
  induction items with
  | nil => rfl
  | cons item rest ih =>
      rw [List.takeWhile_cons, List.takeWhile_cons]
      cases named : isPlaceholderChar item.char with
      | false =>
          rw [Bool.and_false]
          split
          next => rw [List.map_cons, List.takeWhile_cons, named]; rfl
          next => rfl
      | true =>
          rw [isIdentifierChar, named, Bool.true_or, Bool.true_or]
          split
          next => rw [List.map_cons, List.takeWhile_cons, named, if_pos rfl, ih, List.map_cons]
          next => rfl

theorem isSome_dollarPlaceholder (name : List Char) (placeholder : Option String) :
    (dollarPlaceholder name placeholder).isSome =
      (placeholder.isSome || (parseUsize name).isNone) := by
  unfold dollarPlaceholder
  split
  next noInteger => rw [noInteger, Bool.or_true]; rfl
  next integer => simp [Bool.not_eq_true _ ▸ integer]

theorem isSome_namedPlaceholder (ch : Char) (name : List Char)
    (placeholder : Option String) :
    (namedPlaceholder ch name placeholder).isSome =
      (placeholder.isSome || !name.isEmpty) := by
  unfold namedPlaceholder
  split
  next empty => simp [empty]
  next filled => simp [filled]

/-- Whether something is reported once a character has been read. -/
theorem isSome_placeholderAfter (item : Marked) (rest : List Marked) (token : Token)
    (opens : Bool) (placeholder : Option String) :
    (placeholderAfter item rest placeholder).isSome =
      (placeholder.isSome || (item.mark == .outside && isSigil item.char &&
        (Sigil.mk item.char token opens (identifierRun rest)).isTaken)) := by
  unfold placeholderAfter Sigil.isTaken
  dsimp only
  rw [takeWhile_identifierRun]
  by_cases outside : item.mark = .outside
  · rw [if_neg (not_not_intro outside)]
    by_cases dollar : item.char = '$'
    · rw [if_pos dollar, if_pos dollar, isSome_dollarPlaceholder]
      simp [outside, isSigil, dollar]
    · rw [if_neg dollar, if_neg dollar]
      by_cases colon : item.char = ':' ∨ item.char = '@'
      · rw [if_pos colon, isSome_namedPlaceholder]
        rcases colon with colon | at_ <;> simp [isSigil, *]
      · rw [if_neg colon]
        rw [not_or] at colon
        simp [isSigil, dollar, colon]
  · rw [if_pos outside]
    simp [outside]

/-- A text that is read to its end is reported for the sigils that the scanner takes. -/
theorem isSome_inspectMarks {sawStatement : Bool} {placeholder : Option String}
    {items : List Marked} (token : Token)
    (toEnd : (inspectMarks sawStatement placeholder items).mayContainMultipleStatements =
      false) :
    (inspectMarks sawStatement placeholder items).unsupportedNamedPlaceholder.isSome =
      (placeholder.isSome || (sigilsFrom token items).any Sigil.isTaken) := by
  induction items generalizing sawStatement placeholder token with
  | nil => simp [inspectMarks, sigilsFrom]
  | cons item rest ih =>
      rw [inspectMarks] at toEnd ⊢
      split
      next early =>
        rw [if_pos early] at toEnd
        cases toEnd
      next onward =>
        rw [if_neg onward] at toEnd
        have step := isSome_placeholderAfter item rest
        rw [sigilsFrom]
        by_cases outside : item.mark = .outside
        · rw [if_pos outside]
          dsimp only
          generalize (token.continued item.char).getD
            (Token.opened item.char (nextOutside rest)) = current
          cases sigil : isSigil item.char with
          | true =>
              rw [ih current toEnd, step current (token.continued item.char).isNone, outside,
                sigil, if_pos rfl, List.any_cons, Bool.or_assoc]
              rfl
          | false =>
              rw [ih current toEnd, step .other true, sigil]
              simp
        · rw [if_neg outside, ih .other toEnd, step .other true, beq_false_of_ne outside]
          simp

/-! ## Texts that are not read to their end -/

/-- The scanner stops at a separator that content follows. -/
theorem exists_separator {sawStatement : Bool} {placeholder : Option String}
    {items : List Marked}
    (early : (inspectMarks sawStatement placeholder items).mayContainMultipleStatements =
      true) :
    ∃ before separator after, items = before ++ separator :: after ∧
      separator.isSeparator = true ∧ after.any Marked.isContent = true := by
  induction items generalizing sawStatement placeholder with
  | nil => cases early
  | cons item rest ih =>
      rw [inspectMarks] at early
      split at early
      next stops =>
        rw [Bool.and_eq_true, Bool.and_eq_true] at stops
        exact ⟨[], item, rest, rfl, stops.1.1, stops.2⟩
      next =>
        obtain ⟨before, separator, after, rfl, facts⟩ := ih early
        exact ⟨item :: before, separator, after, rfl, facts⟩

theorem placeholderAfter_blank {item : Marked} (blank : item.isContent = false)
    (rest : List Marked) (placeholder : Option String) :
    placeholderAfter item rest placeholder = placeholder := by
  unfold placeholderAfter
  split
  next => rfl
  next outside =>
    have visible : ∀ ch : Char, isWhitespace ch = false → ch ≠ ';' → item.char ≠ ch := by
      rintro ch noBlank noSeparator rfl
      simp [Marked.isContent, Marked.isSeparator, not_not.mp outside, noBlank,
        noSeparator] at blank
    rw [if_neg (visible '$' (by decide) (by decide)), if_neg]
    rw [not_or]
    exact ⟨visible ':' (by decide) (by decide), visible '@' (by decide) (by decide)⟩

/-- Where no content stands before a separator that content follows, the scanner has
reported nothing when it stops. -/
theorem inspectMarks_stopped {sawStatement : Bool} {placeholder : Option String}
    {items : List Marked}
    (early : (inspectMarks sawStatement placeholder items).mayContainMultipleStatements =
      true)
    (first : ∀ before separator after, items = before ++ separator :: after →
      separator.isSeparator = true → after.any Marked.isContent = true →
        before.any Marked.isContent = false) :
    (inspectMarks sawStatement placeholder items).unsupportedNamedPlaceholder =
      placeholder := by
  induction items generalizing sawStatement placeholder with
  | nil => cases early
  | cons item rest ih =>
      rw [inspectMarks] at early ⊢
      split at early
      next stops => rw [if_pos stops]
      next onward =>
        rw [if_neg onward]
        obtain ⟨before, separator, after, split, isSeparator, later⟩ := exists_separator early
        have blank : item.isContent = false := by
          have none := first (item :: before) separator after (by rw [split]; rfl) isSeparator
            later
          rw [List.any_cons, Bool.or_eq_false_iff] at none
          exact none.1
        rw [ih early, placeholderAfter_blank blank]
        intro before separator after split isSeparator later
        have none := first (item :: before) separator after (by rw [split]; rfl) isSeparator
          later
        rw [List.any_cons, Bool.or_eq_false_iff] at none
        exact none.2

/-- In a text with one statement no content stands on both sides of a separator. -/
theorem no_content_before {sql : String} (single : (filledPieces sql).length = 1)
    {before after : List Marked} {separator : Marked}
    (split : annotate .code sql.toList = before ++ separator :: after)
    (isSeparator : separator.isSeparator = true)
    (later : after.any Marked.isContent = true) :
    before.any Marked.isContent = false := by
  have filled : ∀ items : List Marked, items.any Marked.isContent = true →
      0 < (pieces Marked.isSeparator items).countP isFilledPiece := by
    intro items content
    rw [any_content_eq Marked.isSeparator _ _ Marked.not_content_of_separator,
      List.any_eq_true] at content
    exact List.countP_pos_iff.mpr content
  rw [filledPieces, sqlPieces, split, ← List.countP_eq_length_filter, pieces,
    List.splitOnP_append_cons _ _ isSeparator, List.countP_append] at single
  by_contra content
  have earlier := filled before (by simpa using content)
  have rest := filled after later
  unfold pieces at earlier rest
  omega

theorem report_of_stopped {sql : String} (single : (filledPieces sql).length = 1)
    (early : (inspectSql sql).mayContainMultipleStatements = true) :
    (inspectSql sql).unsupportedNamedPlaceholder = none := by
  rw [inspectSql_marks] at early ⊢
  apply inspectMarks_stopped early
  intro before separator after split isSeparator later
  exact no_content_before single split isSeparator later

/-! ## Sigils and variables -/

theorem Token.opened_sigil {ch : Char} (sigil : isSigil ch = true) (next : Option Char) :
    Token.opened ch next = .named ∨ Token.opened ch next = .other := by
  rw [Token.opened, if_pos sigil]
  split
  next => exact .inl rfl
  next => exact .inr rfl

/-- What is true of every sigil of a text. -/
structure Sigil.Placed (sigil : Sigil) : Prop where
  run : ∀ ch ∈ sigil.run, isIdentifierChar ch = true
  opened : sigil.opens = true → sigil.token = .named ∨ sigil.token = .other

theorem sigilsFrom_placed {token : Token} {items : List Marked} {sigil : Sigil}
    (found : sigil ∈ sigilsFrom token items) : sigil.Placed := by
  induction items generalizing token with
  | nil => cases found
  | cons item rest ih =>
      rw [sigilsFrom] at found
      split at found
      next outside =>
        dsimp only at found
        split at found
        next isSigil =>
          cases List.mem_cons.mp found with
          | inr later => exact ih later
          | inl here =>
              subst here
              constructor
              · intro ch inRun
                obtain ⟨item, taken, rfl⟩ := List.mem_map.mp inRun
                have holds := List.mem_takeWhile_imp taken
                rw [Bool.and_eq_true] at holds
                exact holds.2
              · intro opens
                rw [Option.isNone_iff_eq_none.mp opens]
                exact Token.opened_sigil isSigil _
        next => exact ih found
      next => exact ih found

/-- The digits of an integer are taken whole by the scanner. -/
theorem takeWhile_of_integer {run : List Char}
    (identifier : ∀ ch ∈ run, isIdentifierChar ch = true)
    (integer : (parseUsize run).isSome = true) : run.takeWhile isPlaceholderChar = run := by
  have noSign : run.head? ≠ some '+' := by
    intro sign
    exact absurd (identifier '+' (List.mem_of_mem_head? sign)) (by decide)
  have digits : ∀ (chars : List Char) (total : Nat),
      (chars.foldlM (fun total ch =>
        let next := total * 10 + (ch.toNat - '0'.toNat)
        if ch.isDigit && next < 2 ^ 64 then some next else none) total).isSome = true →
        ∀ ch ∈ chars, isPlaceholderChar ch = true := by
    intro chars
    induction chars with
    | nil => simp
    | cons ch chars ih =>
        intro total reads
        rw [List.foldlM_cons] at reads
        dsimp only at reads
        split at reads
        next digit =>
          rw [Bool.and_eq_true] at digit
          have alphanumeric : isPlaceholderChar ch = true := by
            simp [isPlaceholderChar, Char.isAlphanum, digit.1]
          exact List.forall_mem_cons.mpr ⟨alphanumeric, ih _ reads⟩
        next => cases reads
  rw [parseUsize, parseUnsigned, if_neg noSign] at integer
  dsimp only at integer
  split at integer
  next => cases integer
  next => exact List.takeWhile_eq_self_iff.mpr (digits run 0 integer)

/-- A variable that the scanner takes is not an integer placeholder. -/
theorem Sigil.Placed.isNamed_of_isTaken {sigil : Sigil} (placed : sigil.Placed)
    (opens : sigil.opens = true)
    (belongs : sigil.token = .named ∨ sigil.token = .identifier)
    (taken : sigil.isTaken = true) : sigil.isNamed = true := by
  have named : sigil.token = .named := by
    rcases belongs with named | identifier
    · exact named
    · rcases placed.opened opens with named | other
      · exact named
      · rw [identifier] at other
        cases other
  have noInteger : (sigil.char == '$' && (parseUsize sigil.run).isSome) = false := by
    by_contra integer
    rw [Bool.not_eq_false, Bool.and_eq_true, beq_iff_eq] at integer
    unfold isTaken at taken
    rw [takeWhile_of_integer placed.run integer.2] at taken
    simp [integer.1, Option.isNone_iff_eq_none] at taken
    rw [taken] at integer
    cases integer.2
  rw [isNamed, opens, named, noInteger]
  rfl

/-! ## When the report is right -/

/-- The scanner's reading of names makes no difference: a text with a variable that is no
integer has a sigil that the scanner takes, and in any other text it takes no `$` inside a
token. -/
def ReadAlike (sql : String) : Prop :=
  (UsesNamed sql → ∃ sigil ∈ sigils sql, sigil.isTaken = true) ∧
    (¬UsesNamed sql → ∀ sigil ∈ sigils sql, sigil.opens = false → sigil.isTaken = false)

instance (sql : String) : Decidable (ReadAlike sql) :=
  inferInstanceAs (Decidable ((UsesNamed sql → ∃ sigil ∈ sigils sql, sigil.isTaken = true) ∧
    (¬UsesNamed sql → ∀ sigil ∈ sigils sql, sigil.opens = false → sigil.isTaken = false)))

theorem report_iff_taken {sql : String}
    (toEnd : (inspectSql sql).mayContainMultipleStatements = false) :
    (inspectSql sql).unsupportedNamedPlaceholder.isSome = true ↔
      ∃ sigil ∈ sigils sql, sigil.isTaken = true := by
  rw [inspectSql_marks] at toEnd ⊢
  rw [isSome_inspectMarks .other toEnd, Option.isSome_none, Bool.false_or, List.any_eq_true]
  rfl

theorem report_iff_named {sql : String}
    (toEnd : (inspectSql sql).mayContainMultipleStatements = false)
    (wellPlaced : WellPlaced sql) :
    ((inspectSql sql).unsupportedNamedPlaceholder.isSome = true ↔ UsesNamed sql) ↔
      ReadAlike sql := by
  rw [report_iff_taken toEnd]
  constructor
  · intro exactly
    refine ⟨exactly.mpr, ?_⟩
    intro noNamed sigil found _
    by_contra taken
    exact noNamed (exactly.mp ⟨sigil, found, by simpa using taken⟩)
  · rintro ⟨whenNamed, whenNot⟩
    refine ⟨?_, whenNamed⟩
    rintro ⟨sigil, found, taken⟩
    by_contra noNamed
    cases opens : sigil.opens with
    | true =>
        have placed := sigilsFrom_placed found
        exact noNamed
          ⟨sigil, found, placed.isNamed_of_isTaken opens (wellPlaced sigil found) taken⟩
    | false => exact Bool.false_ne_true ((whenNot noNamed sigil found opens).symm.trans taken)

end SqlxTurso.Sql
