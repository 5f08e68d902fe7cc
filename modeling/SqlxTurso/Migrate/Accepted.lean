import Mathlib.Data.List.TakeWhile
import SqlxTurso.Migrate.RoundTrip

/-!
# The grammar of table names

A part of a name is a word of ASCII letters, digits and underscores, or a text in quotes
in which quotes are doubled.  The parser reads the longest part that the text begins
with, and accepts exactly the texts that are one part, or two parts with a dot between
them.
-/

namespace SqlxTurso

open Sql

/-! ## The grammar -/

/-- A character that a bare part begins with. -/
def IsWordStart (ch : Char) : Prop :=
  ('A' ≤ ch ∧ ch ≤ 'Z') ∨ ('a' ≤ ch ∧ ch ≤ 'z') ∨ ch = '_'

/-- A character that a bare part goes on with. -/
def IsWordChar (ch : Char) : Prop := IsWordStart ch ∨ ('0' ≤ ch ∧ ch ≤ '9')

/-- The items between two quotes, and the characters that they stand for. -/
inductive QuotedItems : List Char → List Char → Prop
  | nil : QuotedItems [] []
  | plain (ch : Char) {text content : List Char} (notQuote : ch ≠ doubleQuote)
      (items : QuotedItems text content) : QuotedItems (ch :: text) (ch :: content)
  | doubled {text content : List Char} (items : QuotedItems text content) :
      QuotedItems (doubleQuote :: doubleQuote :: text) (doubleQuote :: content)

/-- The text of a part, and its value. -/
inductive PartText : List Char → SqliteIdentifier → Prop
  | bare (first : Char) (rest : List Char) (starts : IsWordStart first)
      (continues : ∀ ch ∈ rest, IsWordChar ch) :
      PartText (first :: rest) ⟨String.ofList (first :: rest)⟩
  | quoted {text content : List Char} (items : QuotedItems text content)
      (nonempty : content ≠ []) :
      PartText (doubleQuote :: (text ++ [doubleQuote])) ⟨String.ofList content⟩

/-- The text of a name, and the values of its parts. -/
inductive NameText : List Char → List SqliteIdentifier → Prop
  | one {text : List Char} {part : SqliteIdentifier} (isPart : PartText text part) :
      NameText text [part]
  | two {first second : List Char} {schema table : SqliteIdentifier}
      (isSchema : PartText first schema) (isTable : PartText second table) :
      NameText (first ++ '.' :: second) [schema, table]

theorem isIdentifierStart_iff (ch : Char) : isIdentifierStart ch = true ↔ IsWordStart ch := by
  have upper : ch.isUpper = true ↔ 'A' ≤ ch ∧ ch ≤ 'Z' := decide_eq_true_iff
  have lower : ch.isLower = true ↔ 'a' ≤ ch ∧ ch ≤ 'z' :=
    (Bool.and_eq_true _ _).to_iff.trans (and_congr decide_eq_true_iff decide_eq_true_iff)
  have letter : ch.isAlpha = true ↔ ('A' ≤ ch ∧ ch ≤ 'Z') ∨ ('a' ≤ ch ∧ ch ≤ 'z') :=
    (Bool.or_eq_true _ _).to_iff.trans (or_congr upper lower)
  rw [isIdentifierStart, Bool.or_eq_true, beq_iff_eq, letter, or_comm, or_assoc]
  exact Iff.rfl

theorem isIdentifierContinue_iff (ch : Char) :
    isIdentifierContinue ch = true ↔ IsWordChar ch := by
  have split : isIdentifierContinue ch = (isIdentifierStart ch || ch.isDigit) := by
    simp only [isIdentifierContinue, isIdentifierStart, Char.isAlphanum, Bool.or_assoc]
  have digit : ch.isDigit = true ↔ '0' ≤ ch ∧ ch ≤ '9' := by
    simp only [Char.isDigit, Bool.and_eq_true, decide_eq_true_eq]
    exact Iff.rfl
  rw [split, Bool.or_eq_true, isIdentifierStart_iff, digit]
  exact Iff.rfl

/-! ## Parts -/

namespace SqliteIdentifier

theorem eq_escaped_of_items {text content : List Char} (items : QuotedItems text content) :
    text = content.flatMap escapedChar := by
  induction items with
  | nil => rfl
  | plain ch notQuote _ ih => rw [List.flatMap_cons, escapedChar, if_neg notQuote, ih]; rfl
  | doubled _ ih => rw [List.flatMap_cons, escapedChar, if_pos rfl, ih]; rfl

/-- At the quote that ends a name no item is left. -/
theorem items_of_closeQuoted {original : String} {before rest after : List Char} {ch : Char}
    {identifier : SqliteIdentifier} (quote : ¬ch ≠ doubleQuote)
    (closed : closeQuoted original before after = .ok (identifier, rest)) :
    ∃ text content, ch :: after = text ++ doubleQuote :: rest ∧ QuotedItems text content ∧
      identifier = ⟨String.ofList (before ++ content)⟩ ∧ before ++ content ≠ [] := by
  obtain ⟨nonempty, isName, rfl⟩ := closeQuoted_ok closed
  refine ⟨[], [], ?_, .nil, ?_, ?_⟩
  · rw [not_not.mp quote]
    rfl
  · rw [List.append_nil]
    exact isName
  · rw [List.append_nil]
    exact nonempty

/-- The loop reads items up to the first quote that is not doubled. -/
theorem items_of_parseQuotedFrom {original : String} {before value rest : List Char}
    {identifier : SqliteIdentifier}
    (parsed : parseQuotedFrom original before value = .ok (identifier, rest)) :
    ∃ text content, value = text ++ doubleQuote :: rest ∧ QuotedItems text content ∧
      identifier = ⟨String.ofList (before ++ content)⟩ ∧ before ++ content ≠ [] := by
  fun_induction parseQuotedFrom original before value with
  | case1 => cases parsed
  | case2 before ch chars notQuote ih =>
      obtain ⟨text, content, split, items, isName, nonempty⟩ := ih parsed
      rw [List.append_assoc, List.singleton_append] at isName nonempty
      exact ⟨ch :: text, ch :: content, by rw [split]; rfl, .plain ch notQuote items, isName,
        nonempty⟩
  | case3 before ch quote => exact items_of_closeQuoted quote parsed
  | case4 before ch quote rest ih =>
      obtain ⟨text, content, split, items, isName, nonempty⟩ := ih parsed
      rw [List.append_assoc, List.singleton_append] at isName nonempty
      refine ⟨doubleQuote :: doubleQuote :: text, doubleQuote :: content, ?_, .doubled items,
        isName, nonempty⟩
      rw [not_not.mp quote, split]
      rfl
  | case5 before ch quote next rest notQuote => exact items_of_closeQuoted quote parsed

/-- What is read as a part is a part at the front of the text. -/
theorem partText_of_parsePrefix {value rest : List Char} {original : String}
    {identifier : SqliteIdentifier}
    (parsed : parsePrefix value original = .ok (identifier, rest)) :
    ∃ text, value = text ++ rest ∧ PartText text identifier := by
  have bare : ∀ {value : List Char}, parseBarePrefix value original = .ok (identifier, rest) →
      ∃ text, value = text ++ rest ∧ PartText text identifier := by
    intro value parsed
    cases value with
    | nil => cases parsed
    | cons first chars =>
        rw [parseBarePrefix] at parsed
        split at parsed
        next starts =>
          cases parsed
          refine ⟨first :: chars.takeWhile isIdentifierContinue, ?_,
            .bare first _ ((isIdentifierStart_iff first).mp starts) ?_⟩
          · rw [List.cons_append, List.takeWhile_append_dropWhile]
          · intro ch inWord
            exact (isIdentifierContinue_iff ch).mp (List.mem_takeWhile_imp inWord)
        next => cases parsed
  cases value with
  | nil => exact bare parsed
  | cons ch chars =>
      rw [parsePrefix] at parsed
      split at parsed
      next quote =>
        obtain ⟨text, content, split, items, isName, nonempty⟩ :=
          items_of_parseQuotedFrom parsed
        rw [isName]
        refine ⟨doubleQuote :: (text ++ [doubleQuote]), ?_, .quoted items nonempty⟩
        rw [quote, split, List.cons_append, List.append_assoc, List.singleton_append]
      next => exact bare parsed

/-- Nothing after a part could belong to it. -/
def EndsPart (suffix : List Char) : Prop :=
  ∀ ch, suffix.head? = some ch → ch ≠ doubleQuote ∧ ¬IsWordChar ch

/-- A part is read whole, and nothing else with it. -/
theorem parsePrefix_of_partText {text suffix : List Char} {part : SqliteIdentifier}
    (isPart : PartText text part) (ends : EndsPart suffix) (original : String) :
    parsePrefix (text ++ suffix) original = .ok (part, suffix) := by
  cases isPart with
  | bare first rest starts continues =>
      have notQuote : first ≠ doubleQuote := by
        rintro rfl
        revert starts
        rw [← isIdentifierStart_iff]
        decide
      have inWord : ∀ ch ∈ rest, isIdentifierContinue ch = true := fun ch inRest =>
        (isIdentifierContinue_iff ch).mpr (continues ch inRest)
      have stops : suffix.takeWhile isIdentifierContinue = [] ∧
          suffix.dropWhile isIdentifierContinue = suffix := by
        cases suffix with
        | nil => exact ⟨rfl, rfl⟩
        | cons ch suffix =>
            have stop : isIdentifierContinue ch = false := by
              rw [← Bool.not_eq_true, isIdentifierContinue_iff]
              exact (ends ch rfl).2
            simp [stop]
      rw [List.cons_append, parsePrefix, if_neg notQuote, parseBarePrefix,
        if_pos ((isIdentifierStart_iff first).mpr starts),
        List.takeWhile_append_of_pos inWord, List.dropWhile_append_of_pos inWord, stops.1,
        stops.2, List.append_nil]
  | quoted items nonempty =>
      have apart : suffix.head? ≠ some doubleQuote := fun isQuote => (ends _ isQuote).1 rfl
      rw [eq_escaped_of_items items, List.cons_append, List.append_assoc,
        List.singleton_append, parsePrefix, if_pos rfl, parseQuotedPrefix,
        parseQuotedFrom_escaped original [] _ apart, List.nil_append, closeQuoted,
        if_neg (by simpa using nonempty)]

theorem parsePrefix_error {value : List Char} {original : String} {error : MigrateError}
    (failed : parsePrefix value original = .error error) : error = invalidIdentifier original := by
  have bare : ∀ {value : List Char}, parseBarePrefix value original = .error error →
      error = invalidIdentifier original := by
    intro value failed
    unfold parseBarePrefix at failed
    split at failed
    next => cases failed; rfl
    next => split at failed <;> cases failed; rfl
  have close : ∀ {content rest : List Char}, closeQuoted original content rest = .error error →
      error = invalidIdentifier original := by
    intro content rest failed
    unfold closeQuoted at failed
    split at failed <;> cases failed
    rfl
  have loop : ∀ {before value : List Char}, parseQuotedFrom original before value = .error error →
      error = invalidIdentifier original := by
    intro before value failed
    fun_induction parseQuotedFrom original before value with
    | case1 => cases failed; rfl
    | case2 _ _ _ _ ih => exact ih failed
    | case3 => exact close failed
    | case4 _ _ _ _ ih => exact ih failed
    | case5 => exact close failed
  cases value with
  | nil =>
      change parseBarePrefix [] original = _ at failed
      exact bare failed
  | cons ch chars =>
      rw [parsePrefix] at failed
      split at failed
      next => exact loop failed
      next => exact bare failed

end SqliteIdentifier

/-! ## Names -/

namespace SqliteIdentifierPath

open SqliteIdentifier

theorem endsPart_nil : EndsPart [] := fun _ => nofun

theorem endsPart_dot (rest : List Char) : EndsPart ('.' :: rest) := by
  intro ch isDot
  cases isDot
  refine ⟨by decide, ?_⟩
  rw [← isIdentifierContinue_iff]
  decide

section Loop

variable {original : String} {fuel : Nat} {parts : List SqliteIdentifier}

theorem parseParts_nil : parseParts original fuel parts [] = .ok (parts, []) := by
  cases fuel <;> rfl

theorem parseParts_other {ch : Char} (notDot : ch ≠ '.') (next : List Char) :
    parseParts original fuel parts (ch :: next) = .ok (parts, ch :: next) := by
  rw [parseParts]
  intro more tail _ isDot
  cases isDot
  exact notDot rfl

/-- After two parts the loop reads nothing more. -/
theorem parseParts_full (first second : SqliteIdentifier) (ch : Char) (next : List Char) :
    parseParts original fuel [first, second] (ch :: next) =
        .error (invalidIdentifier original) ∨
      parseParts original fuel [first, second] (ch :: next) =
        .ok ([first, second], ch :: next) := by
  by_cases dot : ch = '.'
  · subst dot
    cases fuel with
    | zero => exact .inr rfl
    | succ fuel => exact .inl rfl
  · exact .inr (parseParts_other dot next)

end Loop

/-- A text is refused, or it is read as one part or as two. -/
inductive Parsing (value : String) : Prop
  | refused (failed : parse value = .error (invalidIdentifier value))
  | one (part : SqliteIdentifier) (read : parsePrefix value.toList value = .ok (part, []))
      (parsed : parse value = .ok ⟨[part]⟩)
  | two (schema table : SqliteIdentifier) (next : List Char)
      (readSchema : parsePrefix value.toList value = .ok (schema, '.' :: next))
      (readTable : parsePrefix next value = .ok (table, []))
      (parsed : parse value = .ok ⟨[schema, table]⟩)

/-- After a dot a second part is read, and then the loop goes on. -/
theorem parse_of_dot {value : String} {first : SqliteIdentifier} {next : List Char}
    (readFirst : parsePrefix value.toList value = .ok (first, '.' :: next)) :
    parse value = (do
      let (second, rest) ← parsePrefix next value
      let (parts, rest) ← parseParts value next.length [first, second] rest
      if rest.isEmpty then .ok ⟨parts⟩ else .error (invalidIdentifier value)) := by
  have onward : parseParts value ('.' :: next).length [first] ('.' :: next) =
      parsePrefix next value >>= fun read =>
        parseParts value next.length [first, read.1] read.2 := rfl
  rw [parse, readFirst]
  change (parseParts value ('.' :: next).length [first] ('.' :: next) >>= _) = _
  rw [onward]
  cases parsePrefix next value <;> rfl

theorem parse_two {value : String} {schema table : SqliteIdentifier} {next : List Char}
    (readSchema : parsePrefix value.toList value = .ok (schema, '.' :: next))
    (readTable : parsePrefix next value = .ok (table, [])) :
    parse value = .ok ⟨[schema, table]⟩ := by
  rw [parse_of_dot readSchema, readTable]
  change (parseParts value next.length [schema, table] [] >>= _) = _
  rw [parseParts_nil]
  rfl

/-- A name whose first part ends at a dot. -/
theorem parse_cases_of_dot {value : String} {first : SqliteIdentifier} {next : List Char}
    (readFirst : parsePrefix value.toList value = .ok (first, '.' :: next)) :
    Parsing value := by
  cases readSecond : parsePrefix next value with
  | error error =>
      apply Parsing.refused
      rw [parse_of_dot readFirst, readSecond, parsePrefix_error readSecond]
      rfl
  | ok both =>
      rcases both with ⟨second, rest⟩
      cases rest with
      | nil => exact .two first second next readFirst readSecond (parse_two readFirst readSecond)
      | cons ch rest =>
          apply Parsing.refused
          rw [parse_of_dot readFirst, readSecond]
          change (parseParts value next.length [first, second] (ch :: rest) >>= _) = _
          cases parseParts_full first second ch rest with
          | inl full => rw [full]; rfl
          | inr full => rw [full]; rfl

theorem parse_cases (value : String) : Parsing value := by
  cases readFirst : parsePrefix value.toList value with
  | error error =>
      apply Parsing.refused
      rw [parse, readFirst, parsePrefix_error readFirst]
      rfl
  | ok both =>
      rcases both with ⟨first, rest⟩
      cases rest with
      | nil =>
          apply Parsing.one first readFirst
          rw [parse, readFirst]
          rfl
      | cons ch next =>
          by_cases dot : ch = '.'
          · subst dot
            exact parse_cases_of_dot readFirst
          · apply Parsing.refused
            rw [parse, readFirst]
            change (parseParts value (ch :: next).length [first] (ch :: next) >>= _) = _
            rw [parseParts_other dot]
            rfl

/-- What is accepted is a name of the grammar. -/
theorem nameText_of_parse {value : String} {path : SqliteIdentifierPath}
    (parsed : parse value = .ok path) : NameText value.toList path.parts := by
  cases parse_cases value with
  | refused failed =>
      rw [failed] at parsed
      cases parsed
  | one part read isOne =>
      rw [isOne] at parsed
      cases parsed
      obtain ⟨text, split, isPart⟩ := partText_of_parsePrefix read
      rw [split, List.append_nil]
      exact .one isPart
  | two schema table next readSchema readTable isTwo =>
      rw [isTwo] at parsed
      cases parsed
      obtain ⟨first, split, isSchema⟩ := partText_of_parsePrefix readSchema
      obtain ⟨second, splitNext, isTable⟩ := partText_of_parsePrefix readTable
      rw [split, splitNext, List.append_nil]
      exact .two isSchema isTable

/-- Every name of the grammar is accepted, with the values of its parts. -/
theorem parse_of_nameText {value : String} {parts : List SqliteIdentifier}
    (isName : NameText value.toList parts) : parse value = .ok ⟨parts⟩ := by
  generalize isText : value.toList = text at isName
  cases isName with
  | one isPart =>
      have read := parsePrefix_of_partText isPart endsPart_nil value
      rw [List.append_nil] at read
      rw [parse, isText, read]
      rfl
  | @two first second schema table isSchema isTable =>
      have readSchema := parsePrefix_of_partText isSchema (endsPart_dot second) value
      have readTable := parsePrefix_of_partText isTable endsPart_nil value
      rw [List.append_nil] at readTable
      rw [← isText] at readSchema
      exact parse_two readSchema readTable

end SqliteIdentifierPath

/-- The parser accepts the names of the grammar with the values of their parts, and
refuses every other text by its name. -/
theorem parse_accepts_names (value : String) :
    (∀ path : SqliteIdentifierPath, SqliteIdentifierPath.parse value = .ok path ↔
      NameText value.toList path.parts) ∧
      ((¬∃ parts, NameText value.toList parts) →
        SqliteIdentifierPath.parse value = .error (invalidIdentifier value)) := by
  refine ⟨fun path => ⟨SqliteIdentifierPath.nameText_of_parse,
    SqliteIdentifierPath.parse_of_nameText⟩, ?_⟩
  intro noName
  cases SqliteIdentifierPath.parse_cases value with
  | refused failed => exact failed
  | one part _ parsed =>
      exact absurd ⟨_, SqliteIdentifierPath.nameText_of_parse parsed⟩ noName
  | two schema table _ _ _ parsed =>
      exact absurd ⟨_, SqliteIdentifierPath.nameText_of_parse parsed⟩ noName

end SqlxTurso
