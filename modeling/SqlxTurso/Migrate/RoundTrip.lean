import SqlxTurso.Migrate.Identifier

/-!
# Names of migration tables, written and read

An identifier is written in quotes with its own quotes doubled.  Reading it back
gives the identifier, whatever its characters are, and stops where it was written.
-/

namespace SqlxTurso

open Sql

namespace SqliteIdentifier

/-- The characters that a character of a name is written as. -/
def escapedChar (ch : Char) : List Char :=
  if ch = doubleQuote then [doubleQuote, doubleQuote] else [ch]

theorem toList_display (identifier : SqliteIdentifier) :
    identifier.display.toList =
      doubleQuote :: (identifier.name.toList.flatMap escapedChar ++ [doubleQuote]) := by
  simp only [display, escaped, String.toList_append, String.toList_singleton,
    String.toList_ofList, List.cons_append]
  rfl

/-- A quote that is not followed by another one ends the identifier. -/
theorem parseQuotedFrom_quote (original : String) (identifier : List Char)
    {suffix : List Char} (apart : suffix.head? ≠ some doubleQuote) :
    parseQuotedFrom original identifier (doubleQuote :: suffix) =
      closeQuoted original identifier suffix := by
  cases suffix with
  | nil => simp [parseQuotedFrom]
  | cons next rest =>
      have notQuote : next ≠ doubleQuote := fun isQuote => apart (by rw [isQuote]; rfl)
      simp [parseQuotedFrom, notQuote]

/-- The loop reads one character of the name for what was written for it. -/
theorem parseQuotedFrom_escapedChar (original : String) (identifier : List Char) (ch : Char)
    (rest : List Char) :
    parseQuotedFrom original identifier (escapedChar ch ++ rest) =
      parseQuotedFrom original (identifier ++ [ch]) rest := by
  by_cases isQuote : ch = doubleQuote
  · subst isQuote
    simp [escapedChar, parseQuotedFrom]
  · rw [escapedChar, if_neg isQuote, List.singleton_append, parseQuotedFrom.eq_def]
    simp only [ne_eq, isQuote, not_false_eq_true, ↓reduceIte]

theorem parseQuotedFrom_escaped (original : String) (identifier name : List Char)
    {suffix : List Char} (apart : suffix.head? ≠ some doubleQuote) :
    parseQuotedFrom original identifier
        (name.flatMap escapedChar ++ doubleQuote :: suffix) =
      closeQuoted original (identifier ++ name) suffix := by
  induction name generalizing identifier with
  | nil => simpa using parseQuotedFrom_quote original identifier apart
  | cons ch name ih =>
      rw [List.flatMap_cons, List.append_assoc, parseQuotedFrom_escapedChar, ih,
        List.append_assoc, List.singleton_append]

/-- An identifier is read back from its text, up to where the text ends. -/
theorem parsePrefix_display (original : String) {identifier : SqliteIdentifier}
    (nonempty : identifier.name ≠ "") {suffix : List Char}
    (apart : suffix.head? ≠ some doubleQuote) :
    parsePrefix (identifier.display.toList ++ suffix) original = .ok (identifier, suffix) := by
  have hasChars : identifier.name.toList.isEmpty = false := by
    rw [List.isEmpty_eq_false_iff]
    exact fun noChars => nonempty (String.toList_eq_nil_iff.mp noChars)
  rw [toList_display, List.cons_append, List.append_assoc, List.singleton_append]
  simp only [parsePrefix, ↓reduceIte, parseQuotedPrefix]
  rw [parseQuotedFrom_escaped original [] _ apart, List.nil_append]
  simp [closeQuoted, hasChars]

/-! ## What is read -/

theorem name_ne_of_parseBarePrefix {value original : _} {identifier : SqliteIdentifier}
    {rest : List Char} (parsed : parseBarePrefix value original = .ok (identifier, rest)) :
    identifier.name ≠ "" := by
  unfold parseBarePrefix at parsed
  split at parsed
  next => cases parsed
  next first chars =>
    split at parsed
    next =>
      cases parsed
      simp
    next => cases parsed

theorem closeQuoted_ok {original : String} {content rest suffix : List Char}
    {identifier : SqliteIdentifier}
    (closed : closeQuoted original content rest = .ok (identifier, suffix)) :
    content ≠ [] ∧ identifier = ⟨String.ofList content⟩ ∧ suffix = rest := by
  unfold closeQuoted at closed
  split at closed
  next => cases closed
  next hasChars =>
    cases closed
    exact ⟨by simpa using hasChars, rfl, rfl⟩

theorem name_ne_of_closeQuoted {original : String} {name rest suffix : List Char}
    {identifier : SqliteIdentifier}
    (closed : closeQuoted original name rest = .ok (identifier, suffix)) :
    identifier.name ≠ "" := by
  obtain ⟨nonempty, rfl, _⟩ := closeQuoted_ok closed
  simpa using nonempty

theorem name_ne_of_parseQuotedFrom {original : String} {name value rest : List Char}
    {identifier : SqliteIdentifier}
    (parsed : parseQuotedFrom original name value = .ok (identifier, rest)) :
    identifier.name ≠ "" := by
  fun_induction parseQuotedFrom original name value with
  | case1 => cases parsed
  | case2 name ch chars notQuote ih => exact ih parsed
  | case3 => exact name_ne_of_closeQuoted parsed
  | case4 _ _ _ _ ih => exact ih parsed
  | case5 => exact name_ne_of_closeQuoted parsed

/-- No identifier that is read has an empty name. -/
theorem name_ne_of_parsePrefix {value rest : List Char} {original : String}
    {identifier : SqliteIdentifier}
    (parsed : parsePrefix value original = .ok (identifier, rest)) : identifier.name ≠ "" := by
  unfold parsePrefix at parsed
  split at parsed
  next =>
    split at parsed
    next => exact name_ne_of_parseQuotedFrom parsed
    next => exact name_ne_of_parseBarePrefix parsed
  next => exact name_ne_of_parseBarePrefix parsed

end SqliteIdentifier

/-! ## Paths -/

namespace SqliteIdentifierPath

/-- One identifier, or one in a schema, and each of them has a name. -/
structure Named (path : SqliteIdentifierPath) : Prop where
  length : path.parts.length = 1 ∨ path.parts.length = 2
  names : ∀ part ∈ path.parts, part.name ≠ ""

theorem parse_display_single {part : SqliteIdentifier} (nonempty : part.name ≠ "") :
    parse (display ⟨[part]⟩) = .ok ⟨[part]⟩ := by
  have first := SqliteIdentifier.parsePrefix_display part.display nonempty 
    (show ([] : List Char).head? ≠ some doubleQuote by simp)
  rw [List.append_nil] at first
  simp only [parse, display, List.foldl_nil, first, bind, Except.bind]
  rfl

theorem parse_display_pair {first second : SqliteIdentifier} (firstNe : first.name ≠ "")
    (secondNe : second.name ≠ "") :
    parse (display ⟨[first, second]⟩) = .ok ⟨[first, second]⟩ := by
  generalize isText : display ⟨[first, second]⟩ = text
  have characters : text.toList = first.display.toList ++ '.' :: second.display.toList := by
    rw [← isText]
    simp [display]
  have readFirst := SqliteIdentifier.parsePrefix_display text firstNe
    (show ('.' :: second.display.toList).head? ≠ some doubleQuote by simp [doubleQuote])
  have readSecond := SqliteIdentifier.parsePrefix_display text secondNe
    (show ([] : List Char).head? ≠ some doubleQuote by simp)
  rw [List.append_nil] at readSecond
  simp only [parse, characters, readFirst, bind, Except.bind, List.length_cons, parseParts,
    List.length_nil, readSecond, List.singleton_append]
  cases second.display.toList.length <;> rfl

theorem parse_display {path : SqliteIdentifierPath} (named : path.Named) :
    parse path.display = .ok path := by
  rcases path with ⟨parts⟩
  match parts, named with
  | [], named =>
      have length := named.length
      simp at length
  | [part], named => exact parse_display_single (named.names part List.mem_cons_self)
  | [first, second], named =>
      exact parse_display_pair (named.names first List.mem_cons_self)
        (named.names second (List.mem_cons_of_mem _ List.mem_cons_self))
  | _ :: _ :: _ :: _, named =>
      have length := named.length
      simp at length

/-- The loop of `parse` ends with at most two parts, and all of them have a name. -/
theorem named_of_parseParts {original : String} {fuel : Nat} {parts result : List SqliteIdentifier}
    {value rest : List Char} (named : Named ⟨parts⟩)
    (parsed : parseParts original fuel parts value = .ok (result, rest)) : Named ⟨result⟩ := by
  fun_induction parseParts original fuel parts value with
  | case1 => cases parsed
  | case2 fuel parts next notTwo ih =>
      cases read : SqliteIdentifier.parsePrefix next original with
      | error error =>
          rw [read] at parsed
          cases parsed
      | ok both =>
          rw [read] at parsed
          have single : parts.length = 1 := named.length.resolve_right notTwo
          refine ih both.1 both.2 ⟨.inr (by simp [single]), ?_⟩ parsed
          intro part member
          rcases List.mem_append.mp member with before | last
          · exact named.names part before
          · cases List.mem_singleton.mp last
            exact SqliteIdentifier.name_ne_of_parsePrefix read
  | case3 =>
      cases parsed
      exact named

/-- Every path that is read has one or two parts, and each of them has a name. -/
theorem named_of_parse {value : String} {path : SqliteIdentifierPath}
    (parsed : parse value = .ok path) : path.Named := by
  unfold parse at parsed
  cases read : SqliteIdentifier.parsePrefix value.toList value with
  | error error =>
      rw [read] at parsed
      cases parsed
  | ok both =>
      cases readParts : parseParts value both.2.length [both.1] both.2 with
      | error error =>
          simp only [read, readParts, bind, Except.bind] at parsed
          cases parsed
      | ok result =>
          simp only [read, readParts, bind, Except.bind] at parsed
          split at parsed
          next =>
            cases parsed
            refine named_of_parseParts ⟨.inl rfl, ?_⟩ readParts
            intro part member
            cases List.mem_singleton.mp member
            exact SqliteIdentifier.name_ne_of_parsePrefix read
          next => cases parsed

end SqliteIdentifierPath

/-- What is written for an identifier or for a path is read as that identifier or path,
and so is what is written for a path that was read. -/
theorem written_names_are_read_back :
    (∀ (identifier : SqliteIdentifier) (suffix : List Char) (original : String),
      identifier.name ≠ "" → suffix.head? ≠ some doubleQuote →
        SqliteIdentifier.parsePrefix (identifier.display.toList ++ suffix) original =
          .ok (identifier, suffix)) ∧
      (∀ path : SqliteIdentifierPath,
        path.parts.length = 1 ∨ path.parts.length = 2 →
        (∀ part ∈ path.parts, part.name ≠ "") →
          SqliteIdentifierPath.parse path.display = .ok path) ∧
      ∀ (value : String) (path : SqliteIdentifierPath),
        SqliteIdentifierPath.parse value = .ok path →
          SqliteIdentifierPath.parse path.display = .ok path := by
  refine ⟨?_, ?_, ?_⟩
  · intro identifier suffix original nonempty apart
    exact SqliteIdentifier.parsePrefix_display original nonempty apart
  · intro path length names
    exact SqliteIdentifierPath.parse_display ⟨length, names⟩
  · intro value path parsed
    exact SqliteIdentifierPath.parse_display (SqliteIdentifierPath.named_of_parse parsed)

/-- A name that would end its quotes and the statement is read back whole. -/
theorem hostile_name_is_read_back :
    SqliteIdentifier.parsePrefix
        ((⟨"a\"; DROP TABLE b --"⟩ : SqliteIdentifier).display.toList ++ [';']) "" =
      .ok (⟨"a\"; DROP TABLE b --"⟩, [';']) ∧
    SqliteIdentifierPath.parse (SqliteIdentifierPath.display ⟨[⟨"main"⟩, ⟨"\""⟩]⟩) =
      .ok ⟨[⟨"main"⟩, ⟨"\""⟩]⟩ :=
  ⟨written_names_are_read_back.1 _ _ _ (by decide) (by decide),
    written_names_are_read_back.2.1 _ (.inr rfl) (by decide)⟩

end SqlxTurso
