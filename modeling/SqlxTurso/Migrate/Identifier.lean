import SqlxTurso.Error
import SqlxTurso.Sql.Scanner

/-!
# Names of migration tables

The name of a migrations table is a path of at most two identifiers.  Each of them is
bare or quoted in the name that is given, and quoted in every text that is built from
it.
-/

namespace SqlxTurso

open Sql

structure SqliteIdentifier where
  name : String
  deriving DecidableEq, Repr

def isIdentifierStart (ch : Char) : Bool := ch == '_' || ch.isAlpha

def isIdentifierContinue (ch : Char) : Bool := ch == '_' || ch.isAlphanum

def invalidIdentifier (value : String) : MigrateError :=
  .execute (.configuration ("invalid SQLite identifier `" ++ value ++ "`"))

namespace SqliteIdentifier

/-- Read an identifier without quotes, and what comes after it. -/
def parseBarePrefix (value : List Char) (original : String) :
    Except MigrateError (SqliteIdentifier × List Char) :=
  match value with
  | [] => .error (invalidIdentifier original)
  | first :: chars =>
      if isIdentifierStart first then
        .ok (⟨String.ofList (first :: chars.takeWhile isIdentifierContinue)⟩,
          chars.dropWhile isIdentifierContinue)
      else
        .error (invalidIdentifier original)

/-- The end of a quoted identifier: it must not be empty. -/
def closeQuoted (original : String) (identifier rest : List Char) :
    Except MigrateError (SqliteIdentifier × List Char) :=
  if identifier.isEmpty then .error (invalidIdentifier original)
  else .ok (⟨String.ofList identifier⟩, rest)

/-- The loop of `parse_quoted_prefix`, with the characters of the identifier so far. -/
def parseQuotedFrom (original : String) (identifier : List Char) :
    List Char → Except MigrateError (SqliteIdentifier × List Char)
  | [] => .error (invalidIdentifier original)
  | ch :: chars =>
      if ch ≠ doubleQuote then
        parseQuotedFrom original (identifier ++ [ch]) chars
      else
        match chars with
        | [] => closeQuoted original identifier []
        | next :: rest =>
            if next = doubleQuote then
              parseQuotedFrom original (identifier ++ [doubleQuote]) rest
            else
              closeQuoted original identifier (next :: rest)

def parseQuotedPrefix (value : List Char) (original : String) :
    Except MigrateError (SqliteIdentifier × List Char) :=
  parseQuotedFrom original [] value

/-- Read an identifier, and what comes after it. -/
def parsePrefix (value : List Char) (original : String) :
    Except MigrateError (SqliteIdentifier × List Char) :=
  match value with
  | ch :: quoted =>
      if ch = doubleQuote then parseQuotedPrefix quoted original
      else parseBarePrefix value original
  | [] => parseBarePrefix value original

/-- The name with its quotes doubled. -/
def escaped (identifier : SqliteIdentifier) : String :=
  String.ofList (identifier.name.toList.flatMap fun ch =>
    if ch = doubleQuote then [doubleQuote, doubleQuote] else [ch])

/-- The text of the identifier: its name in quotes. -/
def display (identifier : SqliteIdentifier) : String :=
  String.singleton doubleQuote ++ identifier.escaped ++ String.singleton doubleQuote

end SqliteIdentifier

/-- The name of a table, with that of its schema before it if there is one. -/
structure SqliteIdentifierPath where
  parts : List SqliteIdentifier
  deriving DecidableEq, Repr

namespace SqliteIdentifierPath

/-- The loop of `parse`.  Each round reads a dot at least, so the length of the rest
bounds the number of rounds. -/
def parseParts (original : String) :
    Nat → List SqliteIdentifier → List Char →
      Except MigrateError (List SqliteIdentifier × List Char)
  | fuel + 1, parts, '.' :: next =>
      if parts.length = 2 then
        .error (invalidIdentifier original)
      else do
        let (part, remaining) ← SqliteIdentifier.parsePrefix next original
        parseParts original fuel (parts ++ [part]) remaining
  | _, parts, rest => .ok (parts, rest)

def parse (value : String) : Except MigrateError SqliteIdentifierPath := do
  let (first, rest) ← SqliteIdentifier.parsePrefix value.toList value
  let (parts, rest) ← parseParts value rest.length [first] rest
  if rest.isEmpty then .ok ⟨parts⟩ else .error (invalidIdentifier value)

/-- The text of the path: its identifiers with dots between them. -/
def display (path : SqliteIdentifierPath) : String :=
  match path.parts with
  | [] => ""
  | first :: parts => parts.foldl (fun text part => text ++ "." ++ part.display) first.display

end SqliteIdentifierPath

end SqlxTurso
