import Mathlib.Algebra.Group.Nat.Defs
import Mathlib.Data.List.Basic

/-!
# The SQL scanner

`inspect_sql` reads a query text once, character by character, and decides two
things about it: whether the text may hold more than one statement, and whether
it uses a named placeholder that is not an integer.  The Rust loop works on a
peekable character iterator; here the iterator is the list of the characters
that are still to be read, and every helper returns the list it leaves behind.
-/

namespace SqlxTurso.Sql

/-- The double quote, kept out of the match arms below. -/
def doubleQuote : Char := Char.ofNat 0x22

/-- The back quote, which SQL accepts as an identifier quote. -/
def backQuote : Char := Char.ofNat 0x60

/-- Rust's `char::is_whitespace`: the Unicode property `White_Space`. -/
def isWhitespace (ch : Char) : Bool :=
  let code := ch.toNat
  (0x09 ≤ code && code ≤ 0x0D) || code == 0x20 || code == 0x85 ||
    code == 0xA0 || code == 0x1680 || (0x2000 ≤ code && code ≤ 0x200A) ||
    code == 0x2028 || code == 0x2029 || code == 0x202F || code == 0x205F ||
    code == 0x3000

/-- Rust's `str::parse` for an unsigned integer type whose values lie below
`bound`: an optional plus sign, then at least one decimal digit. -/
def parseUnsigned (bound : Nat) (text : List Char) : Option Nat :=
  let digits := if text.head? = some '+' then text.tail else text
  if digits.isEmpty then
    none
  else
    digits.foldlM (fun total ch =>
      let next := total * 10 + (ch.toNat - '0'.toNat)
      if ch.isDigit && next < bound then some next else none) 0

/-- `str::parse::<usize>` on a 64-bit target. -/
def parseUsize (text : List Char) : Option Nat := parseUnsigned (2 ^ 64) text

/-- What `inspect_sql` reports about a text. -/
structure SqlInspection where
  mayContainMultipleStatements : Bool := false
  unsupportedNamedPlaceholder : Option String := none
  deriving DecidableEq, Repr

/-- A character that may stand in a placeholder name. -/
def isPlaceholderChar (ch : Char) : Bool := ch.isAlphanum || ch == '_'

/-- Read the longest placeholder name at the front of the text. -/
def readPlaceholderName : List Char → List Char × List Char
  | [] => ([], [])
  | ch :: chars =>
      if isPlaceholderChar ch then
        let (name, rest) := readPlaceholderName chars
        (ch :: name, rest)
      else
        ([], ch :: chars)

/-- Skip the rest of a single-quoted literal; a doubled quote stays inside. -/
def skipSingleQuoted : List Char → List Char
  | [] => []
  | '\'' :: '\'' :: chars => skipSingleQuoted chars
  | quoted :: chars => if quoted = '\'' then chars else skipSingleQuoted chars

/-- Skip up to and including the first closing delimiter. -/
def skipQuoted (quote : Char) : List Char → List Char
  | [] => []
  | quoted :: chars => if quoted = quote then chars else skipQuoted quote chars

/-- Skip the rest of a line comment with its line end. -/
def skipLineComment : List Char → List Char
  | [] => []
  | comment :: chars => if comment = '\n' then chars else skipLineComment chars

/-- Skip the rest of a block comment.  `previous` is the last character read. -/
def skipBlockCommentFrom : Char → List Char → List Char
  | _, [] => []
  | previous, comment :: chars =>
      if previous = '*' ∧ comment = '/' then chars
      else skipBlockCommentFrom comment chars

def skipBlockComment (chars : List Char) : List Char :=
  skipBlockCommentFrom (Char.ofNat 0) chars

/-- The loop of `has_remaining_statement_text`.  Every iteration reads at least
one character, so the length of the text bounds the number of iterations. -/
def hasRemainingLoop : Nat → List Char → Bool
  | 0, _ => false
  | _ + 1, [] => false
  | fuel + 1, ch :: chars =>
      if ch = '-' ∧ chars.head? = some '-' then
        hasRemainingLoop fuel (skipLineComment chars.tail)
      else if ch = '/' ∧ chars.head? = some '*' then
        hasRemainingLoop fuel (skipBlockComment chars.tail)
      else if !isWhitespace ch ∧ ch ≠ ';' then
        true
      else
        hasRemainingLoop fuel chars

/-- Is there anything but white space, comments and semicolons left? -/
def hasRemainingStatementText (chars : List Char) : Bool :=
  hasRemainingLoop chars.length chars

/-- The placeholder reported after a `$` and the name that follows it. -/
def dollarPlaceholder (name : List Char) (placeholder : Option String) :
    Option String :=
  if (parseUsize name).isNone then some ("$" ++ String.ofList name)
  else placeholder

/-- The placeholder reported after `:` or `@` and the name that follows it. -/
def namedPlaceholder (ch : Char) (name : List Char) (placeholder : Option String) :
    Option String :=
  if name.isEmpty then placeholder else some (String.ofList (ch :: name))

/-- The loop of `inspect_sql`, with its `saw_statement` flag and the placeholder
reported so far. -/
def inspectLoop : Nat → Bool → Option String → List Char → SqlInspection
  | 0, _, placeholder, _ => { unsupportedNamedPlaceholder := placeholder }
  | _ + 1, _, placeholder, [] => { unsupportedNamedPlaceholder := placeholder }
  | fuel + 1, sawStatement, placeholder, ch :: chars =>
      if ch = '\'' then
        inspectLoop fuel true placeholder (skipSingleQuoted chars)
      else if ch = doubleQuote ∨ ch = backQuote then
        inspectLoop fuel true placeholder (skipQuoted ch chars)
      else if ch = '[' then
        inspectLoop fuel true placeholder (skipQuoted ']' chars)
      else if ch = '-' ∧ chars.head? = some '-' then
        inspectLoop fuel sawStatement placeholder (skipLineComment chars.tail)
      else if ch = '/' ∧ chars.head? = some '*' then
        inspectLoop fuel sawStatement placeholder (skipBlockComment chars.tail)
      else if ch = ';' ∧ sawStatement ∧ hasRemainingStatementText chars then
        { mayContainMultipleStatements := true
          unsupportedNamedPlaceholder := placeholder }
      else if ch = '$' then
        let (name, rest) := readPlaceholderName chars
        inspectLoop fuel true (dollarPlaceholder name placeholder) rest
      else if ch = ':' ∨ ch = '@' then
        let (name, rest) := readPlaceholderName chars
        inspectLoop fuel true (namedPlaceholder ch name placeholder) rest
      -- a semicolon that the guard above let through lands here too
      else if !isWhitespace ch then
        inspectLoop fuel true placeholder chars
      else
        inspectLoop fuel sawStatement placeholder chars

/-- Inspect a query text. -/
def inspectSql (sql : String) : SqlInspection :=
  inspectLoop sql.toList.length false none sql.toList

example : (inspectSql "SELECT ';' -- a; b").mayContainMultipleStatements = false := by
  decide

example : (inspectSql "SELECT $name").unsupportedNamedPlaceholder = some "$name" := by
  decide

end SqlxTurso.Sql
