import Mathlib.Data.List.Basic

/-!
# Path rewriting in macro expansions

The expansion that `sqlx_macros_core` produces names the adapter by the absolute
paths `::sqlx` and `::sqlx_turso`.  `rewrite_sqlx_paths` replaces them by the path
under which the facade crate was imported.  It walks the token stream and its
groups from the left and pairs two adjacent colons whenever it meets the first
of them; spacing and the tokens before the pair are not looked at.
-/

namespace SqlxTurso.Macros

/-- Whether a punctuation character is glued to the next one. -/
inductive Spacing where
  | alone
  | joint
  deriving DecidableEq, Repr

inductive Delimiter where
  | parenthesis
  | brace
  | bracket
  | none
  deriving DecidableEq, Repr

/-- A token stream: its first token, with the tokens that follow it.  A group
holds a stream of its own. -/
inductive TokenStream where
  | nil
  | punct (char : Char) (spacing : Spacing) (rest : TokenStream)
  | ident (name : String) (rest : TokenStream)
  | literal (text : String) (rest : TokenStream)
  | group (delimiter : Delimiter) (stream rest : TokenStream)
  deriving DecidableEq, Repr

namespace TokenStream

/-- The path separator as `quote!` writes it. -/
def pathSeparator (rest : TokenStream) : TokenStream :=
  .punct ':' .joint (.punct ':' .alone rest)

/-- The absolute path `::first::second::…`, followed by `rest`. -/
def absolutePath : List String → TokenStream → TokenStream
  | [], rest => rest
  | segment :: segments, rest =>
      pathSeparator (.ident segment (absolutePath segments rest))

end TokenStream

/-- How `proc_macro_crate::crate_name` found the facade crate. -/
inductive FoundCrate where
  | itself
  | name (name : String)
  deriving DecidableEq, Repr

/-- The crate name in the path that `facade_crate_path` returns. -/
def facadeCratePath : FoundCrate → String
  | .itself => "sqlx_turso"
  | .name name => name

/-- The path that replaces `::name`, if `name` is one of the rewritten crates. -/
def absolutePathReplacement (name : String) (facade : FoundCrate) :
    Option (List String) :=
  if name = "sqlx" then
    some [facadeCratePath facade, "sqlx"]
  else if name = "sqlx_turso" then
    some [facadeCratePath facade]
  else
    none

/-- Rewrite a token stream, recursing into groups.  When the two colons are not
followed by one of the rewritten crates, both are emitted and the walk goes on
after them. -/
def rewriteSqlxPaths (facade : FoundCrate) : TokenStream → TokenStream
  | .nil => .nil
  | .punct ':' first (.punct ':' second (.ident name rest)) =>
      match absolutePathReplacement name facade with
      | some path => .absolutePath path (rewriteSqlxPaths facade rest)
      | none =>
          .punct ':' first (.punct ':' second (.ident name (rewriteSqlxPaths facade rest)))
  | .punct ':' first (.punct ':' second rest) =>
      .punct ':' first (.punct ':' second (rewriteSqlxPaths facade rest))
  | .punct char spacing rest => .punct char spacing (rewriteSqlxPaths facade rest)
  | .ident name rest => .ident name (rewriteSqlxPaths facade rest)
  | .literal text rest => .literal text (rewriteSqlxPaths facade rest)
  | .group delimiter stream rest =>
      .group delimiter (rewriteSqlxPaths facade stream) (rewriteSqlxPaths facade rest)

example :
    rewriteSqlxPaths (.name "db") (.absolutePath ["sqlx", "query"] .nil) =
      .absolutePath ["db", "sqlx", "query"] .nil := by
  decide

/-! ## Path heads -/

/-- One token, as it stands to the left of a position. -/
inductive Token where
  | punct (char : Char) (spacing : Spacing)
  | ident (name : String)
  | literal (text : String)
  | group (delimiter : Delimiter) (stream : TokenStream)
  deriving DecidableEq, Repr

/-- A reading of the tokens to the left of a position, the nearest first, within
the same group: does a `::` at this position start an absolute path?  The
results below hold for every reading. -/
abbrev PathReading := List Token → Bool

/-- Identifiers of the language that are not path segments. -/
def reservedWords : List String :=
  ["as", "async", "await", "break", "const", "continue", "dyn", "else", "enum",
    "extern", "false", "fn", "for", "if", "impl", "in", "let", "loop", "match",
    "mod", "move", "mut", "pub", "ref", "return", "static", "struct", "trait",
    "true", "type", "unsafe", "use", "where", "while", "yield"]

/-- The reading of the language: a `::` goes on with a path after a segment, which
ends in an identifier or in the `>` that closes its generic arguments, and it is
no separator of its own after a colon that is glued to it. -/
def languageReading : PathReading
  | .ident name :: _ => reservedWords.contains name
  | .punct '>' _ :: .punct arrow .joint :: _ => arrow == '-' || arrow == '='
  | .punct '>' _ :: _ => false
  | .punct ':' .joint :: _ => false
  | .punct ':' .alone :: .punct ':' .joint :: _ => false
  | _ => true

/-- A property of every position of a stream and of its groups, where the first
argument is what stands to the left. -/
def Everywhere (property : List Token → TokenStream → Prop) :
    List Token → TokenStream → Prop
  | before, .nil => property before .nil
  | before, .punct char spacing rest =>
      property before (.punct char spacing rest) ∧
        Everywhere property (.punct char spacing :: before) rest
  | before, .ident name rest =>
      property before (.ident name rest) ∧
        Everywhere property (.ident name :: before) rest
  | before, .literal text rest =>
      property before (.literal text rest) ∧
        Everywhere property (.literal text :: before) rest
  | before, .group delimiter stream rest =>
      property before (.group delimiter stream rest) ∧
        Everywhere property [] stream ∧
        Everywhere property (.group delimiter stream :: before) rest

/-- `::sqlx` or `::sqlx_turso` at the front of a stream, with the spacing of its
first colon. -/
def rewrittenHead : TokenStream → Option Spacing
  | .punct ':' first (.punct ':' _ (.ident name _)) =>
      if name = "sqlx" ∨ name = "sqlx_turso" then some first else none
  | _ => none

/-- Whether the walk, which pairs colons from the left, is between two pairs: an
even number of colons stands directly to the left. -/
def isPaired : List Token → Bool
  | .punct ':' _ :: before => !isPaired before
  | _ => true

/-- The head of an absolute path to one of the rewritten crates: its first colon
is glued to the second. -/
def IsHead (reading : PathReading) (before : List Token) (stream : TokenStream) : Prop :=
  reading before = true ∧ rewrittenHead stream = some .joint

/-- The output is the input with some paths replaced by the facade path: only where
`may` allows it, and everywhere where `must` demands it. -/
inductive Replaced (may must : List Token → TokenStream → Prop) (facade : FoundCrate) :
    List Token → TokenStream → TokenStream → Prop where
  | nil {before} : Replaced may must facade before .nil .nil
  | punct {before char spacing rest out} :
      ¬must before (.punct char spacing rest) →
      Replaced may must facade (.punct char spacing :: before) rest out →
      Replaced may must facade before (.punct char spacing rest) (.punct char spacing out)
  | ident {before name rest out} :
      Replaced may must facade (.ident name :: before) rest out →
      Replaced may must facade before (.ident name rest) (.ident name out)
  | literal {before text rest out} :
      Replaced may must facade (.literal text :: before) rest out →
      Replaced may must facade before (.literal text rest) (.literal text out)
  | group {before delimiter stream inner rest out} :
      Replaced may must facade [] stream inner →
      Replaced may must facade (.group delimiter stream :: before) rest out →
      Replaced may must facade before (.group delimiter stream rest)
        (.group delimiter inner out)
  | path {before first second name path rest out} :
      may before (.punct ':' first (.punct ':' second (.ident name rest))) →
      absolutePathReplacement name facade = some path →
      Replaced may must facade
        (.ident name :: .punct ':' second :: .punct ':' first :: before) rest out →
      Replaced may must facade before
        (.punct ':' first (.punct ':' second (.ident name rest)))
        (.absolutePath path out)

/-- Only `::` that start an absolute path are replaced. -/
def OnlyHeads (reading : PathReading) :
    FoundCrate → List Token → TokenStream → TokenStream → Prop :=
  Replaced (fun before _ => reading before = true) (fun _ _ => False)

/-- Every head of an absolute path to one of the rewritten crates is replaced. -/
def AllHeads (reading : PathReading) :
    FoundCrate → List Token → TokenStream → TokenStream → Prop :=
  Replaced (fun _ _ => True) (IsHead reading)

end SqlxTurso.Macros
