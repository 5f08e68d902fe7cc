import SqlxTurso.Value

/-!
# Arguments and query builders

Binding a value encodes it into the argument buffer; a query builder binds first
and then asks the buffer for the text of the placeholder.
-/

namespace SqlxTurso

/-- Whether an encoder left the NULL for its caller to write. -/
inductive IsNull where
  | yes
  | no
  deriving DecidableEq, Repr

/-- What `Encode::encode` does for one value: it writes one value into the buffer,
reports NULL, or fails after it may have written something. -/
inductive Encoding where
  | writes (value : TursoValue)
  | isNull
  | fails (written : List TursoValue) (error : String)
  deriving DecidableEq, Repr

namespace Encoding

def encode (value : Encoding) (values : List TursoValue) :
    Except String IsNull × List TursoValue :=
  match value with
  | writes value => (.ok .no, values ++ [value])
  | isNull => (.ok .yes, values)
  | fails written error => (.error error, values ++ written)

/-- The encoding of a value, if it has one. -/
def encoded : Encoding → Option TursoValue
  | writes value => some value
  | isNull => some .null
  | fails _ _ => none

end Encoding

/-- The argument buffer of a query. -/
structure TursoArguments where
  values : List TursoValue := []
  deriving DecidableEq, Repr

namespace TursoArguments

/-- The values handed to the engine. -/
def intoTursoValues (arguments : TursoArguments) : List Turso.Value :=
  arguments.values.map TursoValue.intoTurso

/-- Encode a value into the buffer; a failed encoding leaves nothing behind. -/
def add (arguments : TursoArguments) (value : Encoding) :
    Except String Unit × TursoArguments :=
  let len := arguments.values.length
  match value.encode arguments.values with
  | (.ok .yes, values) => (.ok (), ⟨values ++ [.null]⟩)
  | (.ok .no, values) => (.ok (), ⟨values⟩)
  | (.error error, values) => (.error error, ⟨values.take len⟩)

/-- The text of a placeholder. -/
def formatPlaceholder (arguments : TursoArguments) : String :=
  "?" ++ toString (arguments.values.length + 1)

theorem add_of_encoded (arguments : TursoArguments) {value : Encoding}
    {result : TursoValue} (hasEncoding : value.encoded = some result) :
    arguments.add value = (.ok (), ⟨arguments.values ++ [result]⟩) := by
  cases value with
  | writes value => cases hasEncoding; rfl
  | isNull => cases hasEncoding; rfl
  | fails written error => cases hasEncoding

/-- A failed encoding is reported and leaves the buffer as it was. -/
theorem add_fails (arguments : TursoArguments) (written : List TursoValue)
    (error : String) :
    arguments.add (.fails written error) = (.error error, arguments) := by
  simp [add, Encoding.encode]

end TursoArguments

/-- A fragment or a value pushed to a query builder. -/
inductive QueryPart where
  | sql (fragment : String)
  | bind (value : Encoding)
  deriving DecidableEq, Repr

/-- The text and the arguments that a query builder has collected. -/
structure QueryBuilder where
  query : String
  arguments : TursoArguments := {}
  deriving DecidableEq, Repr

namespace QueryBuilder

def push (builder : QueryBuilder) (fragment : String) : QueryBuilder :=
  { builder with query := builder.query ++ fragment }

/-- Bind a value and write its placeholder.  The builder panics when the value cannot
be encoded. -/
def pushBind (builder : QueryBuilder) (value : Encoding) : Option QueryBuilder :=
  match builder.arguments.add value with
  | (.ok (), arguments) =>
      some { query := builder.query ++ arguments.formatPlaceholder, arguments }
  | (.error _, _) => none

/-- Push the parts one after the other. -/
def pushAll (builder : QueryBuilder) : List QueryPart → Option QueryBuilder
  | [] => some builder
  | .sql fragment :: parts => (builder.push fragment).pushAll parts
  | .bind value :: parts => (builder.pushBind value).bind (·.pushAll parts)

end QueryBuilder

/-- The bound values of the parts. -/
def boundValues : List QueryPart → List Encoding
  | [] => []
  | .sql _ :: parts => boundValues parts
  | .bind value :: parts => value :: boundValues parts

/-- The text of the parts, where the placeholder of the first value is numbered
`first` and the others follow in order. -/
def numberedText (first : Nat) : List QueryPart → String
  | [] => ""
  | .sql fragment :: parts => fragment ++ numberedText first parts
  | .bind _ :: parts => "?" ++ toString first ++ numberedText (first + 1) parts

/-- The encodings of the values, if all of them have one. -/
def encodings (values : List Encoding) : Option (List TursoValue) :=
  values.mapM Encoding.encoded

theorem encodings_cons (value : Encoding) (values : List Encoding) :
    encodings (value :: values) =
      value.encoded.bind fun result => (encodings values).map (result :: ·) := by
  unfold encodings
  rw [List.mapM_cons]
  cases value.encoded with
  | none => rfl
  | some result => cases List.mapM Encoding.encoded values <;> rfl

theorem pushBind_of_encoded (builder : QueryBuilder) {value : Encoding}
    {result : TursoValue} (hasEncoding : value.encoded = some result) :
    builder.pushBind value = some
      { query := builder.query ++ "?" ++ toString (builder.arguments.values.length + 2)
        arguments := ⟨builder.arguments.values ++ [result]⟩ } := by
  simp [QueryBuilder.pushBind, TursoArguments.add_of_encoded _ hasEncoding,
    TursoArguments.formatPlaceholder, String.append_assoc]

theorem pushBind_of_not_encoded (builder : QueryBuilder) {value : Encoding}
    (noEncoding : value.encoded = none) : builder.pushBind value = none := by
  cases value with
  | fails written error => simp [QueryBuilder.pushBind, TursoArguments.add_fails]
  | writes value => cases noEncoding
  | isNull => cases noEncoding

/-- What a builder holds after the parts were pushed.  The first placeholder written
is numbered by two more than the arguments that were there before. -/
theorem pushAll_eq (builder : QueryBuilder) (parts : List QueryPart) :
    builder.pushAll parts =
      (encodings (boundValues parts)).map fun results =>
        { query := builder.query ++
            numberedText (builder.arguments.values.length + 2) parts
          arguments := ⟨builder.arguments.values ++ results⟩ } := by
  induction parts generalizing builder with
  | nil => simp [QueryBuilder.pushAll, boundValues, encodings, numberedText]
  | cons part parts ih =>
      cases part with
      | sql fragment =>
          rw [QueryBuilder.pushAll, ih]
          simp only [QueryBuilder.push, boundValues, numberedText, String.append_assoc]
      | bind value =>
          cases hasEncoding : value.encoded with
          | none =>
              simp only [QueryBuilder.pushAll, pushBind_of_not_encoded _ hasEncoding,
                boundValues, encodings_cons, hasEncoding, Option.bind_none, Option.map_none]
          | some result =>
              simp only [QueryBuilder.pushAll, pushBind_of_encoded _ hasEncoding,
                Option.bind_some, ih, boundValues, encodings_cons, hasEncoding,
                Option.map_map, Function.comp_def, numberedText, List.length_append,
                List.length_singleton, List.append_assoc, List.singleton_append,
                String.append_assoc]

/-- A query builder names its values: the text numbers the placeholders from one, and
the engine gets the encodings of the values in order. -/
def NamesItsValues (initial : String) (parts : List QueryPart) : Prop :=
  ∀ builder, ({ query := initial } : QueryBuilder).pushAll parts = some builder →
    builder.query = initial ++ numberedText 1 parts ∧
      some builder.arguments.intoTursoValues =
        (encodings (boundValues parts)).map (List.map TursoValue.intoTurso)

/-- Numbering from one and numbering from two give different texts, unless there is
nothing to number. -/
theorem numberedText_one_eq_two (parts : List QueryPart) :
    numberedText 2 parts = numberedText 1 parts ↔ boundValues parts = [] := by
  induction parts with
  | nil => exact ⟨fun _ => rfl, fun _ => rfl⟩
  | cons part parts ih =>
      cases part with
      | sql fragment =>
          simp only [numberedText, boundValues, String.append_right_inj, ih]
      | bind value =>
          simp only [numberedText, boundValues, reduceCtorEq, iff_false]
          intro same
          have sameChars := congrArg String.toList same
          simp only [String.toList_append] at sameChars
          have one : (toString 1).toList = ['1'] := by decide
          have two : (toString 2).toList = ['2'] := by decide
          rw [one, two] at sameChars
          simp at sameChars

theorem encodings_eq_none_iff (values : List Encoding) :
    encodings values = none ↔ ∃ value ∈ values, value.encoded = none := by
  induction values with
  | nil => simp [encodings]
  | cons value values ih =>
      rw [encodings_cons]
      cases hasEncoding : value.encoded with
      | none => simp [hasEncoding]
      | some result => simp [hasEncoding, ih]

/-- A query builder names its values if and only if there is none, or the builder panics
because one of them has no encoding. -/
theorem namesItsValues_iff (initial : String) (parts : List QueryPart) :
    NamesItsValues initial parts ↔
      boundValues parts = [] ∨ ∃ value ∈ boundValues parts, value.encoded = none := by
  rw [← encodings_eq_none_iff]
  unfold NamesItsValues
  simp only [pushAll_eq, List.length_nil, List.nil_append, Nat.zero_add]
  cases encoded : encodings (boundValues parts) with
  | none => simp
  | some results =>
      have numbered := numberedText_one_eq_two parts
      simp only [Option.map_some, Option.some.injEq, forall_eq', reduceCtorEq, or_false]
      rw [← numbered]
      constructor
      · intro named
        exact (String.append_right_inj initial).mp named.1
      · intro same
        exact ⟨by rw [same], rfl⟩

/-- The first placeholder names a second argument that does not exist. -/
theorem first_placeholder_is_two :
    ({ query := "SELECT " } : QueryBuilder).pushAll [.bind (.writes (.integer 7))] =
        some { query := "SELECT ?2", arguments := ⟨[.integer 7]⟩ } ∧
      ¬NamesItsValues "SELECT " [.bind (.writes (.integer 7))] := by
  have built : ({ query := "SELECT " } : QueryBuilder).pushAll
      [.bind (.writes (.integer 7))] =
        some { query := "SELECT ?2", arguments := ⟨[.integer 7]⟩ } := by
    decide
  refine ⟨built, ?_⟩
  intro named
  have numbered := (named _ built).1
  exact absurd numbered (by decide)

end SqlxTurso
