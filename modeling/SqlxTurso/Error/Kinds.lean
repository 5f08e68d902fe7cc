import Mathlib.Data.List.Infix
import SqlxTurso.Error

/-!
# Kinds of constraint errors

The adapter tells the kinds of constraint errors apart by words in their texts.  The words
are looked for in a fixed order and in the whole text, which names tables, columns and
constraints of the user.
-/

namespace SqlxTurso

/-- SQLx's kinds of database errors. -/
inductive ErrorKind where
  | uniqueViolation
  | foreignKeyViolation
  | notNullViolation
  | checkViolation
  | other
  deriving DecidableEq, Repr

/-- Is the needle in the message, whose ASCII letters are put into lower case? -/
def constraintMessageContains (message needle : String) : Bool :=
  decide (needle.toList <:+: message.toList.map Char.toLower)

def sqlxErrorKind (code message : String) : ErrorKind :=
  if code = "SQLITE_CONSTRAINT" ∧ constraintMessageContains message "unique" then
    .uniqueViolation
  else if code = "SQLITE_CONSTRAINT" ∧ constraintMessageContains message "primary" then
    .uniqueViolation
  else if code = "SQLITE_CONSTRAINT" ∧ constraintMessageContains message "foreign" then
    .foreignKeyViolation
  else if code = "SQLITE_CONSTRAINT" ∧ constraintMessageContains message "not null" then
    .notNullViolation
  else if code = "SQLITE_CONSTRAINT" ∧ constraintMessageContains message "check" then
    .checkViolation
  else .other

def TursoDatabaseError.kind (error : TursoDatabaseError) : ErrorKind :=
  sqlxErrorKind error.code error.message

/-- The kind of an error of SQLx, if it is a database error. -/
def SqlxError.databaseKind : SqlxError → Option ErrorKind
  | .database error => some error.kind
  | _ => none

/-! ## The engine's reports -/

/-- The constraints whose failures the engine reports. -/
inductive Constraint where
  | unique
  | primaryKey
  | foreignKey
  | notNull
  | check
  deriving DecidableEq, Repr

namespace Constraint

def text : Constraint → String
  | unique => "UNIQUE"
  | primaryKey => "PRIMARY KEY"
  | foreignKey => "FOREIGN KEY"
  | notNull => "NOT NULL"
  | check => "CHECK"

/-- The text of a report before the names. -/
def heading (constraint : Constraint) : String := constraint.text ++ " constraint failed: "

/-- The error that the engine reports when the constraint fails. -/
def failed (constraint : Constraint) (names : String) : Turso.Error :=
  ⟨.constraint, constraint.heading ++ names⟩

def kind : Constraint → ErrorKind
  | unique => .uniqueViolation
  | primaryKey => .uniqueViolation
  | foreignKey => .foreignKeyViolation
  | notNull => .notNullViolation
  | check => .checkViolation

/-- The word that the constraint is told by. -/
def needle : Constraint → String
  | unique => "unique"
  | primaryKey => "primary"
  | foreignKey => "foreign"
  | notNull => "not null"
  | check => "check"

/-- The words of other kinds that are looked for before the constraint's own. -/
def earlierNeedles : Constraint → List String
  | unique => []
  | primaryKey => []
  | foreignKey => ["unique", "primary"]
  | notNull => ["unique", "primary", "foreign"]
  | check => ["unique", "primary", "foreign", "not null"]

end Constraint

/-! ## Words in a report -/

/-- What is in a joined list is in one of its parts, if no end of the first one starts it. -/
theorem infix_append_iff {α : Type} {needle first second : List α}
    (apart : ∀ tail ∈ first.tails, tail <+: needle → tail = []) :
    needle <:+: first ++ second ↔ needle <:+: first ∨ needle <:+: second := by
  constructor
  · rintro ⟨before, after, joined⟩
    rw [List.append_assoc, List.append_eq_append_iff] at joined
    rcases joined with ⟨tail, isFirst, rest⟩ | ⟨tail, _, isSecond⟩
    · rcases List.append_eq_append_iff.mp rest with ⟨later, isTail, _⟩ | ⟨later, isNeedle, rfl⟩
      · left
        exact ⟨before, later, by rw [isFirst, isTail, List.append_assoc]⟩
      · have isTail : tail ∈ first.tails := by
          rw [List.mem_tails, isFirst]
          exact List.suffix_append before tail
        have noTail := apart tail isTail ⟨later, isNeedle.symm⟩
        rw [noTail, List.nil_append] at isNeedle
        rw [isNeedle]
        exact .inr (List.prefix_append later after).isInfix
    · right
      exact ⟨tail, after, by rw [isSecond, List.append_assoc]⟩
  · rintro (inFirst | inSecond)
    · exact inFirst.trans List.infix_append_left
    · exact inSecond.trans List.infix_append_right

theorem constraintMessageContains_append {first second needle : String}
    (apart : ∀ tail ∈ (first.toList.map Char.toLower).tails,
      tail <+: needle.toList → tail = []) :
    constraintMessageContains (first ++ second) needle =
      (constraintMessageContains first needle || constraintMessageContains second needle) := by
  simp only [constraintMessageContains, String.toList_append, List.map_append,
    infix_append_iff apart, Bool.decide_or]

/-- No word that is looked for reaches from the heading into the names. -/
theorem heading_apart (constraint : Constraint) :
    ∀ needle ∈ ["unique", "primary", "foreign", "not null", "check"],
      ∀ tail ∈ (constraint.heading.toList.map Char.toLower).tails,
        tail <+: needle.toList → tail = [] := by
  cases constraint <;> decide

/-- A heading has the word of its own constraint and no other one. -/
theorem heading_contains (constraint : Constraint) :
    ∀ needle ∈ ["unique", "primary", "foreign", "not null", "check"],
      constraintMessageContains constraint.heading needle = (needle == constraint.needle) := by
  cases constraint <;> decide

/-! ## The kind of a report -/

/-- The chain of tests on the report of a constraint that has failed. -/
theorem databaseKind_failed (constraint : Constraint) (names : String) :
    (mapTursoError (constraint.failed names)).databaseKind = some (
      let found needle := needle == constraint.needle || constraintMessageContains names needle
      if found "unique" then .uniqueViolation
      else if found "primary" then .uniqueViolation
      else if found "foreign" then .foreignKeyViolation
      else if found "not null" then .notNullViolation
      else if found "check" then .checkViolation
      else .other) := by
  have split : ∀ needle ∈ ["unique", "primary", "foreign", "not null", "check"],
      constraintMessageContains (constraint.heading ++ names) needle =
        (needle == constraint.needle || constraintMessageContains names needle) := by
    intro needle isNeedle
    rw [constraintMessageContains_append (heading_apart constraint needle isNeedle),
      heading_contains constraint needle isNeedle]
  simp only [mapTursoError, Constraint.failed, SqlxError.databaseKind, TursoDatabaseError.kind,
    sqlxErrorKind, tursoErrorCode, true_and]
  rw [split "unique" (by decide), split "primary" (by decide), split "foreign" (by decide),
    split "not null" (by decide), split "check" (by decide)]

/-- A test for another kind has to fail. -/
theorem ite_eq_iff_of_ne {found : Bool} {first kind rest : ErrorKind} (differs : first ≠ kind) :
    (if found = true then first else rest) = kind ↔ found = false ∧ rest = kind := by
  cases found with
  | true => simp [differs]
  | false => simp

/-- The kind of an error is that of the constraint exactly when the names have no word of
another kind that is looked for earlier. -/
theorem databaseKind_failed_iff (constraint : Constraint) (names : String) :
    (mapTursoError (constraint.failed names)).databaseKind = some constraint.kind ↔
      ∀ needle ∈ constraint.earlierNeedles, constraintMessageContains names needle = false := by
  rw [databaseKind_failed, Option.some_inj]
  cases constraint with
  | unique => simp [Constraint.earlierNeedles, Constraint.kind, Constraint.needle]
  | primaryKey => simp [Constraint.earlierNeedles, Constraint.kind, Constraint.needle]
  | foreignKey =>
      simp [Constraint.earlierNeedles, Constraint.kind, Constraint.needle, ite_eq_iff_of_ne]
  | notNull =>
      simp [Constraint.earlierNeedles, Constraint.kind, Constraint.needle, ite_eq_iff_of_ne]
  | check =>
      simp [Constraint.earlierNeedles, Constraint.kind, Constraint.needle, ite_eq_iff_of_ne]

theorem primaryEmail_is_reported_as_unique :
    (mapTursoError (Constraint.notNull.failed "users.primary_email")).databaseKind ≠
      some Constraint.notNull.kind := by
  decide

end SqlxTurso
