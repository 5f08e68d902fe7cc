import Mathlib.Data.List.Infix
import SqlxTurso.Value

/-!
# Declared types

The adapter reads what a column holds off the name of its declared type, and so does
the engine when it gives the column an affinity.  The two read names differently.
-/

namespace SqlxTurso

namespace TursoTypeInfo

variable (typeInfo : TursoTypeInfo)

/-- The characters of the name in lower case, as far as they are ASCII letters. -/
def lowered : List Char := typeInfo.name.toList.map Char.toLower

def isNamed (name : String) : Bool := typeInfo.lowered == name.toList

def contains (part : String) : Bool := decide (part.toList <:+: typeInfo.lowered)

def hasIntegerAffinity : Bool :=
  typeInfo.isNamed "int4" || typeInfo.isNamed "int8" || typeInfo.contains "int"

def hasBoolAffinity : Bool := typeInfo.isNamed "boolean" || typeInfo.isNamed "bool"

def hasTextAffinity : Bool :=
  typeInfo.contains "char" || typeInfo.contains "clob" || typeInfo.contains "text"

def hasBlobAffinity : Bool := typeInfo.isNamed "blob"

def hasRealAffinity : Bool :=
  typeInfo.contains "real" || typeInfo.contains "floa" || typeInfo.contains "doub"

def hasDateAffinity : Bool := typeInfo.isNamed "date"

def hasTimeAffinity : Bool := typeInfo.isNamed "time"

def hasDatetimeAffinity : Bool := typeInfo.isNamed "datetime" || typeInfo.isNamed "timestamp"

/-- The names of integer types are those that mention one. -/
theorem hasIntegerAffinity_eq : typeInfo.hasIntegerAffinity = typeInfo.contains "int" := by
  have mentions : ∀ name, ("int".toList <:+: name) → typeInfo.lowered = name →
      typeInfo.contains "int" = true := by
    rintro name inName rfl
    exact decide_eq_true inName
  unfold hasIntegerAffinity
  cases named4 : typeInfo.isNamed "int4" with
  | true => rw [mentions _ (by decide) (beq_iff_eq.mp named4)]; rfl
  | false =>
      cases named8 : typeInfo.isNamed "int8" with
      | true => rw [mentions _ (by decide) (beq_iff_eq.mp named8)]; rfl
      | false => rfl

/-- What is mentioned in a name that is known. -/
theorem contains_of_isNamed {name : String} (isNamed : typeInfo.isNamed name = true)
    (part : String) : typeInfo.contains part = decide (part.toList <:+: name.toList) := by
  rw [contains, beq_iff_eq.mp isNamed]

end TursoTypeInfo

/-! ## The engine's affinities -/

/-- The class in which a value is stored. -/
inductive StorageClass where
  | integer
  | real
  | text
  | blob
  deriving DecidableEq, Repr

/-- The storage class of a value that is not NULL. -/
def Turso.Value.storageClass : Turso.Value → Option StorageClass
  | .null => none
  | .integer _ => some .integer
  | .real _ => some .real
  | .text _ => some .text
  | .blob _ => some .blob

inductive Affinity where
  | integer
  | text
  | blob
  | real
  | numeric
  deriving DecidableEq, Repr

/-- SQLite's rules for the affinity of a column, in their order. -/
def declaredAffinity : Option String → Affinity
  | none => .blob
  | some declType =>
      let mentions := TursoTypeInfo.contains ⟨declType⟩
      if mentions "int" then .integer
      else if mentions "char" || mentions "clob" || mentions "text" then .text
      else if mentions "blob" || declType = "" then .blob
      else if mentions "real" || mentions "floa" || mentions "doub" then .real
      else .numeric

namespace Affinity

/-- The storage classes that a column of the affinity may hold.  Numbers become texts in
a text column, and integers become real numbers in a real one. -/
def admits : Affinity → StorageClass → Bool
  | text, .integer | text, .real => false
  | real, .integer => false
  | _, _ => true

end Affinity

end SqlxTurso
