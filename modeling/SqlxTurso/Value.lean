import Mathlib.Data.List.Basic

/-!
# Values

The value that the adapter hands to SQLx carries a declared type next to its
storage class; the engine's own value is the storage class alone.
-/

namespace SqlxTurso

/-- A value of the engine.  Integers are 64-bit; a real number is kept as its bit
pattern, since the adapter never computes with it. -/
inductive Turso.Value where
  | null
  | integer (value : Int64)
  | real (bits : UInt64)
  | text (value : String)
  | blob (value : List UInt8)
  deriving DecidableEq, Repr

structure TursoTypeInfo where
  name : String
  deriving DecidableEq, Repr

namespace TursoTypeInfo

/-- The NULL storage class. -/
def null : TursoTypeInfo := ⟨"NULL"⟩

def isNull (typeInfo : TursoTypeInfo) : Bool := typeInfo.name = null.name

end TursoTypeInfo

/-- An owned value with its type. -/
structure TursoValue where
  typeInfo : TursoTypeInfo
  kind : Turso.Value
  deriving DecidableEq, Repr

namespace TursoValue

def null : TursoValue := ⟨.null, .null⟩

def integer (value : Int64) : TursoValue := ⟨⟨"INTEGER"⟩, .integer value⟩

def real (bits : UInt64) : TursoValue := ⟨⟨"REAL"⟩, .real bits⟩

def text (value : String) : TursoValue := ⟨⟨"TEXT"⟩, .text value⟩

def blob (value : List UInt8) : TursoValue := ⟨⟨"BLOB"⟩, .blob value⟩

/-- The value for what the engine returned. -/
def fromTurso : Turso.Value → TursoValue
  | .null => null
  | .integer value => integer value
  | .real bits => real bits
  | .text value => text value
  | .blob value => blob value

/-- Give the value a declared type, unless that is NULL. -/
def withTypeInfo (value : TursoValue) (typeInfo : TursoTypeInfo) : TursoValue :=
  if typeInfo.isNull then value else { value with typeInfo }

/-- The engine's value; the declared type is dropped. -/
def intoTurso (value : TursoValue) : Turso.Value := value.kind

end TursoValue

end SqlxTurso
