import Mathlib.Logic.Function.Basic
import SqlxTurso.Library.Async

/-!
# A file system that fails

Directories at paths, and the calls of a program on them.  The fate of a call says what
becomes of it: it succeeds, it fails, or the process dies during it.  Renaming is atomic,
and a recursive removal may stop after any part of it.
-/

namespace SqlxTurso.Library

/-! ## Paths -/

inductive Component where
  | curDir
  | parentDir
  | normal (name : String)
  deriving DecidableEq, Repr

def Component.text : Component → String
  | curDir => "."
  | parentDir => ".."
  | normal name => name

/-- A path, cut at its separators. -/
structure Path where
  hasRoot : Bool
  components : List Component
  deriving DecidableEq, Repr

namespace Path

def parent (path : Path) : Option Path :=
  if path.components = [] then none
  else some { path with components := path.components.dropLast }

def fileName (path : Path) : Option String :=
  match path.components.getLast? with
  | some (.normal name) => some name
  | _ => none

def join (path : Path) (name : String) : Path :=
  { path with components := path.components ++ [.normal name] }

def display (path : Path) : String :=
  (if path.hasRoot then "/" else "") ++ "/".intercalate (path.components.map Component.text)

end Path

/-! ## Directories -/

/-- An error of the operating system, told by its text. -/
structure IoError where
  text : String
  deriving DecidableEq, Repr

namespace IoError

def notFound : IoError := ⟨"No such file or directory (os error 2)"⟩
def alreadyExists : IoError := ⟨"File exists (os error 17)"⟩
def notADirectory : IoError := ⟨"Not a directory (os error 20)"⟩
def isADirectory : IoError := ⟨"Is a directory (os error 21)"⟩
def directoryNotEmpty : IoError := ⟨"Directory not empty (os error 39)"⟩

end IoError

/-- What is at a path: a directory is told by everything that is in it. -/
inductive Node (Entry : Type) where
  | file
  | directory (entries : List Entry)
  deriving DecidableEq, Repr

abbrev Disk (Entry : Type) := Path → Option (Node Entry)

/-- What becomes of a call.  Of a removal that fails some entries may be left, and a call
during which the process dies may be done or not. -/
inductive Fate (Entry : Type) where
  | succeeds
  | fails (error : IoError) (left : Entry → Bool)
  | dies (left : Option (Entry → Bool))

namespace Disk

variable {Entry : Type} (disk : Disk Entry)

/-- The node at one path is moved to another one. -/
def moved (source target : Path) : Disk Entry :=
  Function.update (Function.update disk source none) target (disk source)

/-- A directory may be moved to where nothing is, or an empty directory. -/
def rename (source target : Path) : Except IoError (Disk Entry) :=
  match disk source, disk target with
  | none, _ => .error .notFound
  | some _, none => .ok (disk.moved source target)
  | some (.directory _), some (.directory []) => .ok (disk.moved source target)
  | some (.directory _), some (.directory (_ :: _)) => .error .directoryNotEmpty
  | some (.directory _), some .file => .error .notADirectory
  | some .file, some .file => .ok (disk.moved source target)
  | some .file, some (.directory _) => .error .isADirectory

/-- The disk with a part of a directory removed. -/
def withLeft (path : Path) (entries : List Entry) (left : Entry → Bool) : Disk Entry :=
  Function.update disk path (some (.directory (entries.filter left)))

variable {disk}

theorem moved_source {source target : Path} (differ : source ≠ target) :
    disk.moved source target source = none := by
  rw [moved, Function.update_of_ne differ, Function.update_self]

theorem moved_target (source target : Path) : disk.moved source target target = disk source :=
  Function.update_self _ _ _

theorem moved_other {source target other : Path} (notSource : other ≠ source)
    (notTarget : other ≠ target) : disk.moved source target other = disk other := by
  rw [moved, Function.update_of_ne notTarget, Function.update_of_ne notSource]

theorem rename_eq_moved {source target : Path} {after : Disk Entry}
    (renamed : disk.rename source target = .ok after) : after = disk.moved source target := by
  unfold rename at renamed
  split at renamed
  all_goals
    first
    | exact (Except.ok.inj renamed).symm
    | cases renamed

theorem rename_free {source target : Path} {node : Node Entry} (isNode : disk source = some node)
    (free : disk target = none) : disk.rename source target = .ok (disk.moved source target) := by
  rw [rename, isNode, free]

end Disk

/-! ## Calls -/

section Calls

variable {Entry ε : Type} (fate : Fate Entry)

/-- Is there anything at the path?  A call that fails says no. -/
def pathExists (path : Path) : Async (Disk Entry) ε Bool := fun disk =>
  match fate with
  | .succeeds => (.returned (disk path).isSome, disk)
  | .fails _ _ => (.returned false, disk)
  | .dies _ => (.dropped, disk)

/-- Is there a directory at the path?  A call that fails says no. -/
def isDir (path : Path) : Async (Disk Entry) ε Bool := fun disk =>
  match fate with
  | .succeeds =>
      match disk path with
      | some (.directory _) => (.returned true, disk)
      | _ => (.returned false, disk)
  | .fails _ _ => (.returned false, disk)
  | .dies _ => (.dropped, disk)

/-- Create the directories above others.  They are not among those that are told. -/
def createDirAll (_path : Path) : Async (Disk Entry) IoError Unit := fun disk =>
  match fate with
  | .succeeds => (.returned (), disk)
  | .fails error _ => (.failed error, disk)
  | .dies _ => (.dropped, disk)

def createDir (path : Path) : Async (Disk Entry) IoError Unit := fun disk =>
  match fate with
  | .succeeds =>
      if (disk path).isSome then (.failed .alreadyExists, disk)
      else (.returned (), Function.update disk path (some (.directory [])))
  | .fails error _ => (.failed error, disk)
  | .dies none => (.dropped, if (disk path).isSome then disk
      else Function.update disk path (some (.directory [])))
  | .dies (some _) => (.dropped, disk)

/-- Move what is at one path to another one, all at once or not at all. -/
def rename (source target : Path) : Async (Disk Entry) IoError Unit := fun disk =>
  match fate, disk.rename source target with
  | .succeeds, .ok after => (.returned (), after)
  | .succeeds, .error error => (.failed error, disk)
  | .fails error _, _ => (.failed error, disk)
  | .dies none, .ok after => (.dropped, after)
  | .dies _, _ => (.dropped, disk)

/-- Remove a directory with everything in it, one part after the other. -/
def removeDirAll (path : Path) : Async (Disk Entry) IoError Unit := fun disk =>
  match disk path with
  | none => (.failed .notFound, disk)
  | some .file => (.failed .notADirectory, disk)
  | some (.directory entries) =>
      match fate with
      | .succeeds => (.returned (), Function.update disk path none)
      | .fails error left => (.failed error, disk.withLeft path entries left)
      | .dies none => (.dropped, Function.update disk path none)
      | .dies (some left) => (.dropped, disk.withLeft path entries left)

end Calls

/-! ## What the calls do -/

namespace Async.Meets

variable {Entry ε : Type} {fate : Fate Entry} {start : Disk Entry}

theorem pathExists {path : Path} :
    Meets (· = start) (pathExists fate path : Async (Disk Entry) ε Bool) fun outcome disk =>
      disk = start ∧ (outcome = .returned true → (start path).isSome = true) := by
  rintro _ rfl
  cases fate with
  | succeeds => exact ⟨rfl, fun isTrue => Outcome.returned.inj isTrue⟩
  | fails error left => exact ⟨rfl, fun isTrue => nomatch isTrue⟩
  | dies left => exact ⟨rfl, fun isTrue => nomatch isTrue⟩

/-- A renaming is done, or nothing has changed and it has not returned. -/
theorem rename {source target : Path} :
    Meets (· = start) (rename fate source target) fun outcome disk =>
      match outcome with
      | .returned _ => start.rename source target = .ok disk
      | .failed _ => disk = start
      | .dropped => disk = start ∨ start.rename source target = .ok disk := by
  rintro disk rfl
  cases renamed : disk.rename source target with
  | ok after =>
      cases fate with
      | succeeds => simp [Library.rename, renamed]
      | fails error left => simp [Library.rename]
      | dies left => cases left <;> simp [Library.rename, renamed]
  | error error =>
      cases fate with
      | succeeds => simp [Library.rename, renamed]
      | fails error left => simp [Library.rename]
      | dies left => cases left <;> simp [Library.rename, renamed]

/-- A removal changes nothing elsewhere, however it ends. -/
theorem removeDirAll {path : Path} :
    Meets (· = start) (removeDirAll fate path) fun _ disk =>
      ∀ other, other ≠ path → disk other = start other := by
  rintro _ rfl other differ
  unfold Library.removeDirAll
  split
  · rfl
  · rfl
  · cases fate with
    | succeeds => exact Function.update_of_ne differ _ _
    | fails error left => exact Function.update_of_ne differ _ _
    | dies left => cases left <;> exact Function.update_of_ne differ _ _

end Async.Meets

end SqlxTurso.Library
