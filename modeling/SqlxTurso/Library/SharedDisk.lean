import Mathlib.Data.List.Perm.Basic
import SqlxTurso.Library.Alone
import SqlxTurso.Library.Filesystem

/-!
# A disk that processes share

The calls of a process on a disk, between any two of which the other processes make theirs.
A recursive removal is not one call: it lists a directory, removes what it has found, and
removes the directory when nothing is left in it.  Any call may fail.
-/

namespace SqlxTurso.Library

/-! ## Calls -/

inductive DiskChange (Entry : Type) where
  | createDirAll (path : Path)
  | createDir (path : Path)
  | rename (source target : Path)
  | removeEntry (path : Path) (entry : Entry)
  | removeDir (path : Path)
  deriving DecidableEq, Repr

inductive DiskCall (Entry : Type) where
  | pathExists (path : Path)
  | isDir (path : Path)
  | readDir (path : Path)
  | alter (change : DiskChange Entry)
  deriving DecidableEq, Repr

abbrev DiskCall.Response {Entry : Type} : DiskCall Entry → Type
  | pathExists _ => Bool
  | isDir _ => Bool
  | readDir _ => Except IoError (List Entry)
  | alter _ => Except IoError Unit

/-- A renaming that was done. -/
structure Move (Process : Type) where
  process : Process
  source : Path
  target : Path
  deriving DecidableEq, Repr

namespace DiskChange

variable {Entry : Type}

def apply [DecidableEq Entry] (disk : Disk Entry) : DiskChange Entry → Except IoError (Disk Entry)
  | createDirAll _ => .ok disk
  | createDir path =>
      if (disk path).isSome then .error .alreadyExists
      else .ok (Function.update disk path (some (.directory [])))
  | rename source target => disk.rename source target
  | removeEntry path entry =>
      match disk path with
      | some (.directory entries) =>
          .ok (Function.update disk path (some (.directory (entries.filter (· ≠ entry)))))
      | _ => .error .notFound
  | removeDir path =>
      match disk path with
      | some (.directory []) => .ok (Function.update disk path none)
      | some (.directory (_ :: _)) => .error .directoryNotEmpty
      | some .file => .error .notADirectory
      | none => .error .notFound

/-- The paths at which something may change. -/
def paths : DiskChange Entry → List Path
  | createDirAll _ => []
  | createDir path => [path]
  | rename source target => [source, target]
  | removeEntry path _ => [path]
  | removeDir path => [path]

def moves {Process : Type} (process : Process) : DiskChange Entry → List (Move Process)
  | rename source target => [⟨process, source, target⟩]
  | _ => []

variable [DecidableEq Entry] {disk after : Disk Entry}

theorem apply_elsewhere {change : DiskChange Entry} (applied : change.apply disk = .ok after)
    {path : Path} (notChanged : path ∉ change.paths) : after path = disk path := by
  cases change with
  | createDirAll _ => rw [← Except.ok.inj applied]
  | createDir own =>
      rw [apply] at applied
      split at applied
      · cases applied
      · rw [← Except.ok.inj applied]
        exact Function.update_of_ne (List.ne_of_not_mem_cons notChanged) _ _
  | rename source target =>
      rw [Disk.rename_eq_moved applied]
      simp only [paths, List.mem_cons, List.not_mem_nil, or_false, not_or] at notChanged
      exact Disk.moved_other notChanged.1 notChanged.2
  | removeEntry own entry =>
      rw [apply] at applied
      split at applied
      · rw [← Except.ok.inj applied]
        exact Function.update_of_ne (List.ne_of_not_mem_cons notChanged) _ _
      · cases applied
  | removeDir own =>
      rw [apply] at applied
      split at applied
      · rw [← Except.ok.inj applied]
        exact Function.update_of_ne (List.ne_of_not_mem_cons notChanged) _ _
      all_goals cases applied

end DiskChange

/-! ## Answers -/

/-- A disk, and what has been renamed on it, the last first. -/
structure SharedDisk (Process Entry : Type) where
  disk : Disk Entry
  moves : List (Move Process)

namespace SharedDisk

variable {Process Entry : Type}

/-- The last renaming from a path or to it. -/
def lastMove (world : SharedDisk Process Entry) (path : Path) : Option (Move Process) :=
  world.moves.find? fun move => decide (move.source = path ∨ move.target = path)

/-- What a call of a process may answer.  A call that answers with an error has done
nothing. -/
def Answers [DecidableEq Entry] (process : Process) (world : SharedDisk Process Entry) :
    (call : DiskCall Entry) → call.Response → SharedDisk Process Entry → Prop
  | .pathExists path, taken, after =>
      after = world ∧ (taken = true → (world.disk path).isSome = true)
  | .isDir path, isDirectory, after =>
      after = world ∧ (isDirectory = true → ∃ entries, world.disk path = some (.directory entries))
  | .readDir path, .ok listed, after =>
      after = world ∧ ∃ entries, world.disk path = some (.directory entries) ∧ listed.Perm entries
  | .readDir _, .error _, after => after = world
  | .alter change, .ok _, after =>
      change.apply world.disk = .ok after.disk ∧ after.moves = change.moves process ++ world.moves
  | .alter _, .error _, after => after = world

variable {process : Process} {world after : SharedDisk Process Entry}

theorem lastMove_of_moves (same : after.moves = world.moves) (path : Path) :
    after.lastMove path = world.lastMove path := by
  rw [lastMove, lastMove, same]

/-- After a renaming it is the last one of the two paths. -/
theorem lastMove_cons {move : Move Process} (moved : after.moves = move :: world.moves)
    (path : Path) :
    after.lastMove path =
      if move.source = path ∨ move.target = path then some move else world.lastMove path := by
  rw [lastMove, moved, List.find?_cons]
  by_cases touches : move.source = path ∨ move.target = path
  · rw [if_pos touches, decide_eq_true touches]
  · rw [if_neg touches, decide_eq_false touches]
    rfl

theorem lastMove_mem {move : Move Process} {path : Path}
    (isLast : world.lastMove path = some move) : move ∈ world.moves :=
  List.mem_of_find?_eq_some isLast

variable [DecidableEq Entry]

/-- A call changes nothing at the paths that are not its own. -/
theorem Answers.elsewhere {change : DiskChange Entry} {response : Except IoError Unit}
    (answer : world.Answers process (.alter change) response after) {path : Path}
    (notChanged : path ∉ change.paths) : after.disk path = world.disk path := by
  cases response with
  | ok _ => exact DiskChange.apply_elsewhere answer.1 notChanged
  | error _ => rw [show after = world from answer]

/-- A call adds its own renaming at most. -/
theorem Answers.moves {change : DiskChange Entry} {response : Except IoError Unit}
    (answer : world.Answers process (.alter change) response after) :
    ∃ added, after.moves = added ++ world.moves ∧ ∀ move ∈ added, move.process = process := by
  cases response with
  | ok _ =>
      refine ⟨_, answer.2, fun move isAdded => ?_⟩
      cases change with
      | rename source target => rw [List.mem_singleton.mp isAdded]
      | _ => cases isAdded
  | error _ => exact ⟨[], by rw [show after = world from answer]; rfl, nofun⟩

theorem Answers.readDir {path : Path} {response : Except IoError (List Entry)}
    (answer : world.Answers process (.readDir path) response after) : after = world := by
  cases response with
  | ok _ => exact answer.1
  | error _ => exact answer

end SharedDisk

/-! ## One process -/

variable {Entry : Type} [DecidableEq Entry]

/-- What becomes of a change of which the fate is known. -/
def Fate.apply (fate : Fate Entry) (change : DiskChange Entry) (disk : Disk Entry) :
    Option (Except IoError Unit) × Disk Entry :=
  match fate, change.apply disk with
  | .succeeds, .ok after => (some (.ok ()), after)
  | .succeeds, .error error => (some (.error error), disk)
  | .fails error _, _ => (some (.error error), disk)
  | .dies none, .ok after => (none, after)
  | .dies _, _ => (none, disk)

/-- A removal comes to its end at the first entry that is left. -/
def Fate.ofEntry (fate : Fate Entry) (entry : Entry) : Fate Entry :=
  match fate with
  | .fails error left => if left entry then .fails error left else .succeeds
  | .dies (some left) => if left entry then .dies (some left) else .succeeds
  | _ => .succeeds

/-- The entries in the order in which a removal of this fate meets them. -/
def Fate.listed (fate : Fate Entry) (entries : List Entry) : List Entry :=
  match fate with
  | .fails _ left => entries.filter (!left ·) ++ entries.filter left
  | .dies (some left) => entries.filter (!left ·) ++ entries.filter left
  | _ => entries

def Fate.answer (fate : Fate Entry) (value : Bool) : Option Bool :=
  match fate with
  | .succeeds => some value
  | .fails _ _ => some false
  | .dies _ => none

/-- What becomes of a call of which the fate is known.  The fate of a removal is that of
each of its calls. -/
def DiskCall.handle (fate : Fate Entry) :
    (call : DiskCall Entry) → Disk Entry → Option call.Response × Disk Entry
  | .pathExists path, disk => (fate.answer (disk path).isSome, disk)
  | .isDir path, disk =>
      (fate.answer (match disk path with | some (.directory _) => true | _ => false), disk)
  | .readDir path, disk =>
      match disk path with
      | none => (some (.error .notFound), disk)
      | some .file => (some (.error .notADirectory), disk)
      | some (.directory entries) => (some (.ok (fate.listed entries)), disk)
  | .alter (.removeEntry path entry), disk =>
      (fate.ofEntry entry).apply (.removeEntry path entry) disk
  | .alter change, disk => fate.apply change disk

omit [DecidableEq Entry] in
theorem Fate.listed_perm (fate : Fate Entry) (entries : List Entry) :
    (fate.listed entries).Perm entries := by
  have split (left : Entry → Bool) :
      (entries.filter (!left ·) ++ entries.filter left).Perm entries :=
    List.perm_append_comm.trans (List.filter_append_perm left entries)
  cases fate with
  | succeeds => exact .refl entries
  | fails error left => exact split left
  | dies left =>
      cases left with
      | none => exact .refl entries
      | some left => exact split left

/-- A change that is answered is one that a process may see. -/
theorem Fate.apply_answers {Process : Type} {process : Process}
    {world : SharedDisk Process Entry} {fate : Fate Entry} {change : DiskChange Entry}
    {response : Except IoError Unit} {after : Disk Entry}
    (applied : fate.apply change world.disk = (some response, after)) :
    ∃ later, world.Answers process (.alter change) response later ∧ later.disk = after := by
  unfold Fate.apply at applied
  split at applied
  case h_1 =>
    rename_i isApplied
    cases applied
    exact ⟨⟨after, change.moves process ++ world.moves⟩, ⟨isApplied, rfl⟩, rfl⟩
  case h_2 =>
    cases applied
    exact ⟨world, rfl, rfl⟩
  case h_3 =>
    cases applied
    exact ⟨world, rfl, rfl⟩
  all_goals cases applied

theorem DiskCall.handle_answers {Process : Type} {process : Process}
    {world : SharedDisk Process Entry} {fate : Fate Entry} {call : DiskCall Entry}
    {response : call.Response} {after : Disk Entry}
    (handled : call.handle fate world.disk = (some response, after)) :
    ∃ later, world.Answers process call response later ∧ later.disk = after := by
  cases call with
  | pathExists path =>
      obtain ⟨isAnswer, rfl⟩ := Prod.mk.inj handled
      refine ⟨world, ⟨rfl, fun isTrue => ?_⟩, rfl⟩
      subst isTrue
      cases fate with
      | succeeds => exact Option.some.inj isAnswer
      | fails error left => cases isAnswer
      | dies left => cases isAnswer
  | isDir path =>
      obtain ⟨isAnswer, rfl⟩ := Prod.mk.inj handled
      refine ⟨world, ⟨rfl, fun isTrue => ?_⟩, rfl⟩
      subst isTrue
      cases fate with
      | succeeds =>
          have isDirectory := Option.some.inj isAnswer
          split at isDirectory
          · exact ⟨_, by assumption⟩
          · cases isDirectory
      | fails error left => cases isAnswer
      | dies left => cases isAnswer
  | readDir path =>
      rw [handle] at handled
      split at handled
      case h_1 =>
        cases handled
        exact ⟨world, rfl, rfl⟩
      case h_2 =>
        cases handled
        exact ⟨world, rfl, rfl⟩
      case h_3 entries isDirectory =>
        cases handled
        exact ⟨world, ⟨rfl, entries, isDirectory, fate.listed_perm entries⟩, rfl⟩
  | alter change =>
      cases change with
      | removeEntry path entry => exact Fate.apply_answers handled
      | createDirAll path => exact Fate.apply_answers handled
      | createDir path => exact Fate.apply_answers handled
      | rename source target => exact Fate.apply_answers handled
      | removeDir path => exact Fate.apply_answers handled

end SqlxTurso.Library
