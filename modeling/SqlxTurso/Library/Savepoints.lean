import Mathlib.Data.List.Basic

/-!
# Savepoints and snapshots

A database with one transaction and a stack of named savepoints.  Rolling back to a
savepoint keeps it on the stack, so a stack may hold several savepoints of one name.
The nested transactions of a client are a stack of snapshots: the levels of such a
database, from which the savepoints that were rolled back to are left out.
-/

namespace SqlxTurso.Library

variable {D : Type}

/-- A savepoint, with the content at the time it was set.  It has ended when the work
since then was rolled back. -/
structure Frame (D : Type) where
  name : Nat
  snapshot : D
  ended : Bool := false

/-- A transaction with its savepoints, the latest first.  A transaction that was not
begun explicitly ends with its first savepoint. -/
structure OpenTransaction (D : Type) where
  base : D
  frames : List (Frame D)
  explicit : Bool

structure Database (D : Type) where
  content : D
  transaction : Option (OpenTransaction D) := none

/-- The latest savepoint of a name, and those below it. -/
def latest (name : Nat) : List (Frame D) → Option (Frame D × List (Frame D))
  | [] => none
  | frame :: rest => if frame.name = name then some (frame, rest) else latest name rest

namespace Database

def begin (database : Database D) : Option (Database D) :=
  match database.transaction with
  | some _ => none
  | none =>
      some { database with
        transaction := some { base := database.content, frames := [], explicit := true } }

/-- A transaction is begun where none is open. -/
theorem begin_eq_some {database changed : Database D} (begun : database.begin = some changed) :
    database.transaction = none ∧ changed = { database with
      transaction := some { base := database.content, frames := [], explicit := true } } := by
  unfold begin at begun
  split at begun
  next => cases begun
  next noTransaction =>
    cases begun
    exact ⟨noTransaction, rfl⟩

def commit (database : Database D) : Option (Database D) :=
  database.transaction.map fun _ => { database with transaction := none }

def rollback (database : Database D) : Option (Database D) :=
  database.transaction.map fun transaction => { content := transaction.base }

def savepoint (name : Nat) (database : Database D) : Database D :=
  let frame : Frame D := { name, snapshot := database.content }
  match database.transaction with
  | some transaction =>
      { database with
        transaction := some { transaction with frames := frame :: transaction.frames } }
  | none =>
      { database with
        transaction :=
          some { base := database.content, frames := [frame], explicit := false } }

def release (name : Nat) (database : Database D) : Option (Database D) :=
  database.transaction.bind fun transaction =>
    (latest name transaction.frames).map fun (_, rest) =>
      if rest.isEmpty ∧ transaction.explicit = false then
        { database with transaction := none }
      else
        { database with transaction := some { transaction with frames := rest } }

def rollbackTo (name : Nat) (database : Database D) : Option (Database D) :=
  database.transaction.bind fun transaction =>
    (latest name transaction.frames).map fun (frame, rest) =>
      { content := frame.snapshot
        transaction :=
          some { transaction with frames := { frame with ended := true } :: rest } }

/-- The content after the connection to the database is closed. -/
def closed (database : Database D) : D :=
  match database.transaction with
  | some transaction => transaction.base
  | none => database.content

/-- What an open transaction restores does not depend on the content. -/
theorem closed_of_same {database changed : Database D}
    (same : changed.transaction = database.transaction)
    (isOpen : database.transaction.isSome = true) : changed.closed = database.closed := by
  unfold closed
  rw [same]
  cases transaction : database.transaction with
  | none =>
      rw [transaction] at isOpen
      cases isOpen
  | some _ => rfl

end Database

/-! ## Snapshots -/

/-- The content that a client sees, and the contents at the begin of the transactions
around it, the innermost first. -/
structure Snapshots (D : Type) where
  current : D
  saved : List D := []

namespace Snapshots

def begin (model : Snapshots D) : Snapshots D :=
  { model with saved := model.current :: model.saved }

def commit (model : Snapshots D) : Snapshots D :=
  { model with saved := model.saved.tail }

def rollback (model : Snapshots D) : Snapshots D where
  current := model.saved.head?.getD model.current
  saved := model.saved.tail

def write (model : Snapshots D) (content : D) : Snapshots D :=
  { model with current := content }

/-- The content outside of all transactions. -/
def bottom (model : Snapshots D) : D := model.saved.getLast?.getD model.current

theorem rollback_bottom (model : Snapshots D) : model.rollback.bottom = model.bottom := by
  cases saved : model.saved with
  | nil => simp [rollback, bottom, saved]
  | cons snapshot rest =>
      simp only [rollback, bottom, saved, List.head?_cons, List.tail_cons, Option.getD_some]
      cases rest with
      | nil => rfl
      | cons next rest => rw [List.getLast?_cons_cons, List.getLast?_eq_some_getLast (by simp)]; rfl

end Snapshots

/-! ## Levels -/

/-- A stack of savepoints whose live ones hold the given snapshots.  A live savepoint is
named by its height among them, and whatever was left over above it has a greater
name. -/
inductive Layers : List (Frame D) → List D → Prop where
  | nil : Layers [] []
  | live {frame frames saved} :
      Layers frames saved → frame.name = saved.length + 1 →
      Layers (frame :: frames) (frame.snapshot :: saved)
  | leftover {frame frames saved} :
      Layers frames saved → saved.length < frame.name → Layers (frame :: frames) saved

/-- The name of the innermost live savepoint finds that savepoint. -/
theorem Layers.latest {frames : List (Frame D)} {snapshot : D} {saved : List D}
    (layers : Layers frames (snapshot :: saved)) :
    ∃ frame rest, latest (saved.length + 1) frames = some (frame, rest) ∧
      frame.name = saved.length + 1 ∧ frame.snapshot = snapshot ∧ Layers rest saved := by
  generalize same : snapshot :: saved = all at layers
  induction layers with
  | nil => cases same
  | live inner named =>
      cases same
      exact ⟨_, _, if_pos named, named, rfl, inner⟩
  | @leftover frame frames saved' inner above ih =>
      obtain ⟨found, rest, isLatest, facts⟩ := ih same
      have notThis : frame.name ≠ saved.length + 1 := by
        rw [← same, List.length_cons] at above
        omega
      exact ⟨found, rest, (if_neg notThis).trans isLatest, facts⟩

/-- The levels that are open in a database: the snapshots of its live savepoints and, at
the end, the one of its transaction. -/
def HasLevels (database : Database D) (levels : List D) : Prop :=
  match database.transaction with
  | none => levels = []
  | some transaction =>
      transaction.explicit = true ∧
        ∃ saved, levels = saved ++ [transaction.base] ∧ Layers transaction.frames saved

/-- The same for a transaction that stands on savepoints of its own, which are no levels.
What it may stand on is `allowed`, by how it was begun and these savepoints. -/
def LevelsOn (allowed : Bool → List (Frame D) → Prop) (database : Database D)
    (levels : List D) : Prop :=
  match database.transaction with
  | none => levels = []
  | some transaction => ∃ above bottom saved,
      allowed transaction.explicit bottom ∧ transaction.frames = above ++ bottom ∧
        levels = saved ++ [transaction.base] ∧ Layers above saved

/-- A transaction that was begun explicitly and stands on no savepoints. -/
def Plain (explicit : Bool) (bottom : List (Frame D)) : Prop := explicit = true ∧ bottom = []

/-- A transaction that does not end with the savepoints above those it stands on. -/
def Grounded (explicit : Bool) (bottom : List (Frame D)) : Prop :=
  explicit = true ∨ bottom ≠ []

theorem Plain.grounded {explicit : Bool} {bottom : List (Frame D)}
    (plain : Plain explicit bottom) : Grounded explicit bottom := .inl plain.1

theorem hasLevels_iff {database : Database D} {levels : List D} :
    HasLevels database levels ↔ LevelsOn Plain database levels := by
  unfold HasLevels LevelsOn
  cases database.transaction with
  | none => rfl
  | some transaction =>
      constructor
      · rintro ⟨explicit, saved, split, layers⟩
        exact ⟨_, [], saved, ⟨explicit, rfl⟩, (List.append_nil _).symm, split, layers⟩
      · rintro ⟨above, bottom, saved, ⟨explicit, rfl⟩, isFrames, split, layers⟩
        rw [List.append_nil] at isFrames
        exact ⟨explicit, saved, split, isFrames ▸ layers⟩

/-- The latest savepoint of a name is found above others. -/
theorem latest_append {name : Nat} {above rest : List (Frame D)} {frame : Frame D}
    (isLatest : latest name above = some (frame, rest)) (bottom : List (Frame D)) :
    latest name (above ++ bottom) = some (frame, rest ++ bottom) := by
  induction above with
  | nil => cases isLatest
  | cons first above ih =>
      rw [List.cons_append, latest]
      rw [latest] at isLatest
      split
      next named =>
        rw [if_pos named] at isLatest
        cases isLatest
        rfl
      next notNamed =>
        rw [if_neg notNamed] at isLatest
        exact ih isLatest

namespace LevelsOn

variable {allowed : Bool → List (Frame D) → Prop} {database : Database D} {levels : List D}
  {snapshot : D}

theorem of_same {changed : Database D} (has : LevelsOn allowed database levels)
    (same : changed.transaction = database.transaction) : LevelsOn allowed changed levels := by
  unfold LevelsOn at has ⊢
  rw [same]
  exact has

theorem nil (none : LevelsOn allowed database []) : database.transaction = .none := by
  unfold LevelsOn at none
  cases open_ : database.transaction with
  | none => rfl
  | some transaction =>
      rw [open_] at none
      rcases none with ⟨_, _, saved, _, _, split, _⟩
      exact absurd split (by simp)

theorem cons (some : LevelsOn allowed database (snapshot :: levels)) :
    ∃ transaction above bottom, database.transaction = .some transaction ∧
      allowed transaction.explicit bottom ∧ transaction.frames = above ++ bottom ∧
      ((levels = [] ∧ snapshot = transaction.base ∧ Layers above []) ∨
        ∃ saved, levels = saved ++ [transaction.base] ∧
          Layers above (snapshot :: saved)) := by
  unfold LevelsOn at some
  cases open_ : database.transaction with
  | none =>
      rw [open_] at some
      cases some
  | some transaction =>
      rw [open_] at some
      rcases some with ⟨above, bottom, saved, isAllowed, isFrames, split, layers⟩
      refine ⟨transaction, above, bottom, rfl, isAllowed, isFrames, ?_⟩
      cases saved with
      | nil =>
          simp only [List.nil_append, List.cons.injEq] at split
          exact .inl ⟨split.2, split.1, layers⟩
      | cons first saved =>
          simp only [List.cons_append, List.cons.injEq] at split
          rcases split with ⟨rfl, rfl⟩
          exact .inr ⟨saved, rfl, layers⟩

/-- A transaction begins the first level. -/
theorem begin (plain : allowed true []) (none : LevelsOn allowed database []) :
    ∃ begun, database.begin = some begun ∧ begun.content = database.content ∧
      LevelsOn allowed begun [database.content] := by
  refine ⟨{ database with
    transaction := some { base := database.content, frames := [], explicit := true } },
    ?_, rfl, [], [], [], plain, rfl, rfl, .nil⟩
  rw [Database.begin, none.nil]

/-- So does a savepoint of any name, on which the transaction then stands. -/
theorem savepointFirst (name : Nat)
    (grounds : allowed false [{ name, snapshot := database.content }])
    (none : LevelsOn allowed database []) :
    LevelsOn allowed (database.savepoint name) [database.content] := by
  rw [Database.savepoint, none.nil]
  exact ⟨[], _, [], grounds, rfl, rfl, .nil⟩

/-- A savepoint named by the number of levels begins the next one. -/
theorem savepoint (some : LevelsOn allowed database (snapshot :: levels)) :
    (database.savepoint (levels.length + 1)).content = database.content ∧
      LevelsOn allowed (database.savepoint (levels.length + 1))
        (database.content :: snapshot :: levels) := by
  unfold LevelsOn at some
  unfold Database.savepoint LevelsOn
  cases open_ : database.transaction with
  | none =>
      rw [open_] at some
      cases some
  | some transaction =>
      rw [open_] at some
      rcases some with ⟨above, bottom, saved, isAllowed, isFrames, split, layers⟩
      refine ⟨rfl, { name := levels.length + 1, snapshot := database.content } :: above, bottom,
        database.content :: saved, isAllowed, ?_, ?_, ?_⟩
      · rw [isFrames]
        rfl
      · rw [split]
        rfl
      · have height := congrArg List.length split
        simp only [List.length_cons, List.length_append, List.length_nil] at height
        exact .live layers height

theorem commit (only : LevelsOn allowed database [snapshot]) :
    ∃ committed, database.commit = some committed ∧
      committed.content = database.content ∧ LevelsOn allowed committed [] := by
  rcases only.cons with ⟨transaction, _, _, open_, _⟩
  refine ⟨{ database with transaction := none }, ?_, rfl, rfl⟩
  rw [Database.commit, open_, Option.map_some]

theorem rollback (only : LevelsOn allowed database [snapshot]) :
    ∃ restored, database.rollback = some restored ∧ restored.content = snapshot ∧
      LevelsOn allowed restored [] := by
  rcases only.cons with ⟨transaction, _, _, open_, _, _, first | inner⟩
  · refine ⟨{ content := transaction.base }, ?_, first.2.1.symm, rfl⟩
    rw [Database.rollback, open_, Option.map_some]
  · rcases inner with ⟨saved, split, _⟩
    exact absurd split (by simp)

/-- The savepoint of the innermost of at least two levels stands above the bottom. -/
theorem latest {next : D} (inner : LevelsOn allowed database (snapshot :: next :: levels)) :
    ∃ transaction bottom frame rest saved, database.transaction = some transaction ∧
      allowed transaction.explicit bottom ∧
      Library.latest (levels.length + 1) transaction.frames = some (frame, rest ++ bottom) ∧
      frame.name = levels.length + 1 ∧ frame.snapshot = snapshot ∧
      next :: levels = saved ++ [transaction.base] ∧ saved.length = levels.length ∧
      Layers rest saved := by
  rcases inner.cons with
    ⟨transaction, above, bottom, open_, isAllowed, isFrames, first | ⟨saved, split, layers⟩⟩
  · cases first.1
  · have height := congrArg List.length split
    simp only [List.length_cons, List.length_append, List.length_nil] at height
    have sameLength : saved.length = levels.length := by omega
    rcases layers.latest with ⟨frame, rest, isLatest, named, restored, below⟩
    rw [sameLength] at isLatest named
    refine ⟨transaction, bottom, frame, rest, saved, open_, isAllowed, ?_, named, restored,
      split, sameLength, below⟩
    rw [isFrames]
    exact latest_append isLatest bottom

theorem release (grounded : ∀ explicit bottom, allowed explicit bottom → Grounded explicit bottom)
    {next : D} (inner : LevelsOn allowed database (snapshot :: next :: levels)) :
    ∃ released, database.release (levels.length + 1) = some released ∧
      released.content = database.content ∧ LevelsOn allowed released (next :: levels) := by
  rcases inner.latest with
    ⟨transaction, bottom, frame, rest, saved, open_, isAllowed, isLatest, _, _, split, _, below⟩
  refine ⟨{ database with
    transaction := some { transaction with frames := rest ++ bottom } }, ?_, rfl,
    rest, bottom, saved, isAllowed, rfl, split, below⟩
  have stays : ¬((rest ++ bottom).isEmpty = true ∧ transaction.explicit = false) := by
    rintro ⟨isEmpty, notExplicit⟩
    rcases grounded _ _ isAllowed with explicit | standing
    · cases explicit.symm.trans notExplicit
    · exact standing (List.append_eq_nil_iff.mp (List.isEmpty_iff.mp isEmpty)).2
  rw [Database.release, open_, Option.bind_some, isLatest, Option.map_some]
  exact congrArg some (if_neg stays)

theorem rollbackTo {next : D} (inner : LevelsOn allowed database (snapshot :: next :: levels)) :
    ∃ restored, database.rollbackTo (levels.length + 1) = some restored ∧
      restored.content = snapshot ∧ LevelsOn allowed restored (next :: levels) := by
  rcases inner.latest with ⟨transaction, bottom, frame, rest, saved, open_, isAllowed, isLatest,
    named, restored, split, sameLength, below⟩
  refine ⟨{ content := frame.snapshot
            transaction := some { transaction with
              frames := { frame with ended := true } :: (rest ++ bottom) } },
    ?_, restored, { frame with ended := true } :: rest, bottom, saved, isAllowed, rfl, split,
    .leftover below ?_⟩
  · rw [Database.rollbackTo, open_, Option.bind_some, isLatest, Option.map_some]
  · exact Nat.lt_of_lt_of_eq (Nat.lt_succ_of_le (Nat.le_of_eq sameLength)) named.symm

/-- Closing the database restores what the outermost level began with. -/
theorem closed (has : LevelsOn allowed database levels) :
    database.closed = levels.getLast?.getD database.content := by
  unfold LevelsOn at has
  unfold Database.closed
  cases open_ : database.transaction with
  | none =>
      rw [open_] at has
      rw [has]
      rfl
  | some transaction =>
      rw [open_] at has
      rcases has with ⟨_, _, saved, _, _, split, _⟩
      rw [split, List.getLast?_append]
      rfl

/-- One level more, which began with the content, restores the same below all levels. -/
theorem closed_cons {above : Database D} (has : LevelsOn allowed database levels)
    (hasMore : LevelsOn allowed above (database.content :: levels)) :
    above.closed = database.closed := by
  rw [hasMore.closed, has.closed, List.getLast?_cons]
  rfl

/-- So does one of at least two levels, whatever it began with. -/
theorem closed_cons_cons {above : Database D} {next : D}
    (has : LevelsOn allowed database (next :: levels))
    (hasMore : LevelsOn allowed above (snapshot :: next :: levels)) :
    above.closed = database.closed := by
  rw [hasMore.closed, has.closed, List.getLast?_cons_cons]
  rfl

end LevelsOn

/-- Closing the database restores what the outermost level began with. -/
theorem HasLevels.closed {database : Database D} {levels : List D}
    (has : HasLevels database levels) :
    database.closed = levels.getLast?.getD database.content :=
  (hasLevels_iff.mp has).closed

/-! ## Open levels -/

/-- A level is open while its work is neither ended nor rolled back: the first one with
the transaction, each other one with a savepoint that is named by the level below. -/
def LevelOpen (database : Database D) (level : Nat) : Prop :=
  ∃ transaction, database.transaction = some transaction ∧
    (level = 1 ∨
      ∃ frame ∈ transaction.frames, frame.ended = false ∧ level = frame.name + 1)

/-- No savepoint stands above one that is still open and has the same or a greater
name. -/
def Stacked (frames : List (Frame D)) : Prop :=
  frames.Pairwise fun above below => below.ended = false → below.name < above.name

/-- Only levels up to a bound are open, and their savepoints are stacked in order. -/
def Within (database : Database D) (bound : Nat) : Prop :=
  ∀ transaction, database.transaction = some transaction →
    1 ≤ bound ∧ Stacked transaction.frames ∧
      ∀ frame ∈ transaction.frames, frame.ended = false → frame.name < bound

theorem latest_some {name : Nat} {frames rest : List (Frame D)} {frame : Frame D}
    (found : latest name frames = some (frame, rest)) :
    frame.name = name ∧ ∃ above, frames = above ++ frame :: rest := by
  induction frames with
  | nil => cases found
  | cons first frames ih =>
      rw [latest] at found
      split at found
      next named =>
        cases found
        exact ⟨named, [], rfl⟩
      next =>
        obtain ⟨named, above, split⟩ := ih found
        exact ⟨named, first :: above, by rw [split]; rfl⟩

theorem latest_none {name : Nat} {frames : List (Frame D)}
    (missing : latest name frames = none) : ∀ frame ∈ frames, frame.name ≠ name := by
  induction frames with
  | nil => exact fun _ inEmpty => absurd inEmpty List.not_mem_nil
  | cons first frames ih =>
      rw [latest] at missing
      split at missing
      next => cases missing
      next notNamed =>
        intro frame inFrames
        cases List.mem_cons.mp inFrames with
        | inl isFirst => exact isFirst ▸ notNamed
        | inr inRest => exact ih missing frame inRest

namespace Within

variable {database changed : Database D} {bound : Nat}

theorem of_none (closed : database.transaction = none) : Within database bound := by
  intro transaction isOpen
  rw [closed] at isOpen
  cases isOpen

theorem mono {greater : Nat} (within : Within database bound) (le : bound ≤ greater) :
    Within database greater := by
  intro transaction isOpen
  obtain ⟨positive, stacked, below⟩ := within transaction isOpen
  exact ⟨Nat.le_trans positive le, stacked, fun frame inFrames live =>
    Nat.lt_of_lt_of_le (below frame inFrames live) le⟩

theorem of_same (within : Within database bound)
    (same : changed.transaction = database.transaction) : Within changed bound :=
  fun transaction isOpen => within transaction (same.symm.trans isOpen)

theorem levelOpen (within : Within database bound) {level : Nat}
    (isOpen : LevelOpen database level) : 1 ≤ level ∧ level ≤ bound := by
  rcases isOpen with ⟨transaction, has, first | ⟨frame, inFrames, live, isLevel⟩⟩
  · obtain ⟨positive, _⟩ := within transaction has
    omega
  · obtain ⟨_, _, below⟩ := within transaction has
    have lt := below frame inFrames live
    omega

/-- Where the uppermost level is not open, there is one level less. -/
theorem of_not_levelOpen (within : Within database (bound + 1))
    (notOpen : ¬LevelOpen database (bound + 1)) : Within database bound := by
  intro transaction isOpen
  obtain ⟨_, stacked, below⟩ := within transaction isOpen
  have notFirst : bound + 1 ≠ 1 := fun first => notOpen ⟨transaction, isOpen, .inl first⟩
  refine ⟨by omega, stacked, ?_⟩
  intro frame inFrames live
  have lt := below frame inFrames live
  have notLast : bound + 1 ≠ frame.name + 1 := fun last =>
    notOpen ⟨transaction, isOpen, .inr ⟨frame, inFrames, live, last⟩⟩
  omega

theorem closed_of_zero (within : Within database 0) : database.transaction = none := by
  cases isOpen : database.transaction with
  | none => rfl
  | some transaction =>
      obtain ⟨positive, _⟩ := within transaction isOpen
      cases positive

theorem begin (begun : database.begin = some changed) : Within changed (bound + 1) := by
  obtain ⟨_, rfl⟩ := Database.begin_eq_some begun
  rintro _ ⟨rfl⟩
  exact ⟨Nat.succ_pos bound, .nil, fun _ inEmpty => absurd inEmpty List.not_mem_nil⟩

theorem commit (committed : database.commit = some changed) : Within changed bound := by
  unfold Database.commit at committed
  rw [Option.map_eq_some_iff] at committed
  rcases committed with ⟨_, _, rfl⟩
  exact of_none rfl

theorem rollback (restored : database.rollback = some changed) : Within changed bound := by
  unfold Database.rollback at restored
  rw [Option.map_eq_some_iff] at restored
  rcases restored with ⟨_, _, rfl⟩
  exact of_none rfl

theorem savepoint (within : Within database bound) :
    Within (database.savepoint bound) (bound + 1) := by
  unfold Database.savepoint
  cases isOpen : database.transaction with
  | none =>
      rintro _ ⟨rfl⟩
      refine ⟨Nat.succ_pos bound, List.pairwise_singleton _ _, ?_⟩
      intro frame inFrames _
      rw [List.mem_singleton.mp inFrames]
      exact Nat.lt_succ_self bound
  | some transaction =>
      rintro _ ⟨rfl⟩
      obtain ⟨_, stacked, below⟩ := within transaction isOpen
      refine ⟨Nat.succ_pos bound, List.pairwise_cons.mpr ⟨below, stacked⟩, ?_⟩
      intro frame inFrames live
      cases List.mem_cons.mp inFrames with
      | inl isNew => exact isNew ▸ Nat.lt_succ_self bound
      | inr inRest => exact Nat.lt_succ_of_lt (below frame inRest live)

/-- What lies below the latest savepoint of a name has a smaller name, if it is open. -/
theorem below_latest {name : Nat} {frame : Frame D} {frames rest : List (Frame D)}
    (stacked : Stacked frames) (found : latest name frames = some (frame, rest)) :
    Stacked (frame :: rest) ∧ ∀ below ∈ rest, below.ended = false → below.name < name := by
  obtain ⟨named, above, split⟩ := latest_some found
  rw [split] at stacked
  have onward : Stacked (frame :: rest) := (List.pairwise_append.mp stacked).2.1
  refine ⟨onward, ?_⟩
  intro below inRest live
  exact named ▸ (List.pairwise_cons.mp onward).1 below inRest live

/-- Releasing the innermost of at least two levels leaves one level less. -/
theorem release (within : Within database (bound + 2))
    (released : database.release (bound + 1) = some changed) :
    Within changed (bound + 1) := by
  unfold Database.release at released
  rw [Option.bind_eq_some_iff] at released
  rcases released with ⟨transaction, isOpen, released⟩
  rw [Option.map_eq_some_iff] at released
  rcases released with ⟨⟨frame, rest⟩, found, released⟩
  obtain ⟨_, stacked, _⟩ := within transaction isOpen
  obtain ⟨onward, below⟩ := below_latest stacked found
  dsimp only at released
  split at released
  · subst released
    exact of_none rfl
  · subst released
    rintro _ ⟨rfl⟩
    exact ⟨Nat.succ_pos bound, (List.pairwise_cons.mp onward).2, below⟩

/-- So does rolling back to its savepoint, which stays on the stack. -/
theorem rollbackTo (within : Within database (bound + 2))
    (restored : database.rollbackTo (bound + 1) = some changed) :
    Within changed (bound + 1) := by
  unfold Database.rollbackTo at restored
  rw [Option.bind_eq_some_iff] at restored
  rcases restored with ⟨transaction, isOpen, restored⟩
  rw [Option.map_eq_some_iff] at restored
  rcases restored with ⟨⟨frame, rest⟩, found, rfl⟩
  obtain ⟨_, stacked, _⟩ := within transaction isOpen
  obtain ⟨onward, below⟩ := below_latest stacked found
  rintro _ ⟨rfl⟩
  refine ⟨Nat.succ_pos bound, List.pairwise_cons.mpr (List.pairwise_cons.mp onward), ?_⟩
  intro other inFrames live
  cases List.mem_cons.mp inFrames with
  | inl isFrame =>
      subst isFrame
      cases live
  | inr inRest => exact below other inRest live

/-- Where there is no savepoint to roll back to, the innermost level is not open. -/
theorem of_rollbackTo_none (within : Within database (bound + 2))
    (missing : database.rollbackTo (bound + 1) = none) : Within database (bound + 1) := by
  intro transaction isOpen
  obtain ⟨_, stacked, below⟩ := within transaction isOpen
  rw [Database.rollbackTo, isOpen, Option.bind_some, Option.map_eq_none_iff] at missing
  refine ⟨Nat.succ_pos bound, stacked, ?_⟩
  intro frame inFrames live
  have lt := below frame inFrames live
  have ne := latest_none missing frame inFrames
  omega

end Within

end SqlxTurso.Library
