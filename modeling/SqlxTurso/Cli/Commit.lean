import SqlxTurso.Cli.Prepare

/-!
# Replacing the offline directory

The offline directory is moved aside, the staging directory is moved in, and what was
moved aside is removed.  Whatever fails and wherever the process dies, one of the two
contents is complete, and it is told where.
-/

namespace SqlxTurso.Cli

open Library

variable {Entry : Type} {fates : Call → Fate Entry} {workspace : PrepareWorkspace}
  {old : Option (List Entry)} {new : List Entry} {disk : Disk Entry}

namespace PrepareWorkspace

/-- The three directories have different names. -/
structure Distinct (workspace : PrepareWorkspace) : Prop where
  finalStaging : workspace.finalDir ≠ workspace.stagingDir
  finalBackup : workspace.finalDir ≠ workspace.backupDir
  stagingBackup : workspace.stagingDir ≠ workspace.backupDir

/-- The new content is in the staging directory, and no backup is there. -/
structure Staged (workspace : PrepareWorkspace) (old : Option (List Entry)) (new : List Entry)
    (disk : Disk Entry) : Prop where
  final : disk workspace.finalDir = old.map .directory
  staging : disk workspace.stagingDir = some (.directory new)
  backup : disk workspace.backupDir = none

/-- The old content has been moved aside. -/
structure SetAside (workspace : PrepareWorkspace) (entries new : List Entry)
    (disk : Disk Entry) : Prop where
  final : disk workspace.finalDir = none
  staging : disk workspace.stagingDir = some (.directory new)
  backup : disk workspace.backupDir = some (.directory entries)

/-- The new content is in the offline directory. -/
def MovedIn (workspace : PrepareWorkspace) (new : List Entry) (disk : Disk Entry) : Prop :=
  disk workspace.finalDir = some (.directory new)

/-- The offline directory holds one content as a whole or nothing, and until the new
content is there the old one is in it or in the backup, and the new one is staged. -/
structure Kept (workspace : PrepareWorkspace) (old : Option (List Entry)) (new : List Entry)
    (disk : Disk Entry) : Prop where
  whole : disk workspace.finalDir = old.map .directory ∨
    disk workspace.finalDir = some (.directory new) ∨ disk workspace.finalDir = none
  oldKept : ¬workspace.MovedIn new disk → ∀ entries, old = some entries →
    disk workspace.finalDir = some (.directory entries) ∨
      disk workspace.backupDir = some (.directory entries)
  newKept : ¬workspace.MovedIn new disk → disk workspace.stagingDir = some (.directory new)

theorem Staged.kept (staged : workspace.Staged old new disk) : workspace.Kept old new disk where
  whole := .inl staged.final
  oldKept := by
    rintro _ entries rfl
    exact .inl staged.final
  newKept := fun _ => staged.staging

theorem SetAside.kept {entries : List Entry} (setAside : workspace.SetAside entries new disk) :
    workspace.Kept (some entries) new disk where
  whole := .inr (.inr setAside.final)
  oldKept := by
    rintro _ entries ⟨⟩
    exact .inr setAside.backup
  newKept := fun _ => setAside.staging

theorem MovedIn.kept (movedIn : workspace.MovedIn new disk) : workspace.Kept old new disk where
  whole := .inr (.inl movedIn)
  oldKept := fun notMoved => absurd movedIn notMoved
  newKept := fun notMoved => absurd movedIn notMoved

/-- Where the old content is before the staging directory is moved in, as the program
knows it. -/
def Ready (workspace : PrepareWorkspace) (old : Option (List Entry)) (new : List Entry)
    (hadExisting : Bool) (disk : Disk Entry) : Prop :=
  if hadExisting then ∃ entries, old = some entries ∧ workspace.SetAside entries new disk
  else workspace.Staged old new disk

theorem Ready.kept {hadExisting : Bool} (ready : workspace.Ready old new hadExisting disk) :
    workspace.Kept old new disk := by
  cases hadExisting with
  | true =>
      obtain ⟨entries, rfl, setAside⟩ := ready
      exact setAside.kept
  | false => exact Staged.kept ready

theorem Ready.staging {hadExisting : Bool} (ready : workspace.Ready old new hadExisting disk) :
    disk workspace.stagingDir = some (.directory new) := by
  cases hadExisting with
  | true =>
      obtain ⟨entries, _, setAside⟩ := ready
      exact setAside.staging
  | false => exact Staged.staging ready

/-! ## The steps -/

/-- The content that is moved aside is in the backup as a whole. -/
theorem Staged.moveAside (distinct : workspace.Distinct) {entries : List Entry}
    (staged : workspace.Staged (some entries) new disk) {after : Disk Entry}
    (renamed : disk.rename workspace.finalDir workspace.backupDir = .ok after) :
    workspace.SetAside entries new after := by
  obtain rfl := Disk.rename_eq_moved renamed
  constructor
  · exact Disk.moved_source distinct.finalBackup
  · rw [Disk.moved_other distinct.finalStaging.symm distinct.stagingBackup]
    exact staged.staging
  · rw [Disk.moved_target]
    exact staged.final

theorem Ready.moveIn {hadExisting : Bool} (ready : workspace.Ready old new hadExisting disk)
    {after : Disk Entry}
    (renamed : disk.rename workspace.stagingDir workspace.finalDir = .ok after) :
    workspace.MovedIn new after := by
  obtain rfl := Disk.rename_eq_moved renamed
  rw [MovedIn, Disk.moved_target]
  exact ready.staging

/-- The content that is moved back is in the offline directory as a whole. -/
theorem SetAside.restore (distinct : workspace.Distinct) {entries : List Entry}
    (setAside : workspace.SetAside entries new disk) {after : Disk Entry}
    (renamed : disk.rename workspace.backupDir workspace.finalDir = .ok after) :
    workspace.Staged (some entries) new after := by
  obtain rfl := Disk.rename_eq_moved renamed
  constructor
  · rw [Disk.moved_target]
    exact setAside.backup
  · rw [Disk.moved_other distinct.stagingBackup distinct.finalStaging.symm]
    exact setAside.staging
  · exact Disk.moved_source distinct.finalBackup.symm

open Async

theorem seesBackup_meets :
    Meets (workspace.Staged old new)
      (pathExists (fates .commitSeesBackup) workspace.backupDir : Async (Disk Entry) IoError Bool)
      (Onward (fun stale disk => workspace.Staged old new disk ∧ stale = false)
        (Ending (α := Unit) (workspace.MovedIn new) (workspace.Kept old new))) := by
  refine .of_state fun start staged => Meets.pathExists.imp ?_
  rintro outcome _ ⟨rfl, isTaken⟩
  cases outcome with
  | returned stale =>
      refine ⟨staged, ?_⟩
      cases stale with
      | true => exact absurd (isTaken rfl) (by simp [staged.backup])
      | false => rfl
  | failed _ => exact staged.kept
  | dropped => exact staged.kept

theorem moveAside_meets (distinct : workspace.Distinct) (hadExisting : Bool) :
    Meets (fun disk => workspace.Staged old new disk ∧ (hadExisting = true → old.isSome = true))
      (whenTrue hadExisting
        (rename (fates .moveAside) workspace.finalDir workspace.backupDir))
      (Ending (workspace.Ready old new hadExisting) (workspace.Kept old new)) := by
  refine .whenTrue ?_ ?_
  · rintro rfl
    refine .of_state fun start ⟨staged, isOld⟩ => Meets.rename.imp ?_
    obtain ⟨entries, rfl⟩ := Option.isSome_iff_exists.mp (isOld rfl)
    intro outcome disk ended
    cases outcome with
    | returned _ => exact ⟨entries, rfl, staged.moveAside distinct ended⟩
    | failed _ =>
        rw [ended]
        exact staged.kept
    | dropped =>
        rcases ended with rfl | renamed
        · exact staged.kept
        · exact (staged.moveAside distinct renamed).kept
  · rintro rfl disk ⟨staged, _⟩
    exact staged

theorem moveIn_meets (hadExisting : Bool) :
    Meets (workspace.Ready old new hadExisting)
      ((rename (fates .moveIn) workspace.stagingDir workspace.finalDir).result :
        Async (Disk Entry) IoError (Except IoError Unit))
      (Onward (Resulting (workspace.MovedIn new) (workspace.Ready old new hadExisting))
        (Ending (α := Unit) (workspace.MovedIn new) (workspace.Kept old new))) := by
  refine .of_state fun start ready => Meets.result (Meets.rename.imp ?_)
  intro outcome disk ended
  cases outcome with
  | returned _ => exact ready.moveIn ended
  | failed _ =>
      rw [ended]
      exact ready
  | dropped =>
      rcases ended with rfl | renamed
      · exact ready.kept
      · exact (ready.moveIn renamed).kept

theorem removeBackup_meets (distinct : workspace.Distinct) (hadExisting : Bool) :
    Meets (workspace.MovedIn new)
      (whenTrue hadExisting (removeDirAll (fates .removeBackup) workspace.backupDir))
      (Ending (workspace.MovedIn new) (workspace.Kept old new)) := by
  refine .whenTrue (fun _ => ?_) (fun _ _ movedIn => movedIn)
  refine .of_state fun start movedIn => Meets.removeDirAll.imp ?_
  intro outcome disk elsewhere
  have stays : workspace.MovedIn new disk := (elsewhere _ distinct.finalBackup).trans movedIn
  cases outcome with
  | returned _ => exact stays
  | failed _ => exact stays.kept
  | dropped => exact stays.kept

theorem restore_meets (distinct : workspace.Distinct) (hadExisting : Bool) :
    Meets (workspace.Ready old new hadExisting)
      (whenTrue hadExisting do
        let _ ← (rename (fates .restore) workspace.backupDir workspace.finalDir).result
        pure () : Async (Disk Entry) IoError Unit)
      (fun _ => workspace.Kept old new) := by
  refine .whenTrue ?_ (fun _ _ ready => ready.kept)
  rintro rfl
  refine .bindAlways (Meets.result ?_) fun _ _ kept => kept
  refine .of_state fun start ready => Meets.rename.imp ?_
  obtain ⟨entries, rfl, setAside⟩ := ready
  intro outcome disk ended
  cases outcome with
  | returned _ => exact (setAside.restore distinct ended).kept
  | failed _ =>
      rw [ended]
      exact setAside.kept
  | dropped =>
      rcases ended with rfl | renamed
      · exact setAside.kept
      · exact (setAside.restore distinct renamed).kept

theorem conclude_meets (distinct : workspace.Distinct) (hadExisting : Bool)
    (moved : Except IoError Unit) :
    Meets (Resulting (workspace.MovedIn new) (workspace.Ready old new hadExisting) moved)
      (workspace.conclude fates hadExisting moved)
      (Ending (workspace.MovedIn new) (workspace.Kept old new)) := by
  cases moved with
  | ok _ => exact removeBackup_meets distinct hadExisting
  | error error =>
      refine Meets.bind (fun _ => workspace.Kept old new)
        ((restore_meets distinct hadExisting).imp ?_) fun _ _ kept => kept
      intro outcome _ kept
      cases outcome <;> exact kept

/-- The search for a stale backup finds none, so nothing is removed. -/
theorem removeStaleBackup_meets (stale : Bool) :
    Meets (fun disk => workspace.Staged old new disk ∧ stale = false)
      (whenTrue stale (removeDirAll (fates .removeStaleBackup) workspace.backupDir))
      (Ending (workspace.Staged old new) (workspace.Kept old new)) := by
  refine .whenTrue ?_ (fun _ _ staged => staged.1)
  rintro rfl _ ⟨_, isFalse⟩
  cases isFalse

theorem seesOffline_meets :
    Meets (workspace.Staged old new)
      (pathExists (fates .commitSeesOffline) workspace.finalDir : Async (Disk Entry) IoError Bool)
      (Onward (fun hadExisting disk =>
          workspace.Staged old new disk ∧ (hadExisting = true → old.isSome = true))
        (Ending (α := Unit) (workspace.MovedIn new) (workspace.Kept old new))) := by
  refine .of_state fun start staged => Meets.pathExists.imp ?_
  rintro outcome _ ⟨rfl, isTaken⟩
  cases outcome with
  | returned hadExisting =>
      refine ⟨staged, ?_⟩
      rintro rfl
      have isSome := isTaken rfl
      rw [staged.final, Option.isSome_map] at isSome
      exact isSome
  | failed _ => exact staged.kept
  | dropped => exact staged.kept

theorem commit_meets (distinct : workspace.Distinct) :
    Meets (workspace.Staged old new) (workspace.commit fates)
      (Ending (workspace.MovedIn new) (workspace.Kept old new)) := by
  refine Meets.bind _ seesBackup_meets fun stale => ?_
  refine Meets.bindEnding (removeStaleBackup_meets stale) fun _ => ?_
  refine Meets.bind _ seesOffline_meets fun hadExisting => ?_
  refine Meets.bindEnding (moveAside_meets distinct hadExisting) fun _ => ?_
  exact Meets.bind _ (moveIn_meets hadExisting) (conclude_meets distinct hadExisting)

/-- Whatever calls fail, and wherever the process dies: the offline directory holds the old
content, the new content or nothing; until it holds the new content, the old content is
complete in it or in the backup, and the new content is complete in the staging directory;
and when the commit returns, it holds the new content. -/
theorem commit_loses_nothing (fates : Call → Fate Entry) (workspace : PrepareWorkspace)
    (distinct : workspace.Distinct) (old : Option (List Entry)) (new : List Entry)
    (disk : Disk Entry) (existing : disk workspace.finalDir = old.map .directory)
    (staged : disk workspace.stagingDir = some (.directory new))
    (noBackup : disk workspace.backupDir = none) {outcome : Outcome IoError Unit}
    {after : Disk Entry} (ran : workspace.commit fates disk = (outcome, after)) :
    (after workspace.finalDir = old.map .directory ∨
        after workspace.finalDir = some (.directory new) ∨ after workspace.finalDir = none) ∧
      (after workspace.finalDir ≠ some (.directory new) →
        (∀ entries, old = some entries → after workspace.finalDir = some (.directory entries) ∨
          after workspace.backupDir = some (.directory entries)) ∧
        after workspace.stagingDir = some (.directory new)) ∧
      (outcome = .returned () → after workspace.finalDir = some (.directory new)) := by
  have ended := @commit_meets _ fates _ _ _ distinct disk ⟨existing, staged, noBackup⟩
  rw [ran] at ended
  have kept : workspace.Kept old new after := by
    cases outcome with
    | returned _ => exact MovedIn.kept ended
    | failed _ => exact ended
    | dropped => exact ended
  refine ⟨kept.whole, fun notMoved => ⟨kept.oldKept notMoved, kept.newKept notMoved⟩, ?_⟩
  rintro rfl
  exact ended

end PrepareWorkspace

/-! ## A commit that is interrupted -/

def sampleWorkspace : PrepareWorkspace where
  finalDir := ⟨false, [.normal ".sqlx"]⟩
  stagingDir := ⟨false, [.normal "..sqlx.tmp-7-0"]⟩
  backupDir := ⟨false, [.normal "..sqlx.old-7-0"]⟩

/-- An offline directory, and what is to replace it. -/
def sampleDisk : Disk String := fun path =>
  if path = sampleWorkspace.finalDir then some (.directory ["old.json"])
  else if path = sampleWorkspace.stagingDir then some (.directory ["new.json"])
  else none

/-- The process dies before the new content is moved in. -/
def diesMovingIn : Call → Fate String
  | .moveIn => .dies (some fun _ => true)
  | _ => .succeeds

theorem interrupted_commit_loses_nothing :
    (sampleWorkspace.commit diesMovingIn sampleDisk).2 sampleWorkspace.finalDir = none ∧
      (sampleWorkspace.commit diesMovingIn sampleDisk).2 sampleWorkspace.backupDir =
        some (.directory ["old.json"]) ∧
      (sampleWorkspace.commit diesMovingIn sampleDisk).2 sampleWorkspace.stagingDir =
        some (.directory ["new.json"]) := by
  have isGone : (sampleWorkspace.commit diesMovingIn sampleDisk).2 sampleWorkspace.finalDir =
      none := rfl
  have distinct : sampleWorkspace.Distinct := ⟨by decide, by decide, by decide⟩
  have ran : sampleWorkspace.commit diesMovingIn sampleDisk =
      ((sampleWorkspace.commit diesMovingIn sampleDisk).1,
        (sampleWorkspace.commit diesMovingIn sampleDisk).2) := rfl
  have kept := (PrepareWorkspace.commit_loses_nothing diesMovingIn sampleWorkspace distinct
    (some ["old.json"]) ["new.json"] sampleDisk rfl rfl rfl ran).2.1 (by rw [isGone]; nofun)
  refine ⟨isGone, ?_, kept.2⟩
  rcases kept.1 _ rfl with isFinal | isBackup
  · rw [isGone] at isFinal
    cases isFinal
  · exact isBackup

end SqlxTurso.Cli
