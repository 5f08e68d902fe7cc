import Mathlib.Order.Lattice.Nat
import SqlxTurso.Cli.Commit

/-!
# Failed preparations

What a preparation that fails leaves behind.  The directories that it creates are removed
again when the command has exited without success, but not when the command cannot be run,
nor when the staging directory cannot be moved in.
-/

namespace SqlxTurso.Cli

open Library Async

variable {Entry : Type} {fates : Call → Fate Entry} {pid : Nat} {path : Path}
  {disk : Disk Entry}

/-! ## Names of siblings -/

theorem fileName_join (parent : Path) (name : String) : (parent.join name).fileName = some name := by
  simp [Path.fileName, Path.join]

/-- A sibling has a longer name than the path that it is made of. -/
theorem sibling_ne_self {suffix : String} {attempt : Nat} :
    sibling path suffix pid attempt ≠ path := by
  intro same
  have isName := congrArg Path.fileName same
  rw [sibling, fileName_join] at isName
  have isSome : path.fileName.getD "sqlx" = _ := Option.getD_eq_iff.mpr (.inl isName.symm)
  have longer := congrArg String.length isSome
  simp only [String.length_append] at longer
  have dot : ".".length = 1 := rfl
  omega

theorem sibling_suffix_ne {attempt other : Nat} :
    sibling path "tmp" pid attempt ≠ sibling path "old" pid other := by
  intro same
  have sameName := congrArg Path.fileName same
  rw [sibling, sibling, fileName_join, fileName_join] at sameName
  have sameText := congrArg String.toList (Option.some.inj sameName)
  simp only [String.toList_append, List.append_assoc] at sameText
  have rest := List.append_cancel_left (List.append_cancel_left (List.append_cancel_left sameText))
  exact absurd (congrArg List.head? rest) (by simp)

/-! ## The search for a name -/

/-- The name of an attempt is seen to be taken. -/
def Seen (fates : Call → Fate Entry) (pid : Nat) (path : Path) (disk : Disk Entry)
    (suffix : String) (attempt : Nat) : Prop :=
  fates (.seesCandidate suffix attempt) = .succeeds ∧
    disk (sibling path suffix pid attempt) ≠ none

/-- The first attempt of which the name is not seen to be taken. -/
structure Chosen (fates : Call → Fate Entry) (pid : Nat) (path : Path) (disk : Disk Entry)
    (suffix : String) (attempt : Nat) : Prop where
  notSeen : ¬Seen fates pid path disk suffix attempt
  earlier : ∀ other < attempt, Seen fates pid path disk suffix other

/-- No call makes the process die. -/
def Alive (fates : Call → Fate Entry) : Prop := ∀ call left, fates call ≠ .dies left

theorem pathExists_seen {ε : Type} {fate : Fate Entry} (alive : ∀ left, fate ≠ .dies left)
    (target : Path) :
    ∃ taken, (pathExists fate target : Async (Disk Entry) ε Bool) disk = (.returned taken, disk) ∧
      (taken = true ↔ fate = .succeeds ∧ disk target ≠ none) := by
  cases fate with
  | succeeds => exact ⟨_, rfl, by simp [Option.isSome_iff_ne_none]⟩
  | fails error left => exact ⟨false, rfl, by simp⟩
  | dies left => exact absurd rfl (alive left)

theorem uniqueSibling_eq {ε : Type} (alive : Alive fates) {suffix : String} {attempt : Nat}
    (chosen : Chosen fates pid path disk suffix attempt) {from_ left : Nat}
    (notLater : from_ ≤ attempt) (enough : attempt < from_ + left) :
    (uniqueSibling fates pid path suffix from_ left : Async (Disk Entry) ε Path) disk =
      (.returned (sibling path suffix pid attempt), disk) := by
  induction left generalizing from_ with
  | zero => omega
  | succ left ih =>
      obtain ⟨taken, ran, isTaken⟩ := @pathExists_seen _ disk ε _
        (alive (.seesCandidate suffix from_)) (sibling path suffix pid from_)
      rw [uniqueSibling, bind_apply, ran]
      by_cases isLast : from_ = attempt
      · subst isLast
        have notTaken : taken = false := by
          rw [Bool.eq_false_iff]
          exact fun taken => chosen.notSeen (isTaken.mp taken)
        simp [notTaken]
      · have before : from_ < attempt := by omega
        have stillTaken : taken = true := isTaken.mpr (chosen.earlier _ before)
        simp only [stillTaken, ↓reduceIte]
        exact ih (by omega) (by omega)

theorem exists_chosen {suffix : String}
    (free : ∃ attempt < maxAttempts, disk (sibling path suffix pid attempt) = none) :
    ∃ attempt < maxAttempts, Chosen fates pid path disk suffix attempt := by
  classical
  obtain ⟨attempt, small, isFree⟩ := free
  have someAttempt : ∃ attempt, ¬Seen fates pid path disk suffix attempt :=
    ⟨attempt, fun seen => seen.2 isFree⟩
  have isFirst := Nat.find_min' someAttempt fun seen : Seen fates pid path disk suffix attempt =>
    seen.2 isFree
  refine ⟨Nat.find someAttempt, by omega, Nat.find_spec someAttempt, fun other before => ?_⟩
  exact Classical.not_not.mp (Nat.find_min someAttempt before)

theorem Chosen.unique {suffix : String} {attempt other : Nat}
    (chosen : Chosen fates pid path disk suffix attempt)
    (otherChosen : Chosen fates pid path disk suffix other) : attempt = other := by
  rcases Nat.lt_trichotomy attempt other with before | same | after
  · exact absurd (otherChosen.earlier _ before) chosen.notSeen
  · exact same
  · exact absurd (chosen.earlier _ after) otherChosen.notSeen

/-! ## What is created -/

/-- The calls with which something is created succeed, and the name of the staging directory
is free. -/
structure Creates (fates : Call → Fate Entry) (pid : Nat) (path : Path) (disk : Disk Entry) :
    Prop where
  valid : validateOfflineDir path = .ok ()
  directory : fates .createSeesOffline = .succeeds → disk path ≠ none →
    fates .createIsDir = .succeeds
  parent : fates .createParent = .succeeds
  staging : fates .createStaging = .succeeds
  free : ∀ attempt, Chosen fates pid path disk "tmp" attempt →
    disk (sibling path "tmp" pid attempt) = none

/-- The sibling names can be found, and a name that is taken is seen to be when one for the
backup is looked for. -/
structure Named (fates : Call → Fate Entry) (pid : Nat) (path : Path) (disk : Disk Entry) :
    Prop where
  free : ∀ suffix ∈ ["tmp", "old"],
    ∃ attempt < maxAttempts, disk (sibling path suffix pid attempt) = none
  backupSeen : ∀ attempt, disk (sibling path "old" pid attempt) ≠ none →
    fates (.seesCandidate "old" attempt) = .succeeds

theorem Alive.eq_fails (alive : Alive fates) {call : Call} (fails : fates call ≠ .succeeds) :
    ∃ error left, fates call = .fails error left := by
  cases isFate : fates call with
  | succeeds => exact absurd isFate fails
  | fails error left => exact ⟨error, left, rfl⟩
  | dies left => exact absurd isFate (alive call left)

section Create

variable (alive : Alive fates) {old : Option (List Entry)} (existing : disk path = old.map .directory)

include alive existing

theorem checkOfflineDir_eq :
    PrepareWorkspace.checkOfflineDir fates path disk =
        (.returned (), disk) ∧ (fates .createSeesOffline = .succeeds → disk path ≠ none →
          fates .createIsDir = .succeeds) ∨
      (∃ message, PrepareWorkspace.checkOfflineDir fates path disk = (.failed message, disk)) ∧
        ¬(fates .createSeesOffline = .succeeds → disk path ≠ none →
          fates .createIsDir = .succeeds) := by
  obtain ⟨taken, ran, isTaken⟩ := @pathExists_seen _ disk String _ (alive .createSeesOffline) path
  rw [PrepareWorkspace.checkOfflineDir, bind_apply, ran]
  cases taken with
  | false =>
      refine .inl ⟨rfl, fun sees isThere => ?_⟩
      cases isTaken.mpr ⟨sees, isThere⟩
  | true =>
      obtain ⟨sees, isThere⟩ := isTaken.mp rfl
      obtain ⟨entries, rfl⟩ := Option.isSome_iff_exists.mp (by
        simpa [existing, Option.isSome_iff_ne_none] using isThere : old.isSome = true)
      by_cases checks : fates .createIsDir = .succeeds
      · refine .inl ⟨?_, fun _ _ => checks⟩
        simp [whenTrue, bind_apply, isDir, checks, existing]
      · obtain ⟨error, left, fails⟩ := alive.eq_fails checks
        refine .inr ⟨⟨path.display ++ " is not a directory", ?_⟩, fun all => checks (all sees isThere)⟩
        simp [whenTrue, bind_apply, isDir, fails]

omit existing in
/-- Where the search for a name begins with no attempt made. -/
theorem uniqueSibling_first {suffix : String} {attempt : Nat}
    (chosen : Chosen fates pid path disk suffix attempt) (small : attempt < maxAttempts) :
    (uniqueSibling fates pid path suffix 0 maxAttempts : Async (Disk Entry) String Path) disk =
      (.returned (sibling path suffix pid attempt), disk) :=
  uniqueSibling_eq alive chosen (Nat.zero_le _) (by omega)

/-- Without what it takes to create the staging directory, nothing is changed. -/
theorem create_refused (named : Named fates pid path disk)
    (lacks : ¬Creates fates pid path disk) :
    ∃ message, PrepareWorkspace.create fates pid path disk = (.failed message, disk) := by
  rw [PrepareWorkspace.create]
  cases valid : validateOfflineDir path with
  | error message => exact ⟨message, rfl⟩
  | ok _ =>
      rcases checkOfflineDir_eq alive existing with ⟨checked, directory⟩ | ⟨⟨message, refused⟩, _⟩
      · by_cases parent : fates .createParent = .succeeds
        · obtain ⟨attempt, small, chosen⟩ := @exists_chosen _ fates _ _ _ _ (named.free "tmp" (.head _))
          have search := uniqueSibling_first alive chosen small
          by_cases staging : fates .createStaging = .succeeds
          · have taken : disk (sibling path "tmp" pid attempt) ≠ none := by
              intro isFree
              refine lacks ⟨valid, directory, parent, staging, fun other otherChosen => ?_⟩
              rw [otherChosen.unique chosen]
              exact isFree
            simp [bind_apply, checked, parent, createDirAll, Async.mapError, Outcome.mapError,
              search, createDir, staging, Option.isSome_iff_ne_none, taken]
          · obtain ⟨error, left, fails⟩ := alive.eq_fails staging
            simp [bind_apply, checked, parent, createDirAll, Async.mapError, Outcome.mapError,
              search, createDir, fails]
        · obtain ⟨error, left, fails⟩ := alive.eq_fails parent
          simp [bind_apply, checked, createDirAll, fails, Async.mapError, Outcome.mapError]
      · exact ⟨message, by simp [bind_apply, refused]⟩

/-- With it, the staging directory is created, and the backup has a free name. -/
theorem create_returns (named : Named fates pid path disk) (creates : Creates fates pid path disk)
    {attempt : Nat} (chosen : Chosen fates pid path disk "tmp" attempt)
    (small : attempt < maxAttempts) :
    ∃ backupDir, disk backupDir = none ∧ backupDir ≠ path ∧
      backupDir ≠ sibling path "tmp" pid attempt ∧
      PrepareWorkspace.create fates pid path disk =
        (.returned ⟨path, sibling path "tmp" pid attempt, backupDir⟩,
          Function.update disk (sibling path "tmp" pid attempt) (some (.directory []))) := by
  have checked : PrepareWorkspace.checkOfflineDir fates path disk = (.returned (), disk) := by
    rcases checkOfflineDir_eq alive existing with ⟨checked, _⟩ | ⟨_, fails⟩
    · exact checked
    · exact absurd creates.directory fails
  have search := uniqueSibling_first alive chosen small
  have isFree := creates.free attempt chosen
  -- creating the staging directory changes nothing at the names for a backup
  have sameNames : ∀ other, Function.update disk (sibling path "tmp" pid attempt)
      (some (.directory [])) (sibling path "old" pid other) =
        disk (sibling path "old" pid other) := fun other =>
    Function.update_of_ne sibling_suffix_ne.symm _ _
  obtain ⟨free, freeSmall, isBackup⟩ := named.free "old" (.tail _ (.head _))
  obtain ⟨other, otherSmall, otherChosen⟩ := @exists_chosen _ fates _ _ _ _
    ⟨free, freeSmall, (sameNames free).trans isBackup⟩
  have backupFree : disk (sibling path "old" pid other) = none := by
    by_contra taken
    exact otherChosen.notSeen ⟨named.backupSeen other taken, by rwa [sameNames]⟩
  refine ⟨sibling path "old" pid other, backupFree, sibling_ne_self, sibling_suffix_ne.symm, ?_⟩
  have backupSearch := uniqueSibling_first alive otherChosen otherSmall
  simp [PrepareWorkspace.create, creates.valid, bind_apply, checked, creates.parent, createDirAll,
    Async.mapError, Outcome.mapError, search, createDir, creates.staging, isFree, backupSearch]

end Create

/-! ## What is moved -/

/-- The staging directory can be moved in: the calls for it succeed, and an offline
directory that is not seen is not in the way. -/
structure MovesIn (fates : Call → Fate Entry) (old : Option (List Entry)) : Prop where
  moveIn : fates .moveIn = .succeeds
  moveAside : fates .commitSeesOffline = .succeeds → old ≠ none → fates .moveAside = .succeeds
  unseen : fates .commitSeesOffline ≠ .succeeds → old = none ∨ old = some []

/-- Nothing dies, and the calls that clean up and restore succeed. -/
structure CleansUp (fates : Call → Fate Entry) : Prop where
  alive : Alive fates
  removeBackup : fates .removeBackup = .succeeds
  restore : fates .restore = .succeeds
  removeStaging : fates .removeStaging = .succeeds

section Commit

open PrepareWorkspace

variable {workspace : PrepareWorkspace} (cleansUp : CleansUp fates)
  (distinct : workspace.Distinct) {old : Option (List Entry)} {new : List Entry}

/-- What the commit does after its first look at the names. -/
theorem commit_eq (alive : Alive fates) (staged : workspace.Staged old new disk) :
    ∃ hadExisting, (hadExisting = true ↔ fates .commitSeesOffline = .succeeds ∧ old ≠ none) ∧
      workspace.commit fates disk = (do
        whenTrue hadExisting
          (rename (fates .moveAside) workspace.finalDir workspace.backupDir)
        let moved ← (rename (fates .moveIn) workspace.stagingDir workspace.finalDir).result
        workspace.conclude fates hadExisting moved : Async (Disk Entry) IoError Unit) disk := by
  obtain ⟨stale, sawBackup, isStale⟩ :=
    @pathExists_seen _ disk IoError _ (alive .commitSeesBackup) workspace.backupDir
  obtain ⟨hadExisting, sawOffline, isExisting⟩ :=
    @pathExists_seen _ disk IoError _ (alive .commitSeesOffline) workspace.finalDir
  have notStale : stale = false := by
    rw [Bool.eq_false_iff]
    exact fun taken => (isStale.mp taken).2 staged.backup
  refine ⟨hadExisting, ?_, ?_⟩
  · rw [isExisting, staged.final]
    simp
  · rw [commit, bind_apply, sawBackup]
    subst notStale
    show (pathExists (fates .commitSeesOffline) workspace.finalDir >>= _) disk = _
    rw [bind_apply, sawOffline]

omit distinct in
/-- An offline directory that is not seen is replaced when it is empty. -/
theorem PrepareWorkspace.Staged.renamed_of_unseen (staged : workspace.Staged old new disk)
    (movesIn : MovesIn fates old)
    (notExisting : ¬(fates .commitSeesOffline = .succeeds ∧ old ≠ none)) :
    ∃ after, disk.rename workspace.stagingDir workspace.finalDir = .ok after := by
  by_cases isOld : old = none
  · subst isOld
    exact ⟨_, Disk.rename_free staged.staging staged.final⟩
  · have isEmpty := (movesIn.unseen fun sees => notExisting ⟨sees, isOld⟩).resolve_left isOld
    subst isEmpty
    refine ⟨disk.moved workspace.stagingDir workspace.finalDir, ?_⟩
    rw [Disk.rename, staged.staging, staged.final]
    rfl

omit distinct in
/-- Otherwise the staging directory stays where it is. -/
theorem PrepareWorkspace.Staged.failed_of_unseen (staged : workspace.Staged old new disk)
    (alive : Alive fates) (stays : ¬MovesIn fates old)
    (notExisting : ¬(fates .commitSeesOffline = .succeeds ∧ old ≠ none)) :
    ∃ error, rename (fates .moveIn) workspace.stagingDir workspace.finalDir disk =
      (.failed error, disk) := by
  by_cases moveIn : fates .moveIn = .succeeds
  · have inTheWay : ¬(fates .commitSeesOffline ≠ .succeeds → old = none ∨ old = some []) :=
      fun unseen => stays ⟨moveIn, fun sees isOld => absurd ⟨sees, isOld⟩ notExisting, unseen⟩
    match old, staged.final, inTheWay with
    | none, _, inTheWay => exact absurd (fun _ => .inl rfl) inTheWay
    | some [], _, inTheWay => exact absurd (fun _ => .inr rfl) inTheWay
    | some (entry :: rest), final, _ =>
        refine ⟨.directoryNotEmpty, ?_⟩
        simp [rename, moveIn, Disk.rename, staged.staging, final]
  · obtain ⟨error, left, fails⟩ := alive.eq_fails moveIn
    refine ⟨error, ?_⟩
    simp [rename, fails]

include cleansUp distinct

theorem commit_returns (staged : workspace.Staged old new disk) (movesIn : MovesIn fates old) :
    ∃ after, workspace.commit fates disk = (.returned (), after) := by
  obtain ⟨hadExisting, isExisting, ran⟩ := commit_eq cleansUp.alive staged
  rw [ran]
  cases hadExisting with
  | true =>
      obtain ⟨sees, isOld⟩ := isExisting.mp rfl
      obtain ⟨entries, rfl⟩ := Option.ne_none_iff_exists'.mp isOld
      have aside := Disk.rename_free staged.final staged.backup
      have setAside := staged.moveAside distinct aside
      have movedIn := Disk.rename_free setAside.staging setAside.final
      have stillAside : (disk.moved workspace.finalDir workspace.backupDir).moved
          workspace.stagingDir workspace.finalDir workspace.backupDir =
            some (.directory entries) := by
        rw [Disk.moved_other distinct.stagingBackup.symm distinct.finalBackup.symm]
        exact setAside.backup
      simp [whenTrue, bind_apply, rename, movesIn.moveAside sees isOld, aside, Async.result,
        movesIn.moveIn, movedIn, conclude, removeDirAll, stillAside, cleansUp.removeBackup]
  | false =>
      obtain ⟨after, movedIn⟩ := staged.renamed_of_unseen movesIn fun both => by
        cases isExisting.mpr both
      simp [whenTrue, bind_apply, rename, Async.result, movesIn.moveIn, movedIn, conclude]

theorem commit_fails (staged : workspace.Staged old new disk) (stays : ¬MovesIn fates old) :
    ∃ error after, workspace.commit fates disk = (.failed error, after) ∧
      after workspace.stagingDir = some (.directory new) := by
  obtain ⟨hadExisting, isExisting, ran⟩ := commit_eq cleansUp.alive staged
  rw [ran]
  cases hadExisting with
  | true =>
      obtain ⟨sees, isOld⟩ := isExisting.mp rfl
      obtain ⟨entries, rfl⟩ := Option.ne_none_iff_exists'.mp isOld
      by_cases moveAside : fates .moveAside = .succeeds
      · have moveIn : fates .moveIn ≠ .succeeds := fun moveIn =>
          stays ⟨moveIn, fun _ _ => moveAside, fun notSeen => absurd sees notSeen⟩
        obtain ⟨error, left, fails⟩ := cleansUp.alive.eq_fails moveIn
        have aside := Disk.rename_free staged.final staged.backup
        have setAside := staged.moveAside distinct aside
        have back := Disk.rename_free setAside.backup setAside.final
        have restored := setAside.restore distinct back
        refine ⟨error, _, ?_, restored.staging⟩
        simp [whenTrue, bind_apply, rename, moveAside, aside, Async.result, fails, conclude,
          cleansUp.restore, back]
      · obtain ⟨error, left, fails⟩ := cleansUp.alive.eq_fails moveAside
        refine ⟨error, disk, ?_, staged.staging⟩
        simp [whenTrue, bind_apply, rename, fails]
  | false =>
      obtain ⟨error, failed⟩ := staged.failed_of_unseen cleansUp.alive stays fun both => by
        cases isExisting.mpr both
      refine ⟨error, disk, ?_, staged.staging⟩
      simp [whenTrue, bind_apply, Async.result, failed, conclude]

end Commit

/-! ## Whole runs -/

/-- The offline directory is what it was, and nothing new is there. -/
structure LeavesNoTrace (path : Path) (before after : Disk Entry) : Prop where
  offline : after path = before path
  nothingNew : ∀ other, before other = none → after other = none

/-- The staging directory that is left is a trace. -/
theorem not_leavesNoTrace {before after : Disk Entry} {staging : Path} {node : Node Entry}
    (wasFree : before staging = none) (isLeft : after staging = some node) :
    ¬LeavesNoTrace path before after := by
  intro noTrace
  have isFree := noTrace.nothingNew staging wasFree
  rw [isLeft] at isFree
  cases isFree

theorem cleanup_eq {ε : Type} {workspace : PrepareWorkspace}
    (removeStaging : fates .removeStaging = .succeeds) {entries : List Entry}
    (staged : disk workspace.stagingDir = some (.directory entries)) :
    (workspace.cleanup fates : Async (Disk Entry) ε Unit) disk =
      (.returned (), Function.update disk workspace.stagingDir none) := by
  simp [PrepareWorkspace.cleanup, bind_apply, Async.result, removeDirAll, staged, removeStaging]

section Run

variable {workspace : PrepareWorkspace} (cleansUp : CleansUp fates)
  (distinct : workspace.Distinct) {old : Option (List Entry)} {written : List Entry}
  (staged : workspace.Staged old written
    (Function.update disk workspace.stagingDir (some (.directory written))))
  (stagingFree : disk workspace.stagingDir = none)

include cleansUp distinct staged stagingFree

/-- A commit that fails leaves the staging directory. -/
theorem committed_leaves_no_trace_iff {describe : IoError → String} :
    (∀ message, ((workspace.commit fates).mapError describe
        (Function.update disk workspace.stagingDir (some (.directory written)))).1 =
          .failed message →
      LeavesNoTrace workspace.finalDir disk ((workspace.commit fates).mapError describe
        (Function.update disk workspace.stagingDir (some (.directory written)))).2) ↔
      MovesIn fates old := by
  by_cases movesIn : MovesIn fates old
  · obtain ⟨after, returned⟩ := commit_returns cleansUp distinct staged movesIn
    rw [Async.mapError, returned]
    exact iff_of_true (fun message failed => nomatch failed) movesIn
  · obtain ⟨error, after, failed, isLeft⟩ := commit_fails cleansUp distinct staged movesIn
    rw [Async.mapError, failed]
    refine iff_of_false (fun all => ?_) movesIn
    exact not_leavesNoTrace stagingFree isLeft (all _ rfl)

omit stagingFree in
/-- After a check without success the staging directory is removed. -/
theorem cleaned_leaves_no_trace {message : String} :
    LeavesNoTrace workspace.finalDir disk ((do
      workspace.cleanup fates
      Async.fail message : Async (Disk Entry) String Unit)
        (Function.update disk workspace.stagingDir (some (.directory written)))).2 := by
  have cleaned := @cleanup_eq _ _ _ String _ cleansUp.removeStaging _ staged.staging
  rw [bind_apply, cleaned]
  simp only [fail_apply, Function.update_idem]
  constructor
  · exact Function.update_of_ne distinct.finalStaging _ _
  · intro other isFree
    by_cases isStaging : other = workspace.stagingDir
    · rw [isStaging, Function.update_self]
    · rw [Function.update_of_ne isStaging, isFree]

end Run

/-- A preparation that fails leaves no trace exactly when this is so: once the staging
directory has been created, the command is run, and if it succeeds the staging directory is
moved in. -/
theorem failed_prepare_leaves_no_trace_iff (fates : Call → Fate Entry) (pid : Nat)
    (command : CommandSpec → CargoOutcome Entry) (prepare : Prepare) (cargo : String)
    (disk : Disk Entry) (old : Option (List Entry))
    (existing : disk prepare.offlineDir = old.map .directory) (cleansUp : CleansUp fates)
    (named : Named fates pid prepare.offlineDir disk) :
    (∀ message, (prepare.runWithProgram fates pid command cargo disk).1 = .failed message →
        LeavesNoTrace prepare.offlineDir disk
          (prepare.runWithProgram fates pid command cargo disk).2) ↔
      (Creates fates pid prepare.offlineDir disk →
        ∀ attempt, Chosen fates pid prepare.offlineDir disk "tmp" attempt →
          ∃ status written,
            command (prepare.commandSpec cargo
              (sibling prepare.offlineDir "tmp" pid attempt)) = .exited status written ∧
            (status.success = true → MovesIn fates old)) := by
  by_cases creates : Creates fates pid prepare.offlineDir disk
  swap
  · obtain ⟨message, refused⟩ := create_refused cleansUp.alive existing named creates
    have ran : prepare.runWithProgram fates pid command cargo disk = (.failed message, disk) := by
      rw [Prepare.runWithProgram, bind_apply, refused]
    rw [ran]
    exact iff_of_true (fun _ _ => ⟨rfl, fun _ isFree => isFree⟩) fun all => absurd all creates
  obtain ⟨attempt, small, chosen⟩ := @exists_chosen _ fates _ _ _ _ (named.free "tmp" (.head _))
  obtain ⟨backupDir, backupFree, notFinal, notStaging, created⟩ :=
    create_returns cleansUp.alive existing named creates chosen small
  have stagingFree := creates.free attempt chosen
  have onlyChosen : ∀ holds : Nat → Prop, (∀ other,
      Chosen fates pid prepare.offlineDir disk "tmp" other → holds other) ↔ holds attempt := by
    intro holds
    refine ⟨fun all => all attempt chosen, fun held other otherChosen => ?_⟩
    rw [otherChosen.unique chosen]
    exact held
  rw [onlyChosen, Prepare.runWithProgram, bind_apply, created]
  generalize isStaging : sibling prepare.offlineDir "tmp" pid attempt = staging at *
  have differ : prepare.offlineDir ≠ staging := isStaging ▸ sibling_ne_self.symm
  simp only [creates, forall_const]
  cases isCommand : command (prepare.commandSpec cargo staging) with
  | notRun error =>
      refine iff_of_false (fun all => ?_) (by simp)
      exact not_leavesNoTrace stagingFree (Function.update_self _ _ _) (all _ rfl)
  | exited status written =>
      have distinct : (⟨prepare.offlineDir, staging, backupDir⟩ : PrepareWorkspace).Distinct :=
        ⟨differ, notFinal.symm, notStaging.symm⟩
      have staged : PrepareWorkspace.Staged ⟨prepare.offlineDir, staging, backupDir⟩ old written
          (Function.update disk staging (some (.directory written))) := by
        constructor
        · exact (Function.update_of_ne differ _ _).trans existing
        · exact Function.update_self _ _ _
        · exact (Function.update_of_ne notStaging _ _).trans backupFree
      simp only [bind_apply, modify_apply, Function.update_idem, CargoOutcome.exited.injEq,
        exists_and_left, exists_eq_left', and_assoc]
      cases isStatus : status.success with
      | true =>
          simp only [↓reduceIte, forall_const]
          exact committed_leaves_no_trace_iff cleansUp distinct staged stagingFree
      | false =>
          refine iff_of_true (fun _ _ => ?_) (fun isTrue => nomatch isTrue)
          exact cleaned_leaves_no_trace cleansUp distinct staged

/-! ## Two runs -/

def samplePrepare : Prepare where
  databaseUrl := some "turso:app.db"
  offlineDir := ⟨false, [.normal ".sqlx"]⟩
  cargoArgs := []

/-- An offline directory with metadata, and nothing else. -/
def offlineDisk : Disk String := fun path =>
  if path = samplePrepare.offlineDir then some (.directory ["old.json"]) else none

def allSucceed : Call → Fate String := fun _ => .succeeds

theorem allSucceed_cleansUp : CleansUp allSucceed :=
  ⟨fun _ _ same => (nomatch same), rfl, rfl, rfl⟩

theorem offlineDisk_named : Named allSucceed 7 samplePrepare.offlineDir offlineDisk where
  free := by
    intro suffix _
    exact ⟨0, by decide, if_neg sibling_ne_self⟩
  backupSeen := fun _ _ => rfl

/-- A check that does not succeed. -/
def failedCheck : CommandSpec → CargoOutcome String := fun _ =>
  .exited ⟨false, "exit status: 101"⟩ ["new.json"]

theorem failed_check_leaves_no_trace :
    ∃ message, (samplePrepare.runWithProgram allSucceed 7 failedCheck "cargo" offlineDisk).1 =
        .failed message ∧
      LeavesNoTrace samplePrepare.offlineDir offlineDisk
        (samplePrepare.runWithProgram allSucceed 7 failedCheck "cargo" offlineDisk).2 := by
  refine ⟨_, rfl, (failed_prepare_leaves_no_trace_iff allSucceed 7 failedCheck samplePrepare
    "cargo" offlineDisk (some ["old.json"]) rfl allSucceed_cleansUp offlineDisk_named).mpr ?_ _
    rfl⟩
  intro _ attempt _
  exact ⟨_, _, rfl, fun succeeded => nomatch succeeded⟩

/-- A program that is not there. -/
def missingProgram : CommandSpec → CargoOutcome String := fun _ => .notRun .notFound

/-- The program cannot be run, and the staging directory is left. -/
theorem missing_program_leaves_staging :
    CleansUp allSucceed ∧ Named allSucceed 7 samplePrepare.offlineDir offlineDisk ∧
      ¬∀ message, (samplePrepare.runWithProgram allSucceed 7 missingProgram "cargo"
          offlineDisk).1 = .failed message →
        LeavesNoTrace samplePrepare.offlineDir offlineDisk
          (samplePrepare.runWithProgram allSucceed 7 missingProgram "cargo" offlineDisk).2 := by
  refine ⟨allSucceed_cleansUp, offlineDisk_named, fun all => ?_⟩
  have failed : (samplePrepare.runWithProgram allSucceed 7 missingProgram "cargo"
      offlineDisk).1 = .failed ("failed to run cargo check: " ++ IoError.notFound.text) := by
    rfl
  have isLeft : (samplePrepare.runWithProgram allSucceed 7 missingProgram "cargo"
      offlineDisk).2 (sibling samplePrepare.offlineDir "tmp" 7 0) = some (.directory []) := by
    rfl
  exact not_leavesNoTrace (if_neg sibling_ne_self) isLeft (all _ failed)

end SqlxTurso.Cli
