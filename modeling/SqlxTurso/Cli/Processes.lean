import SqlxTurso.Cli.Prepare
import SqlxTurso.Library.SharedDisk

/-!
# Preparing in a process of its own

The program that prepares offline metadata, one call at a time, so that other processes can
make theirs in between.  In a process that is alone it is the program that is told as a
whole.
-/

namespace SqlxTurso.Cli

open Library

/-- What a process asks for.  Nothing is answered once it panics. -/
inductive Request (Entry : Type) where
  | disk (call : Call) (request : DiskCall Entry)
  | command (spec : CommandSpec) (stagingDir : Path)
  | panic
  deriving DecidableEq, Repr

abbrev Request.Response {Entry : Type} : Request Entry → Type
  | disk _ request => request.Response
  | command _ _ => CargoOutcome Entry
  | panic => Empty

/-- What a process does until it returns. -/
abbrev Process (Entry ε : Type) :=
  ExceptT ε (Future (Request Entry) Request.Response)

namespace Process

variable {Entry ε α : Type}

/-! ## Calls -/

def ask (request : Request Entry) (read : request.Response → Except ε α) : Process Entry ε α :=
  ExceptT.mk (.ask request fun response => .done (read response))

def pathExists (call : Call) (path : Path) : Process Entry ε Bool :=
  ask (.disk call (.pathExists path)) .ok

def isDir (call : Call) (path : Path) : Process Entry ε Bool :=
  ask (.disk call (.isDir path)) .ok

def alter (call : Call) (change : DiskChange Entry) : Process Entry IoError Unit :=
  ask (.disk call (.alter change)) id

def removeEntries (call : Call) (path : Path) : List Entry → Process Entry IoError Unit
  | [] => pure ()
  | entry :: entries => do
      alter call (.removeEntry path entry)
      removeEntries call path entries

def removeDirAll (call : Call) (path : Path) : Process Entry IoError Unit := do
  let entries ← ask (.disk call (.readDir path)) id
  removeEntries call path entries
  alter call (.removeDir path)

/-! ## The program -/

def uniqueSibling (pid : Nat) (path : Path) (suffix : String) :
    (attempt left : Nat) → Process Entry ε Path
  | _, 0 => ask .panic nofun
  | attempt, left + 1 => do
      let taken ← pathExists (.seesCandidate suffix attempt) (sibling path suffix pid attempt)
      if taken then uniqueSibling pid path suffix (attempt + 1) left
      else return sibling path suffix pid attempt

def checkOfflineDir (finalDir : Path) : Process Entry String Unit := do
  let taken ← pathExists .createSeesOffline finalDir
  Future.whenTrue taken do
    let isDirectory ← isDir .createIsDir finalDir
    if isDirectory then return ()
    else throw (finalDir.display ++ " is not a directory")

def create (pid : Nat) (finalDir : Path) : Process Entry String PrepareWorkspace :=
  match validateOfflineDir finalDir with
  | .error message => throw message
  | .ok () => do
      checkOfflineDir finalDir
      let parent := finalDir.parent.getD ⟨false, [.curDir]⟩
      Future.mapError (fun error =>
          "failed to create parent directory " ++ parent.display ++ ": " ++ error.text)
        (alter .createParent (.createDirAll parent))
      let stagingDir ← uniqueSibling pid finalDir "tmp" 0 maxAttempts
      Future.mapError (fun error =>
          "failed to create staging directory " ++ stagingDir.display ++ ": " ++ error.text)
        (alter .createStaging (.createDir stagingDir))
      let backupDir ← uniqueSibling pid finalDir "old" 0 maxAttempts
      return { finalDir, stagingDir, backupDir }

section Workspace

variable (workspace : PrepareWorkspace)

def conclude (hadExisting : Bool) : Except IoError Unit → Process Entry IoError Unit
  | .ok () => Future.whenTrue hadExisting (removeDirAll .removeBackup workspace.backupDir)
  | .error error => do
      Future.whenTrue hadExisting do
        let _ ← Future.result
          (alter .restore (.rename workspace.backupDir workspace.finalDir))
      throw error

def commit : Process Entry IoError Unit := do
  let stale ← pathExists .commitSeesBackup workspace.backupDir
  Future.whenTrue stale (removeDirAll .removeStaleBackup workspace.backupDir)
  let hadExisting ← pathExists .commitSeesOffline workspace.finalDir
  Future.whenTrue hadExisting (alter .moveAside (.rename workspace.finalDir workspace.backupDir))
  let moved ← Future.result (alter .moveIn (.rename workspace.stagingDir workspace.finalDir))
  conclude workspace hadExisting moved

def cleanup : Process Entry ε Unit := do
  let _ ← Future.result (removeDirAll .removeStaging workspace.stagingDir)

end Workspace

def runWithProgram (pid : Nat) (prepare : Prepare) (cargo : String) : Process Entry String Unit := do
  let workspace ← create pid prepare.offlineDir
  let outcome ← ask (.command (prepare.commandSpec cargo workspace.stagingDir)
    workspace.stagingDir) .ok
  match outcome with
  | .notRun error => throw ("failed to run cargo check: " ++ error.text)
  | .exited status _ =>
      if status.success then
        Future.mapError (fun error =>
            "failed to replace " ++ prepare.offlineDir.display ++ " with prepared metadata: " ++
              error.text)
          (commit workspace)
      else
        cleanup workspace
        throw ("cargo check exited with " ++ status.text)

end Process

/-! ## A process that is alone -/

section Alone

variable {Entry ε α : Type} [DecidableEq Entry]

/-- Every call meets its fate, and the command does what it does. -/
def handler (fates : Call → Fate Entry) (command : CommandSpec → CargoOutcome Entry) :
    Handler (Request Entry) Request.Response (Disk Entry)
  | .disk call request, disk => request.handle (fates call) disk
  | .command spec stagingDir, disk =>
      (some (command spec), match command spec with
        | .notRun _ => disk
        | .exited _ written => Function.update disk stagingDir (some (.directory written)))
  | .panic, disk => (none, disk)

variable {fates : Call → Fate Entry} {command : CommandSpec → CargoOutcome Entry}

namespace Process

theorem alone_ask {request : Request Entry} {read : request.Response → Except ε α}
    {disk : Disk Entry} :
    (ask request read).run.alone (handler fates command) disk =
      match handler fates command request disk with
      | (some response, after) =>
          (Future.done (read response)).alone (handler fates command) after
      | (none, after) => (.dropped, after) := by
  refine (Future.alone_ask request (fun response => Future.done (read response)) disk).trans ?_
  cases handler fates command request disk with
  | mk response after => cases response <;> rfl

@[simp] theorem alone_pathExists {call : Call} {path : Path} :
    (pathExists call path : Process Entry ε Bool).run.alone (handler fates command) =
      Library.pathExists (fates call) path := by
  funext disk
  rw [pathExists, alone_ask, Library.pathExists.eq_def]
  cases isFate : fates call <;> simp [handler, DiskCall.handle, isFate, Fate.answer, Future.alone]

@[simp] theorem alone_isDir {call : Call} {path : Path} :
    (isDir call path : Process Entry ε Bool).run.alone (handler fates command) =
      Library.isDir (fates call) path := by
  funext disk
  rw [isDir, alone_ask, Library.isDir.eq_def]
  cases isFate : fates call with
  | succeeds =>
      simp only [handler, DiskCall.handle, isFate, Fate.answer]
      rcases disk path with _ | node
      · rfl
      · cases node <;> rfl
  | fails error left => simp [handler, DiskCall.handle, isFate, Fate.answer, Future.alone]
  | dies left => simp [handler, DiskCall.handle, isFate, Fate.answer]

/-- What a change does alone is told by its fate. -/
theorem alone_alter {call : Call} {change : DiskChange Entry} (fate : Fate Entry)
    {disk : Disk Entry}
    (isFate : DiskCall.handle (fates call) (.alter change) disk = fate.apply change disk) :
    (alter call change).run.alone (handler fates command) disk =
      match fate.apply change disk with
      | (some (.ok _), after) => (.returned (), after)
      | (some (.error error), after) => (.failed error, after)
      | (none, after) => (.dropped, after) := by
  rw [alter, alone_ask, handler, isFate]
  rcases fate.apply change disk with ⟨_ | _ | _, after⟩ <;> rfl

@[simp] theorem alone_createDirAll {call : Call} {path : Path} :
    (alter call (.createDirAll path)).run.alone (handler fates command) =
      Library.createDirAll (fates call) path := by
  funext disk
  rw [alone_alter _ rfl]
  cases fates call with
  | succeeds => rfl
  | fails error left => rfl
  | dies left => cases left <;> rfl

@[simp] theorem alone_createDir {call : Call} {path : Path} :
    (alter call (.createDir path)).run.alone (handler fates command) =
      Library.createDir (fates call) path := by
  funext disk
  rw [alone_alter _ rfl, Fate.apply.eq_def, Library.createDir.eq_def, DiskChange.apply]
  cases taken : (disk path).isSome with
  | true =>
      cases fates call with
      | succeeds => rfl
      | fails error left => rfl
      | dies left => cases left <;> rfl
  | false =>
      cases fates call with
      | succeeds => rfl
      | fails error left => rfl
      | dies left => cases left <;> rfl

@[simp] theorem alone_rename {call : Call} {source target : Path} :
    (alter call (.rename source target)).run.alone (handler fates command) =
      Library.rename (fates call) source target := by
  funext disk
  rw [alone_alter _ rfl, Fate.apply.eq_def, Library.rename.eq_def, DiskChange.apply]
  cases fates call with
  | succeeds => cases disk.rename source target <;> rfl
  | fails error left => rfl
  | dies left => cases left <;> cases disk.rename source target <;> rfl

/-! ## A removal that is alone -/

/-- The entries that a removal of this fate comes to are removed. -/
theorem alone_removeEntries {call : Call} {path : Path} {listed entries : List Entry}
    {disk : Disk Entry} (isDirectory : disk path = some (.directory entries))
    (removed : ∀ entry ∈ listed, (fates call).ofEntry entry = .succeeds) :
    (removeEntries call path listed).run.alone (handler fates command) disk =
      (.returned (), Function.update disk path
        (some (.directory (entries.filter (· ∉ listed))))) := by
  induction listed generalizing entries disk with
  | nil => simp [removeEntries, ← isDirectory]
  | cons entry listed ih =>
      have isRemoved := removed entry (.head _)
      have altered : (alter call (.removeEntry path entry)).run.alone (handler fates command) disk =
          (.returned (), Function.update disk path
            (some (.directory (entries.filter (· ≠ entry))))) := by
        have isFate : DiskCall.handle (fates call) (.alter (.removeEntry path entry)) disk =
            Fate.succeeds.apply (.removeEntry path entry) disk := by
          rw [DiskCall.handle, isRemoved]
        rw [alone_alter _ isFate]
        simp [Fate.apply, DiskChange.apply, isDirectory]
      rw [removeEntries, Future.alone_bind, Async.bind_apply, altered]
      refine (ih (Function.update_self ..) fun other isListed =>
        removed other (.tail _ isListed)).trans ?_
      rw [Function.update_idem, List.filter_filter]
      simp [not_or, Bool.and_comm]

theorem alone_removeEntries_append {call : Call} {path : Path} (first last : List Entry) :
    (removeEntries call path (first ++ last)).run.alone (handler fates command) =
      ((do
        removeEntries call path first
        removeEntries call path last : Process Entry IoError Unit)).run.alone
          (handler fates command) := by
  induction first with
  | nil => rfl
  | cons entry first ih =>
      funext disk
      rw [List.cons_append, removeEntries, removeEntries]
      simp only [Future.alone_bind] at ih ⊢
      rw [Async.bind_apply, Async.bind_apply, Async.bind_apply]
      rcases (alter call (.removeEntry path entry)).run.alone (handler fates command) disk with
        ⟨_ | _ | _, after⟩
      · rw [ih]
        rfl
      · rfl
      · rfl

/-- A removal that has come to an entry that is left, or to the directory, ends there. -/
theorem alone_removeRest {call : Call} {path : Path} {kept : List Entry} {disk : Disk Entry}
    {outcome : Outcome IoError Unit} (notReturned : outcome.choose true false = false)
    (ends : ∀ change, change = .removeDir path ∨ (∃ entry ∈ kept, change = .removeEntry path entry) →
      (alter call change).run.alone (handler fates command) disk = (outcome, disk)) :
    (do
      removeEntries call path kept
      alter call (.removeDir path) : Process Entry IoError Unit).run.alone
        (handler fates command) disk = (outcome, disk) := by
  cases kept with
  | nil => exact ends _ (.inl rfl)
  | cons entry kept =>
      have ended := ends _ (.inr ⟨entry, .head _, rfl⟩)
      rw [removeEntries]
      simp only [Future.alone_bind, Async.bind_apply, ended]
      cases outcome with
      | returned _ => cases notReturned
      | failed error => rfl
      | dropped => rfl

/-- A removal that stops at no entry comes to the directory, which is empty then. -/
theorem alone_removeAll {call : Call} {path : Path} {entries : List Entry} {disk : Disk Entry}
    (isDirectory : disk path = some (.directory entries))
    (removed : ∀ entry, (fates call).ofEntry entry = .succeeds) :
    (do
      removeEntries call path entries
      alter call (.removeDir path) : Process Entry IoError Unit).run.alone
        (handler fates command) disk =
      (alter call (.removeDir path)).run.alone (handler fates command)
        (Function.update disk path (some (.directory []))) := by
  have none : entries.filter (· ∉ entries) = [] := List.filter_eq_nil_iff.mpr (by simp)
  rw [Future.alone_bind, Async.bind_apply,
    alone_removeEntries isDirectory fun entry _ => removed entry, none]

/-- A removal that stops removes the entries that are not left. -/
theorem alone_removeStopped {call : Call} {path : Path} {entries : List Entry} {disk : Disk Entry}
    {left : Entry → Bool} {outcome : Outcome IoError Unit}
    (isDirectory : disk path = some (.directory entries))
    (removed : ∀ entry, left entry = false → (fates call).ofEntry entry = .succeeds)
    (notReturned : outcome.choose true false = false)
    (ends : ∀ change disk,
      change = .removeDir path ∨ (∃ entry, left entry = true ∧ change = .removeEntry path entry) →
      (alter call change).run.alone (handler fates command) disk = (outcome, disk)) :
    (do
      removeEntries call path (entries.filter (!left ·) ++ entries.filter left)
      alter call (.removeDir path) : Process Entry IoError Unit).run.alone
        (handler fates command) disk =
      (outcome, disk.withLeft path entries left) := by
  have isLeft : entries.filter (· ∉ entries.filter (!left ·)) = entries.filter left :=
    List.filter_congr fun entry isEntry => by simp [isEntry]
  have first : (removeEntries call path (entries.filter (!left ·))).run.alone
      (handler fates command) disk = (.returned (), disk.withLeft path entries left) := by
    rw [alone_removeEntries isDirectory fun entry isListed => removed entry ?_, isLeft]
    · rfl
    · simpa using (List.mem_filter.mp isListed).2
  have rest : (do
      removeEntries call path (entries.filter left)
      alter call (.removeDir path) : Process Entry IoError Unit).run.alone
        (handler fates command) (disk.withLeft path entries left) =
      (outcome, disk.withLeft path entries left) :=
    alone_removeRest notReturned fun change isCall =>
      ends change _ (isCall.imp_right fun ⟨entry, isKept, isChange⟩ =>
        ⟨entry, (List.mem_filter.mp isKept).2, isChange⟩)
  rw [Future.alone_bind, alone_removeEntries_append]
  rw [Future.alone_bind] at rest ⊢
  rw [Async.bind_apply, Async.bind_apply, first]
  exact rest

/-- A removal, one call at a time, is a removal that may stop anywhere. -/
@[simp] theorem alone_removeDirAll {call : Call} {path : Path} :
    (removeDirAll call path).run.alone (handler fates command) =
      Library.removeDirAll (fates call) path := by
  funext disk
  rw [removeDirAll, Future.alone_bind, Async.bind_apply, alone_ask, handler, DiskCall.handle,
    Library.removeDirAll.eq_def]
  rcases isNode : disk path with _ | _ | entries
  · rfl
  · rfl
  -- The directory is listed, and the fate of the removal tells how far it comes.
  · show (do
        removeEntries call path ((fates call).listed entries)
        alter call (.removeDir path) : Process Entry IoError Unit).run.alone
          (handler fates command) disk = _
    cases isFate : fates call with
    | succeeds =>
        refine (alone_removeAll isNode fun _ => by rw [isFate]; rfl).trans ?_
        rw [alone_alter _ rfl]
        simp [isFate, Fate.apply, DiskChange.apply]
    | fails error left =>
        refine alone_removeStopped isNode (fun entry notLeft => ?_) rfl fun change other isCall => ?_
        · rw [isFate, Fate.ofEntry, notLeft]
          rfl
        · refine (alone_alter (.fails error left) ?_).trans rfl
          rcases isCall with rfl | ⟨entry, isLeft, rfl⟩
          · rw [isFate]
            rfl
          · rw [isFate, DiskCall.handle, Fate.ofEntry, isLeft]
            rfl
    | dies left =>
        cases left with
        | none =>
            refine (alone_removeAll isNode fun _ => by rw [isFate]; rfl).trans ?_
            rw [alone_alter _ rfl]
            simp [isFate, Fate.apply, DiskChange.apply]
        | some left =>
            refine alone_removeStopped isNode (fun entry notLeft => ?_) rfl
              fun change other isCall => ?_
            · rw [isFate, Fate.ofEntry, notLeft]
              rfl
            · refine (alone_alter (.dies (some left)) ?_).trans rfl
              rcases isCall with rfl | ⟨entry, isLeft, rfl⟩
              · rw [isFate]
                rfl
              · rw [isFate, DiskCall.handle, Fate.ofEntry, isLeft]
                rfl

/-! ## The program that is alone -/

@[simp] theorem alone_uniqueSibling {pid : Nat} {path : Path} {suffix : String}
    {attempt left : Nat} :
    (uniqueSibling pid path suffix attempt left : Process Entry ε Path).run.alone
        (handler fates command) =
      Cli.uniqueSibling fates pid path suffix attempt left := by
  induction left generalizing attempt with
  | zero => rfl
  | succ left ih =>
      rw [uniqueSibling, Cli.uniqueSibling, Future.alone_bind, alone_pathExists]
      congr 1
      funext taken
      cases taken with
      | true => exact ih
      | false => rfl

@[simp] theorem alone_checkOfflineDir {finalDir : Path} :
    (checkOfflineDir finalDir : Process Entry String Unit).run.alone (handler fates command) =
      PrepareWorkspace.checkOfflineDir fates finalDir := by
  rw [checkOfflineDir, PrepareWorkspace.checkOfflineDir]
  simp only [Future.alone_bind, alone_pathExists, Future.alone_whenTrue, alone_isDir]
  congr 1
  funext taken
  congr 1
  congr 1
  funext isDirectory
  cases isDirectory <;> rfl

@[simp] theorem alone_create {pid : Nat} {finalDir : Path} :
    (create pid finalDir : Process Entry String PrepareWorkspace).run.alone
        (handler fates command) =
      PrepareWorkspace.create fates pid finalDir := by
  rw [create, PrepareWorkspace.create.eq_def]
  cases validateOfflineDir finalDir with
  | error message => rfl
  | ok _ =>
      simp only [Future.alone_bind, alone_checkOfflineDir, Future.alone_mapError,
        alone_createDirAll, alone_uniqueSibling, alone_createDir, ExceptT.run_pure,
        Future.pure_eq, Future.alone_done_ok]

variable {workspace : PrepareWorkspace}

@[simp] theorem alone_conclude {hadExisting : Bool} {moved : Except IoError Unit} :
    (conclude workspace hadExisting moved : Process Entry IoError Unit).run.alone
        (handler fates command) =
      workspace.conclude fates hadExisting moved := by
  cases moved with
  | ok _ =>
      simp only [conclude, PrepareWorkspace.conclude, Future.alone_whenTrue, alone_removeDirAll]
  | error error =>
      simp only [conclude, PrepareWorkspace.conclude, Future.alone_bind, Future.alone_whenTrue,
        Future.alone_result, alone_rename, ExceptT.run_pure, ExceptT.run_throw, Future.pure_eq,
        Future.alone_done_ok, Future.alone_done_error]

@[simp] theorem alone_commit :
    (commit workspace : Process Entry IoError Unit).run.alone (handler fates command) =
      workspace.commit fates := by
  simp only [commit, PrepareWorkspace.commit, Future.alone_bind, alone_pathExists,
    Future.alone_whenTrue, alone_removeDirAll, alone_rename, Future.alone_result, alone_conclude]

@[simp] theorem alone_cleanup :
    (cleanup workspace : Process Entry ε Unit).run.alone (handler fates command) =
      workspace.cleanup fates := by
  simp only [cleanup, PrepareWorkspace.cleanup, Future.alone_bind, Future.alone_result,
    alone_removeDirAll, ExceptT.run_pure, Future.pure_eq, Future.alone_done_ok]

/-- A process that is alone does what the program does as a whole. -/
theorem alone_runWithProgram (pid : Nat) (prepare : Prepare) (cargo : String) :
    (runWithProgram pid prepare cargo : Process Entry String Unit).run.alone
        (handler fates command) =
      prepare.runWithProgram fates pid command cargo := by
  rw [runWithProgram, Prepare.runWithProgram, Future.alone_bind, alone_create]
  congr 1
  funext workspace
  funext disk
  rw [Future.alone_bind, Async.bind_apply, alone_ask, handler]
  cases command (prepare.commandSpec cargo workspace.stagingDir) with
  | notRun error => rfl
  | exited status written =>
      cases succeeded : status.success with
      | true =>
          simp [succeeded, Async.bind_apply]
      | false =>
          simp only [succeeded, Bool.false_eq_true, ↓reduceIte, Future.alone_bind, alone_cleanup,
            ExceptT.run_throw, Future.pure_eq, Future.alone_done_ok, Future.alone_done_error,
            Async.bind_apply, Async.pure_apply, Async.fail_apply, Async.modify_apply]

end Process

end Alone

end SqlxTurso.Cli
