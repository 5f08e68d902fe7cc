import SqlxTurso.Library.Filesystem

/-!
# Preparing offline metadata

The command that runs `cargo check` with a staging directory for the metadata of its
queries, and puts this directory in the place of the offline directory when the check has
succeeded.
-/

namespace SqlxTurso.Cli

open Library

structure CommandSpec where
  program : String
  args : List String
  envs : List (String × String)
  deriving DecidableEq, Repr

structure ExitStatus where
  success : Bool
  text : String
  deriving DecidableEq, Repr

/-- What becomes of the command: it is not run, or it has filled the staging directory and
exits. -/
inductive CargoOutcome (Entry : Type) where
  | notRun (error : IoError)
  | exited (status : ExitStatus) (written : List Entry)
  deriving DecidableEq, Repr

/-- The calls of the file system, by where they stand in the program. -/
inductive Call where
  | createSeesOffline
  | createIsDir
  | createParent
  | seesCandidate (suffix : String) (attempt : Nat)
  | createStaging
  | commitSeesBackup
  | removeStaleBackup
  | commitSeesOffline
  | moveAside
  | moveIn
  | removeBackup
  | restore
  | removeStaging
  deriving DecidableEq, Repr

/-! ## Names -/

def validateOfflineDir (path : Path) : Except String Unit :=
  if path.components = [] ∧ path.hasRoot = false then
    .error "offline directory cannot be empty"
  else if path = ⟨false, [.curDir]⟩ then
    .error "offline directory cannot be the current directory"
  else if path.parent = none ∧ path.hasRoot = true then
    .error "offline directory cannot be the filesystem root"
  else .ok ()

/-- The candidate for the name of a sibling. -/
def sibling (path : Path) (suffix : String) (pid attempt : Nat) : Path :=
  let parent := path.parent.getD ⟨false, [.curDir]⟩
  let name := path.fileName.getD "sqlx"
  parent.join ("." ++ name ++ "." ++ suffix ++ "-" ++ toString pid ++ "-" ++ toString attempt)

/-- The attempts that a 32-bit counter makes. -/
def maxAttempts : Nat := 2147483648

structure PrepareWorkspace where
  finalDir : Path
  stagingDir : Path
  backupDir : Path
  deriving DecidableEq, Repr

structure Prepare where
  databaseUrl : Option String
  offlineDir : Path
  cargoArgs : List String
  deriving DecidableEq, Repr

def Prepare.commandSpec (prepare : Prepare) (cargo : String) (offlineDir : Path) : CommandSpec where
  program := cargo
  args := "check" :: if prepare.cargoArgs = [] then ["--all-targets"] else prepare.cargoArgs
  envs := ("SQLX_OFFLINE_DIR", offlineDir.display) ::
    (prepare.databaseUrl.map (("DATABASE_URL", ·))).toList

/-! ## The program -/

section Program

variable {Entry ε : Type} (fates : Call → Fate Entry)

/-- The first candidate that does not exist, from an attempt on.  The search panics when
the counter is used up. -/
def uniqueSibling (pid : Nat) (path : Path) (suffix : String) :
    (attempt left : Nat) → Async (Disk Entry) ε Path
  | _, 0 => fun disk => (.dropped, disk)
  | attempt, left + 1 => do
      let taken ← pathExists (fates (.seesCandidate suffix attempt))
        (sibling path suffix pid attempt)
      if taken then uniqueSibling pid path suffix (attempt + 1) left
      else return sibling path suffix pid attempt

namespace PrepareWorkspace

/-- The checks of the offline directory before anything is created. -/
def checkOfflineDir (finalDir : Path) : Async (Disk Entry) String Unit := do
  let taken ← pathExists (fates .createSeesOffline) finalDir
  Async.whenTrue taken do
    let isDirectory ← isDir (fates .createIsDir) finalDir
    if isDirectory then return ()
    else Async.fail (finalDir.display ++ " is not a directory")

def create (pid : Nat) (finalDir : Path) : Async (Disk Entry) String PrepareWorkspace :=
  match validateOfflineDir finalDir with
  | .error message => Async.fail message
  | .ok () => do
      checkOfflineDir fates finalDir
      let parent := finalDir.parent.getD ⟨false, [.curDir]⟩
      (createDirAll (fates .createParent) parent).mapError fun error =>
        "failed to create parent directory " ++ parent.display ++ ": " ++ error.text
      let stagingDir ← uniqueSibling fates pid finalDir "tmp" 0 maxAttempts
      (createDir (fates .createStaging) stagingDir).mapError fun error =>
        "failed to create staging directory " ++ stagingDir.display ++ ": " ++ error.text
      let backupDir ← uniqueSibling fates pid finalDir "old" 0 maxAttempts
      return { finalDir, stagingDir, backupDir }

variable (workspace : PrepareWorkspace)

/-- What follows when the staging directory has been moved in, or not. -/
def conclude (hadExisting : Bool) : Except IoError Unit → Async (Disk Entry) IoError Unit
  | .ok () => Async.whenTrue hadExisting
      (removeDirAll (fates .removeBackup) workspace.backupDir)
  | .error error => do
      Async.whenTrue hadExisting do
        let _ ← (rename (fates .restore) workspace.backupDir workspace.finalDir).result
      Async.fail error

def commit : Async (Disk Entry) IoError Unit := do
  let stale ← pathExists (fates .commitSeesBackup) workspace.backupDir
  Async.whenTrue stale (removeDirAll (fates .removeStaleBackup) workspace.backupDir)
  let hadExisting ← pathExists (fates .commitSeesOffline) workspace.finalDir
  Async.whenTrue hadExisting (rename (fates .moveAside) workspace.finalDir workspace.backupDir)
  let moved ← (rename (fates .moveIn) workspace.stagingDir workspace.finalDir).result
  workspace.conclude fates hadExisting moved

def cleanup : Async (Disk Entry) ε Unit := do
  let _ ← (removeDirAll (fates .removeStaging) workspace.stagingDir).result

end PrepareWorkspace

/-- The program, with what the command does when it is given its specification. -/
def Prepare.runWithProgram (pid : Nat) (command : CommandSpec → CargoOutcome Entry)
    (prepare : Prepare) (cargo : String) : Async (Disk Entry) String Unit := do
  let workspace ← PrepareWorkspace.create fates pid prepare.offlineDir
  match command (prepare.commandSpec cargo workspace.stagingDir) with
  | .notRun error => Async.fail ("failed to run cargo check: " ++ error.text)
  | .exited status written =>
      Async.modify fun disk =>
        Function.update disk workspace.stagingDir (some (.directory written))
      if status.success then
        (workspace.commit fates).mapError fun error =>
          "failed to replace " ++ prepare.offlineDir.display ++ " with prepared metadata: " ++
            error.text
      else
        workspace.cleanup fates
        Async.fail ("cargo check exited with " ++ status.text)

end Program

end SqlxTurso.Cli
