import SqlxTurso.Cli.Failure
import SqlxTurso.Cli.Processes
import SqlxTurso.Library.Triples

/-!
# Preparations at the same time

Processes that prepare the metadata of one offline directory, each with its calls between
those of the others.  The directory is not locked.  What keeps its content is that each
process has siblings of its own, and renames what it does not own as a whole.
-/

namespace SqlxTurso.Cli

open Library

variable {Entry : Type}

/-! ## The siblings of a process -/

theorem toString_ne_dash {number : Nat} {c : Char} (isDigit : c ∈ (toString number).toList) :
    c ≠ '-' := by
  rintro rfl
  rw [Nat.toString_eq_repr, Nat.toList_repr] at isDigit
  exact absurd (Nat.isDigit_of_mem_toDigits (by decide) (by decide) isDigit) (by decide)

/-- Numbers before a dash are told apart. -/
theorem toString_dash_inj {first second : Nat} {rest other : List Char}
    (same : (toString first).toList ++ '-' :: rest = (toString second).toList ++ '-' :: other) :
    first = second := by
  have cut (number : Nat) (rest : List Char) :
      ((toString number).toList ++ '-' :: rest).takeWhile (· ≠ '-') = (toString number).toList := by
    rw [List.takeWhile_append_of_pos fun c isDigit => by simpa using toString_ne_dash isDigit]
    simp
  have digits := (cut first rest).symm.trans ((congrArg _ same).trans (cut second other))
  rw [Nat.toString_eq_repr, Nat.toString_eq_repr, Nat.toList_repr, Nat.toList_repr] at digits
  have read := congrArg (Nat.ofDigitChars 10 · 0) digits
  rwa [Nat.ofDigitChars_ten_toDigits, Nat.ofDigitChars_ten_toDigits] at read

/-- The process makes siblings of this name. -/
def Owns (path : Path) (pid : Nat) (own : Path) : Prop :=
  ∃ suffix ∈ ["tmp", "old"], ∃ attempt, own = sibling path suffix pid attempt

variable {path own : Path} {pid other attempt : Nat}

theorem owns_staging : Owns path pid (sibling path "tmp" pid attempt) :=
  ⟨"tmp", .head _, attempt, rfl⟩

theorem owns_backup : Owns path pid (sibling path "old" pid attempt) :=
  ⟨"old", .tail _ (.head _), attempt, rfl⟩

theorem Owns.ne_path (owns : Owns path pid own) : own ≠ path := by
  obtain ⟨suffix, _, attempt, rfl⟩ := owns
  exact sibling_ne_self

/-- No two processes make siblings of one name. -/
theorem Owns.inj (owns : Owns path pid own) (alsoOwns : Owns path other own) : pid = other := by
  obtain ⟨suffix, isSuffix, attempt, rfl⟩ := owns
  obtain ⟨otherSuffix, isOther, otherAttempt, same⟩ := alsoOwns
  have three : suffix.toList.length = otherSuffix.toList.length := by
    simp only [List.mem_cons, List.not_mem_nil, or_false] at isSuffix isOther
    rcases isSuffix with rfl | rfl <;> rcases isOther with rfl | rfl <;> rfl
  have sameName := congrArg Path.fileName same
  rw [sibling, sibling, fileName_join, fileName_join] at sameName
  have sameText := congrArg String.toList (Option.some.inj sameName)
  simp only [String.toList_append, List.append_assoc] at sameText
  have afterName := List.append_cancel_left (List.append_cancel_left (List.append_cancel_left sameText))
  have afterSuffix := List.append_cancel_left (List.append_inj afterName three).2
  exact toString_dash_inj afterSuffix

/-! ## The world of the processes -/

section World

variable [DecidableEq Entry] (command : Nat → CommandSpec → CargoOutcome Entry)

/-- What a process is answered.  The command of each does what it does. -/
def Answers (pid : Nat) (world : SharedDisk Nat Entry) :
    (request : Request Entry) → request.Response → SharedDisk Nat Entry → Prop
  | .disk _ request, response, after => world.Answers pid request response after
  | .command spec stagingDir, outcome, after =>
      outcome = command pid spec ∧ after = match outcome with
        | .notRun _ => world
        | .exited _ written =>
            { world with disk := Function.update world.disk stagingDir (some (.directory written)) }
  | .panic, response, _ => nomatch response

/-- A process may die before each answer, and nobody cleans up after it. -/
def environment : Environment Nat (SharedDisk Nat Entry) (Request Entry) Request.Response where
  answers := Answers command
  awaits := fun _ => true
  drops := fun _ world => world

end World

/-- What a check that succeeded has written for a process. -/
def Written (command : Nat → CommandSpec → CargoOutcome Entry) (pid : Nat)
    (entries : List Entry) : Prop :=
  ∃ spec status, command pid spec = .exited status entries ∧ status.success = true

/-- What was in the offline directory at first, or what a process has prepared. -/
def Whole (command : Nat → CommandSpec → CargoOutcome Entry) (original : Option (Node Entry))
    (node : Node Entry) : Prop :=
  original = some node ∨ ∃ pid entries, Written command pid entries ∧ node = .directory entries

/-- The offline directory is whole or absent.  Where it is absent since a process has moved
it aside, that process has it as a whole. -/
structure Sound (command : Nat → CommandSpec → CargoOutcome Entry) (path : Path)
    (original : Option (Node Entry)) (world : SharedDisk Nat Entry) : Prop where
  whole : ∀ node, world.disk path = some node → Whole command original node
  untouched : world.lastMove path = none → world.disk path = original
  kept : ∀ move, world.lastMove path = some move → world.disk path = none →
    (∃ attempt, move.target = sibling path "old" move.process attempt) ∧
      ∃ node, world.disk move.target = some node ∧ Whole command original node

section Contract

variable [DecidableEq Entry] (command : Nat → CommandSpec → CargoOutcome Entry) (path : Path)
  (original : Option (Node Entry))

/-- What a process may rely on, and what it keeps to.  Nobody else changes the siblings of a
process, and it changes nothing but these and the offline directory. -/
def contract : Contract (environment command) where
  rely := fun pid before after =>
    (∀ own, Owns path pid own → after.disk own = before.disk own) ∧
      (Sound command path original before → Sound command path original after) ∧
      ∃ added, after.moves = added ++ before.moves ∧ ∀ move ∈ added, move.process ≠ pid
  guarantee := fun pid before after =>
    (∀ other, other ≠ path → ¬Owns path pid other → after.disk other = before.disk other) ∧
      (Sound command path original before → Sound command path original after) ∧
      ∃ added, after.moves = added ++ before.moves ∧ ∀ move ∈ added, move.process = pid
  permits := fun _ _ _ => True
  rely_refl := fun pid world => ⟨fun _ _ => rfl, id, [], rfl, nofun⟩
  rely_trans := by
    rintro pid first second third ⟨same, sound, added, isAdded, byOthers⟩
      ⟨sameLater, soundLater, addedLater, isAddedLater, byOthersLater⟩
    refine ⟨fun own owns => (sameLater own owns).trans (same own owns), soundLater ∘ sound,
      addedLater ++ added, ?_, ?_⟩
    · rw [isAddedLater, isAdded, List.append_assoc]
    · intro move isMove
      rcases List.mem_append.mp isMove with isLater | isEarlier
      · exact byOthersLater move isLater
      · exact byOthers move isEarlier
  rely_of_guarantee := by
    rintro pid other before after isOther ⟨same, sound, added, isAdded, byPid⟩
    refine ⟨fun own owns => same own owns.ne_path fun alsoOwns => ?_, sound, added, isAdded, ?_⟩
    · exact isOther (owns.inj alsoOwns)
    · intro move isMove isProcess
      exact isOther (isProcess.symm.trans (byPid move isMove))

end Contract

/-! ## Where a process is -/

section Stages

variable (command : Nat → CommandSpec → CargoOutcome Entry) (path : Path)
  (original : Option (Node Entry)) (pid : Nat)

/-- The process has moved nothing. -/
structure Outside (world : SharedDisk Nat Entry) : Prop where
  sound : Sound command path original world
  unmoved : ∀ move ∈ world.moves, move.process ≠ pid

/-- Before it moves the staging directory in, the process has what it prepared in there as
a whole, and in its backup what it has moved aside. -/
structure Prepared (workspace : PrepareWorkspace) (entries : List Entry) (hadExisting : Bool)
    (world : SharedDisk Nat Entry) : Prop where
  sound : Sound command path original world
  staging : world.disk workspace.stagingDir = some (.directory entries)
  backup : hadExisting = true →
    ∃ node, world.disk workspace.backupDir = some node ∧ Whole command original node

/-- The process has moved a staging directory in. -/
def Installed (world : SharedDisk Nat Entry) : Prop :=
  ∃ attempt, ⟨pid, sibling path "tmp" pid attempt, path⟩ ∈ world.moves

/-- The process has moved a staging directory in, and has moved nothing aside since then. -/
structure MovedIn (world : SharedDisk Nat Entry) : Prop where
  sound : Sound command path original world
  installed : Installed path pid world
  last : ∀ move, world.lastMove path = some move → move.process = pid → move.target = path

/-- No backup of which the offline directory is made is at the path. -/
def Loose (own : Path) (world : SharedDisk Nat Entry) : Prop :=
  ∀ move, world.lastMove path = some move → world.disk path = none → move.target ≠ own

end Stages

/-- Only what is at one path has changed. -/
structure OnlyAt (own : Path) (before after : SharedDisk Nat Entry) : Prop where
  elsewhere : ∀ other, other ≠ own → after.disk other = before.disk other
  moves : after.moves = before.moves

section Facts

variable {command : Nat → CommandSpec → CargoOutcome Entry} {original : Option (Node Entry)}
  {world before after : SharedDisk Nat Entry} {workspace : PrepareWorkspace}
  {entries : List Entry} {hadExisting : Bool}

theorem Outside.loose (outside : Outside command path original pid world)
    (owns : Owns path pid own) : Loose path own world := by
  intro move isLast isAbsent isOwn
  obtain ⟨⟨attempt, isTarget⟩, _⟩ := outside.sound.kept move isLast isAbsent
  have isPid : pid = move.process :=
    owns.inj ⟨"old", .tail _ (.head _), attempt, isOwn.symm.trans isTarget⟩
  exact outside.unmoved move (SharedDisk.lastMove_mem isLast) isPid.symm

theorem MovedIn.loose (movedIn : MovedIn command path original pid world)
    (owns : Owns path pid own) : Loose path own world := by
  intro move isLast isAbsent isOwn
  obtain ⟨⟨attempt, isTarget⟩, _⟩ := movedIn.sound.kept move isLast isAbsent
  have isPid : pid = move.process :=
    owns.inj ⟨"old", .tail _ (.head _), attempt, isOwn.symm.trans isTarget⟩
  exact owns.ne_path (isOwn.symm.trans (movedIn.last move isLast isPid.symm))

theorem OnlyAt.sound (only : OnlyAt own before after) (differ : own ≠ path)
    (loose : Loose path own before) (sound : Sound command path original before) :
    Sound command path original after := by
  have samePath := only.elsewhere path differ.symm
  have sameLast := SharedDisk.lastMove_of_moves only.moves path
  constructor
  · intro node isNode
    exact sound.whole node (samePath.symm.trans isNode)
  · intro isNone
    rw [samePath]
    exact sound.untouched (sameLast.symm.trans isNone)
  · intro move isLast isAbsent
    rw [samePath] at isAbsent
    rw [sameLast] at isLast
    obtain ⟨isTarget, node, isNode, whole⟩ := sound.kept move isLast isAbsent
    refine ⟨isTarget, node, ?_, whole⟩
    rw [only.elsewhere _ (loose move isLast isAbsent)]
    exact isNode

theorem OnlyAt.outside (only : OnlyAt own before after)
    (owns : Owns path pid own) (outside : Outside command path original pid before) :
    Outside command path original pid after := by
  refine ⟨only.sound owns.ne_path (outside.loose owns) outside.sound, ?_⟩
  rw [only.moves]
  exact outside.unmoved

/-- A renaming of the offline directory to a backup keeps its content there. -/
theorem Sound.setAside (sound : Sound command path original before)
    (renamed : before.disk.rename path (sibling path "old" pid attempt) = .ok after.disk)
    (moves : after.moves = ⟨pid, path, sibling path "old" pid attempt⟩ :: before.moves) :
    Sound command path original after ∧
      ∃ node, after.disk (sibling path "old" pid attempt) = some node ∧ Whole command original node := by
  have differ : path ≠ sibling path "old" pid attempt := sibling_ne_self.symm
  have isMoved := Disk.rename_eq_moved renamed
  have isNode : ∃ node, before.disk path = some node := by
    rw [← Option.isSome_iff_exists, Option.isSome_iff_ne_none]
    intro isNone
    rw [Disk.rename, isNone] at renamed
    cases renamed
  obtain ⟨node, isNode⟩ := isNode
  have atBackup : after.disk (sibling path "old" pid attempt) = some node := by
    rw [isMoved, Disk.moved_target]
    exact isNode
  have isGone : after.disk path = none := by
    rw [isMoved]
    exact Disk.moved_source differ
  have isLast : after.lastMove path = some ⟨pid, path, sibling path "old" pid attempt⟩ := by
    rw [SharedDisk.lastMove_cons moves, if_pos (.inl rfl)]
  refine ⟨⟨?_, ?_, ?_⟩, node, atBackup, sound.whole node isNode⟩
  · intro other isThere
    cases isGone.symm.trans isThere
  · intro isNone
    cases isLast.symm.trans isNone
  · rintro move isMove -
    obtain rfl := Option.some.inj (isLast.symm.trans isMove)
    exact ⟨⟨attempt, rfl⟩, node, atBackup, sound.whole node isNode⟩

/-- A renaming of something whole to the offline directory makes it whole. -/
theorem Sound.replaced {source : Path} {node : Node Entry}
    (isNode : before.disk source = some node) (whole : Whole command original node)
    (renamed : before.disk.rename source path = .ok after.disk)
    (moves : after.moves = ⟨pid, source, path⟩ :: before.moves) :
    Sound command path original after := by
  have atPath : after.disk path = some node := by
    rw [Disk.rename_eq_moved renamed, Disk.moved_target]
    exact isNode
  have isLast : after.lastMove path = some ⟨pid, source, path⟩ := by
    rw [SharedDisk.lastMove_cons moves, if_pos (.inr rfl)]
  constructor
  · intro other isOther
    obtain rfl := Option.some.inj (atPath.symm.trans isOther)
    exact whole
  · rw [isLast]
    nofun
  · rw [atPath]
    nofun

end Facts

/-! ## What the other processes keep -/

section Stable

variable [DecidableEq Entry] {command : Nat → CommandSpec → CargoOutcome Entry}
  {original : Option (Node Entry)} {world before after : SharedDisk Nat Entry}
  {workspace : PrepareWorkspace} {entries : List Entry} {hadExisting : Bool}

theorem stable_sound :
    (contract command path original).Stable pid (Sound command path original) :=
  fun _ _ relied sound => relied.2.1 sound

theorem stable_own (owns : Owns path pid own) (holds : Option (Node Entry) → Prop) :
    (contract command path original).Stable pid fun world => holds (world.disk own) := by
  intro before after relied atOwn
  rw [relied.1 own owns]
  exact atOwn

theorem stable_outside :
    (contract command path original).Stable pid (Outside command path original pid) := by
  rintro before after ⟨_, sound, added, isAdded, byOthers⟩ outside
  refine ⟨sound outside.sound, fun move isMove => ?_⟩
  rw [isAdded] at isMove
  rcases List.mem_append.mp isMove with isNew | isOld
  · exact byOthers move isNew
  · exact outside.unmoved move isOld

theorem stable_installed :
    (contract command path original).Stable pid (Installed path pid) := by
  rintro before after ⟨_, _, added, isAdded, _⟩ ⟨attempt, isMove⟩
  refine ⟨attempt, ?_⟩
  rw [isAdded]
  exact List.mem_append_right _ isMove

theorem stable_movedIn :
    (contract command path original).Stable pid (MovedIn command path original pid) := by
  intro before after relied movedIn
  refine ⟨relied.2.1 movedIn.sound, stable_installed before after relied movedIn.installed, ?_⟩
  intro move isLast isPid
  obtain ⟨added, isAdded, byOthers⟩ := relied.2.2
  rw [SharedDisk.lastMove, isAdded, List.find?_append] at isLast
  cases isNew : added.find? fun move => decide (move.source = path ∨ move.target = path) with
  | some other =>
      rw [isNew] at isLast
      obtain rfl := Option.some.inj isLast
      exact absurd isPid (byOthers _ (List.mem_of_find?_eq_some isNew))
  | none =>
      rw [isNew] at isLast
      exact movedIn.last move isLast isPid

/-- The siblings of a workspace are those of the process. -/
structure PrepareWorkspace.Of (workspace : PrepareWorkspace) (path : Path) (pid : Nat) : Prop where
  final : workspace.finalDir = path
  staging : ∃ attempt, workspace.stagingDir = sibling path "tmp" pid attempt
  backup : ∃ attempt, workspace.backupDir = sibling path "old" pid attempt

theorem PrepareWorkspace.Of.owns_staging (isOf : workspace.Of path pid) :
    Owns path pid workspace.stagingDir := by
  obtain ⟨attempt, isStaging⟩ := isOf.staging
  exact isStaging ▸ Cli.owns_staging

theorem PrepareWorkspace.Of.owns_backup (isOf : workspace.Of path pid) :
    Owns path pid workspace.backupDir := by
  obtain ⟨attempt, isBackup⟩ := isOf.backup
  exact isBackup ▸ Cli.owns_backup

theorem PrepareWorkspace.Of.staging_ne_backup (isOf : workspace.Of path pid) :
    workspace.stagingDir ≠ workspace.backupDir := by
  obtain ⟨attempt, isStaging⟩ := isOf.staging
  obtain ⟨other, isBackup⟩ := isOf.backup
  rw [isStaging, isBackup]
  exact sibling_suffix_ne

theorem stable_prepared (isOf : workspace.Of path pid) :
    (contract command path original).Stable pid
      (Prepared command path original workspace entries hadExisting) := by
  intro before after relied prepared
  refine ⟨relied.2.1 prepared.sound, ?_, fun existed => ?_⟩
  · rw [relied.1 _ isOf.owns_staging]
    exact prepared.staging
  · rw [relied.1 _ isOf.owns_backup]
    exact prepared.backup existed

/-! ## What a process keeps to -/

theorem guarantee_refl :
    (contract command path original).guarantee pid world world :=
  ⟨fun _ _ _ => rfl, id, [], rfl, nofun⟩

theorem OnlyAt.guarantee (only : OnlyAt own before after) (owns : Owns path pid own)
    (loose : Sound command path original before → Loose path own before) :
    (contract command path original).guarantee pid before after := by
  refine ⟨fun other _ notOwn => only.elsewhere other ?_, fun sound => ?_, [], only.moves, nofun⟩
  · rintro rfl
    exact notOwn owns
  · exact only.sound owns.ne_path (loose sound) sound

omit [DecidableEq Entry] in
theorem OnlyAt.refl (world : SharedDisk Nat Entry) (own : Path) : OnlyAt own world world :=
  ⟨fun _ _ => rfl, rfl⟩

omit [DecidableEq Entry] in
theorem OnlyAt.update (world : SharedDisk Nat Entry) (own : Path) (node : Option (Node Entry)) :
    OnlyAt own world { world with disk := Function.update world.disk own node } :=
  ⟨fun _ differ => Function.update_of_ne differ _ _, rfl⟩

/-- A change of a sibling that is no renaming. -/
theorem onlyAt_of_answers {change : DiskChange Entry} {response : Except IoError Unit}
    (answer : before.Answers pid (.alter change) response after)
    (paths : ∀ changed ∈ change.paths, changed = own)
    (noMove : change.moves pid = ([] : List (Move Nat))) : OnlyAt own before after := by
  refine ⟨fun other differ => answer.elsewhere fun isChanged => differ (paths other isChanged), ?_⟩
  cases response with
  | ok _ => exact answer.2.trans (by rw [noMove]; rfl)
  | error _ => rw [show after = before from answer]

/-- A renaming between the siblings and the offline directory. -/
theorem guarantee_of_rename {source target : Path} {response : Except IoError Unit}
    (answer : before.Answers pid (.alter (.rename source target)) response after)
    (isSource : source = path ∨ Owns path pid source)
    (isTarget : target = path ∨ Owns path pid target)
    (sound : response = .ok () → Sound command path original before →
      Sound command path original after) :
    (contract command path original).guarantee pid before after := by
  refine ⟨fun other notPath notOwn => answer.elsewhere ?_, fun wasSound => ?_, answer.moves⟩
  · have notCalled {called : Path} (isCalled : called = path ∨ Owns path pid called) :
        other ≠ called := by
      rintro rfl
      exact isCalled.elim notPath notOwn
    simp [DiskChange.paths, notCalled isSource, notCalled isTarget]
  · cases response with
    | ok _ => exact sound rfl wasSound
    | error _ => exact (show after = before from answer) ▸ wasSound

end Stable

/-! ## How a process ends -/

/-- The error that a failed commit is reported with. -/
def replaceFailed (path : Path) (cause : String) : String :=
  "failed to replace " ++ path.display ++ " with prepared metadata: " ++ cause

/-- A process that succeeded has installed what it prepared.  One that could not replace the
directory has done so as well, or has it staged as a whole. -/
structure Ends (command : Nat → CommandSpec → CargoOutcome Entry) (path : Path)
    (original : Option (Node Entry)) (pid : Nat) (result : Except String Unit)
    (world : SharedDisk Nat Entry) : Prop where
  sound : Sound command path original world
  installed : result = .ok () → Installed path pid world
  staged : ∀ cause, result = .error (replaceFailed path cause) → Installed path pid world ∨
    ∃ attempt entries, Written command pid entries ∧
      world.disk (sibling path "tmp" pid attempt) = some (.directory entries)

/-- An error of another kind. -/
def NotReplace (path : Path) (message : String) : Prop :=
  ∀ cause, message ≠ replaceFailed path cause

theorem NotReplace.of_start {message : String}
    (differ : ∀ rest, message.toList ≠ "failed to replace ".toList ++ rest) :
    NotReplace path message := by
  intro cause same
  have isText := congrArg String.toList same
  unfold replaceFailed at isText
  rw [String.toList_append, String.toList_append, String.toList_append, List.append_assoc,
    List.append_assoc] at isText
  exact differ _ isText

theorem notReplace_validate {message : String} (refused : validateOfflineDir path = .error message) :
    NotReplace path message := by
  refine .of_start fun rest same => ?_
  unfold validateOfflineDir at refused
  split at refused
  · rw [← Except.error.inj refused] at same
    simp at same
  split at refused
  · rw [← Except.error.inj refused] at same
    simp at same
  split at refused
  · rw [← Except.error.inj refused] at same
    simp at same
  · cases refused

/-- The message is shorter than that of any failed commit. -/
theorem notReplace_notDirectory : NotReplace path (path.display ++ " is not a directory") := by
  intro cause same
  have sameLength := congrArg String.length same
  unfold replaceFailed at sameLength
  rw [String.length_append, String.length_append, String.length_append,
    String.length_append] at sameLength
  have short : " is not a directory".length = 19 := by
    rw [← String.length_toList]
    simp
  have long : " with prepared metadata: ".length = 25 := by
    rw [← String.length_toList]
    simp
  omega

theorem notReplace_createParent {place cause : String} :
    NotReplace path ("failed to create parent directory " ++ place ++ ": " ++ cause) :=
  .of_start fun _ => by simp

theorem notReplace_createStaging {place cause : String} :
    NotReplace path ("failed to create staging directory " ++ place ++ ": " ++ cause) :=
  .of_start fun _ => by simp

theorem notReplace_notRun {rest : String} : NotReplace path ("failed to run cargo check: " ++ rest) :=
  .of_start fun _ => by simp

theorem notReplace_exited {rest : String} : NotReplace path ("cargo check exited with " ++ rest) :=
  .of_start fun _ => by simp

section Program

variable [DecidableEq Entry] {command : Nat → CommandSpec → CargoOutcome Entry}
  {original : Option (Node Entry)} {workspace : PrepareWorkspace} {entries : List Entry}
  {hadExisting : Bool} {ε α : Type}

namespace Process

open Contract

theorem ask_triple {request : Request Entry} {read : request.Response → Except ε α}
    {before : SharedDisk Nat Entry → Prop} {after : Except ε α → SharedDisk Nat Entry → Prop}
    (stable : (contract command path original).Stable pid before)
    (stableAfter : ∀ result, (contract command path original).Stable pid (after result))
    (answered : ∀ world response later, before world →
      Answers command pid world request response later →
      (contract command path original).guarantee pid world later ∧ after (read response) later) :
    (contract command path original).Triple pid before (ask request read) after :=
  .ask stable stableAfter (fun _ _ => trivial) (fun _ _ _ => guarantee_refl) answered

/-- Asking whether something exists changes nothing. -/
theorem pathExists_triple {call : Call} {asked : Path} {holds : SharedDisk Nat Entry → Prop}
    {after : Except ε α → SharedDisk Nat Entry → Prop}
    (stable : (contract command path original).Stable pid holds)
    (stableError : ∀ error, (contract command path original).Stable pid (after (.error error))) :
    (contract command path original).Triple pid holds (pathExists call asked)
      (Onward (fun _ => holds) after) := by
  refine ask_triple stable (.onward (fun _ => stable) stableError) ?_
  rintro world taken _ atWorld ⟨rfl, _⟩
  exact ⟨guarantee_refl, atWorld⟩

/-- Removing a sibling changes nothing else. -/
theorem removeDirAll_triple {call : Call} {holds : SharedDisk Nat Entry → Prop}
    (owns : Owns path pid own) (stable : (contract command path original).Stable pid holds)
    (loose : ∀ world, holds world → Loose path own world)
    (keeps : ∀ before after, OnlyAt own before after → holds before → holds after) :
    (contract command path original).Triple pid holds (removeDirAll call own) fun _ => holds := by
  have altered {change : DiskChange Entry} (paths : ∀ changed ∈ change.paths, changed = own)
      (noMove : change.moves pid = ([] : List (Move Nat))) :
      (contract command path original).Triple pid holds (alter call change) fun _ => holds := by
    refine ask_triple stable (fun _ => stable) fun world response later atWorld answer => ?_
    have only := onlyAt_of_answers answer paths noMove
    exact ⟨only.guarantee owns fun _ => loose world atWorld, keeps world later only atWorld⟩
  have removed (entries : List Entry) : (contract command path original).Triple pid holds
      (removeEntries call own entries) fun _ => holds := by
    induction entries with
    | nil => exact .pure stable fun _ atWorld => atWorld
    | cons entry entries ih =>
        exact .bind (fun _ => holds) (fun _ => stable) (altered (by simp [DiskChange.paths]) rfl).onward
          fun _ => ih
  refine .bind (fun _ => holds) (fun _ => stable) (ask_triple stable ?_ ?_) fun listed => ?_
  · exact fun result => by cases result <;> exact stable
  · rintro world response later atWorld answer
    obtain rfl := SharedDisk.Answers.readDir answer
    refine ⟨guarantee_refl, ?_⟩
    cases response <;> exact atWorld
  · exact .bind (fun _ => holds) (fun _ => stable) (removed listed).onward fun _ =>
      altered (by simp [DiskChange.paths]) rfl

/-! ## Creating the workspace -/

theorem uniqueSibling_triple {suffix : String} {first left : Nat}
    {after : Except ε α → SharedDisk Nat Entry → Prop}
    (stableError : ∀ error, (contract command path original).Stable pid (after (.error error))) :
    (contract command path original).Triple pid (Outside command path original pid)
      (uniqueSibling pid path suffix first left)
      (Onward (fun made world => Outside command path original pid world ∧
        ∃ attempt, made = sibling path suffix pid attempt) after) := by
  have stable (made : Path) : (contract command path original).Stable pid fun world =>
      Outside command path original pid world ∧
        ∃ attempt, made = sibling path suffix pid attempt :=
    stable_outside.and fun _ _ _ isMade => isMade
  induction left generalizing first with
  | zero => exact ask_triple stable_outside (.onward stable stableError) nofun
  | succ left ih =>
      refine .bind (fun _ => Outside command path original pid) stableError
        (pathExists_triple stable_outside stableError) fun taken => ?_
      cases taken with
      | true => exact ih
      | false => exact .pure (stable _) fun _ outside => ⟨outside, first, rfl⟩

theorem stable_ends (result : Except String Unit) :
    (contract command path original).Stable pid (Ends command path original pid result) := by
  intro before after relied ends
  refine ⟨relied.2.1 ends.sound, fun isOk => ?_, fun cause isError => ?_⟩
  · exact stable_installed before after relied (ends.installed isOk)
  · refine (ends.staged cause isError).imp (stable_installed before after relied) ?_
    rintro ⟨attempt, entries, written, isStaged⟩
    exact ⟨attempt, entries, written, (relied.1 _ owns_staging).trans isStaged⟩

omit [DecidableEq Entry] in
theorem ends_of_notReplace {message : String} {world : SharedDisk Nat Entry}
    (other : NotReplace path message) (sound : Sound command path original world) :
    Ends command path original pid (.error message) world :=
  ⟨sound, nofun, fun cause isError => absurd (Except.error.inj isError) (other cause)⟩

theorem checkOfflineDir_triple :
    (contract command path original).Triple pid (Outside command path original pid)
      (checkOfflineDir path)
      (Onward (fun _ => Outside command path original pid) (Ends command path original pid)) := by
  refine .bind _ (fun _ => stable_ends _)
    (pathExists_triple stable_outside fun _ => stable_ends _) fun taken => ?_
  refine .whenTrue stable_outside (fun _ => ?_) fun _ _ outside => outside
  refine .bind (fun _ => Outside command path original pid) (fun _ => stable_ends _) ?_
    fun isDirectory => ?_
  · refine ask_triple stable_outside (.onward (fun _ => stable_outside) fun _ => stable_ends _) ?_
    rintro world response _ atWorld ⟨rfl, _⟩
    exact ⟨guarantee_refl, atWorld⟩
  · cases isDirectory with
    | true => exact .pure stable_outside fun _ outside => outside
    | false =>
        exact .fail (stable_ends _) fun _ outside =>
          ends_of_notReplace notReplace_notDirectory outside.sound

/-- A change of a sibling that is reported when it fails. -/
theorem alter_outside {call : Call} {change : DiskChange Entry} {convert : IoError → String}
    (owns : Owns path pid own) (paths : ∀ changed ∈ change.paths, changed = own)
    (noMove : change.moves pid = ([] : List (Move Nat)))
    (other : ∀ error, NotReplace path (convert error)) :
    (contract command path original).Triple pid (Outside command path original pid)
      (Future.mapError convert (alter call change))
      (Onward (fun _ => Outside command path original pid) (Ends command path original pid)) := by
  have stable (result : Except String Unit) : (contract command path original).Stable pid
      (Onward (fun _ => Outside command path original pid) (Ends command path original pid :
        Except String Unit → _) result) :=
    .onward (fun _ => stable_outside) (fun _ => stable_ends _) result
  refine .mapError stable (ask_triple stable_outside (fun _ => stable _) ?_)
  intro world response later outside answer
  have only := onlyAt_of_answers answer paths noMove
  have outsideLater := only.outside owns outside
  refine ⟨only.guarantee owns fun _ => outside.loose owns, ?_⟩
  cases response with
  | ok _ => exact outsideLater
  | error error => exact ends_of_notReplace (other error) outsideLater.sound

theorem create_triple :
    (contract command path original).Triple pid (Outside command path original pid)
      (create pid path)
      (Onward (fun workspace world => Outside command path original pid world ∧
        workspace.Of path pid) (Ends command path original pid)) := by
  rw [create]
  cases refused : validateOfflineDir path with
  | error message =>
      exact .fail (stable_ends _) fun _ outside =>
        ends_of_notReplace (notReplace_validate refused) outside.sound
  | ok _ =>
      refine .bind _ (fun _ => stable_ends _) checkOfflineDir_triple fun _ => ?_
      have owns (attempt : Nat) : Owns path pid (sibling path "tmp" pid attempt) := owns_staging
      refine .bind _ (fun _ => stable_ends _) (alter_outside (owns 0) (by simp [DiskChange.paths])
        rfl fun _ => notReplace_createParent) fun _ => ?_
      refine .bind _ (fun _ => stable_ends _)
        (uniqueSibling_triple fun _ => stable_ends _) fun stagingDir => .assuming fun isStaging => ?_
      obtain ⟨attempt, rfl⟩ := isStaging
      refine .bind _ (fun _ => stable_ends _) (alter_outside (owns attempt)
        (by simp [DiskChange.paths]) rfl fun _ => notReplace_createStaging) fun _ => ?_
      refine .bind _ (fun _ => stable_ends _)
        (uniqueSibling_triple fun _ => stable_ends _) fun backupDir => .assuming fun isBackup => ?_
      refine .pure (stable_outside.and fun _ _ _ isOf => isOf) fun _ outside => ⟨outside, ?_⟩
      exact ⟨rfl, ⟨attempt, rfl⟩, isBackup⟩

/-! ## Committing -/

/-- How a commit of some entries ends. -/
def CommitEnds (command : Nat → CommandSpec → CargoOutcome Entry) (path : Path)
    (original : Option (Node Entry)) (pid : Nat) (workspace : PrepareWorkspace)
    (entries : List Entry) : Except IoError Unit → SharedDisk Nat Entry → Prop
  | .ok _ => MovedIn command path original pid
  | .error _ => fun world => Sound command path original world ∧
      (Installed path pid world ∨ world.disk workspace.stagingDir = some (.directory entries))

theorem stable_commitEnds (isOf : workspace.Of path pid) (result : Except IoError Unit) :
    (contract command path original).Stable pid
      (CommitEnds command path original pid workspace entries result) := by
  cases result with
  | ok _ => exact stable_movedIn
  | error _ =>
      refine stable_sound.and fun before after relied => ?_
      exact Or.imp (stable_installed before after relied)
        (stable_own isOf.owns_staging (· = some (.directory entries)) before after relied)

/-- The new content is in the staging directory, and the process has moved nothing. -/
def Staged (command : Nat → CommandSpec → CargoOutcome Entry) (path : Path)
    (original : Option (Node Entry)) (pid : Nat) (workspace : PrepareWorkspace)
    (entries : List Entry) (world : SharedDisk Nat Entry) : Prop :=
  Outside command path original pid world ∧
    world.disk workspace.stagingDir = some (.directory entries)

theorem stable_staged (isOf : workspace.Of path pid) :
    (contract command path original).Stable pid
      (Staged command path original pid workspace entries) :=
  stable_outside.and (stable_own isOf.owns_staging (· = some (.directory entries)))

/-- The old content is moved aside as a whole, or stays. -/
theorem moveAside_triple (isOf : workspace.Of path pid) :
    (contract command path original).Triple pid
      (Staged command path original pid workspace entries)
      (Future.whenTrue hadExisting
        (alter .moveAside (.rename workspace.finalDir workspace.backupDir)))
      (Onward (fun _ => Prepared command path original workspace entries hadExisting)
        (CommitEnds command path original pid workspace entries : Except IoError Unit → _)) := by
  refine .whenTrue (stable_prepared isOf) (fun existed => ?_) fun notExisted world staged => ?_
  · refine ask_triple (stable_staged isOf)
      (.onward (fun _ => stable_prepared isOf) fun _ => stable_commitEnds isOf _) ?_
    intro world response later staged answer
    obtain ⟨attempt, isBackup⟩ := isOf.backup
    have stagingStays : later.disk workspace.stagingDir = some (.directory entries) := by
      rw [← staged.2]
      refine SharedDisk.Answers.elsewhere answer ?_
      simp [DiskChange.paths, isOf.final, isOf.owns_staging.ne_path, isOf.staging_ne_backup]
    rw [isOf.final, isBackup] at answer
    refine ⟨guarantee_of_rename answer (.inl rfl) (.inr owns_backup) ?_, ?_⟩
    · rintro rfl sound
      exact (sound.setAside answer.1 answer.2).1
    · cases response with
      | ok _ =>
          obtain ⟨sound, atBackup⟩ := staged.1.sound.setAside answer.1 answer.2
          exact ⟨sound, stagingStays, fun _ => isBackup ▸ atBackup⟩
      | error _ =>
          obtain rfl : later = world := answer
          exact ⟨staged.1.sound, .inr staged.2⟩
  · exact ⟨staged.1.sound, staged.2, fun existed => by rw [notExisted] at existed; cases existed⟩

/-- What is staged is moved in as a whole, or stays. -/
theorem moveIn_triple (isOf : workspace.Of path pid) (written : Written command pid entries) :
    (contract command path original).Triple pid
      (Prepared command path original workspace entries hadExisting)
      (Future.result (alter .moveIn (.rename workspace.stagingDir workspace.finalDir)))
      (Onward (Async.Resulting (MovedIn command path original pid)
          (Prepared command path original workspace entries hadExisting))
        (CommitEnds command path original pid workspace entries)) := by
  have stable (moved : Except IoError Unit) : (contract command path original).Stable pid
      (Async.Resulting (MovedIn command path original pid)
        (Prepared command path original workspace entries hadExisting) moved) := by
    cases moved with
    | ok _ => exact stable_movedIn
    | error _ => exact stable_prepared isOf
  refine .result (.onward stable fun _ => stable_commitEnds isOf _)
    (ask_triple (stable_prepared isOf) (fun result => stable result) ?_)
  intro world response later prepared answer
  obtain ⟨attempt, isStaging⟩ := isOf.staging
  have whole : Whole command original (.directory entries) := .inr ⟨pid, entries, written, rfl⟩
  have staging := prepared.staging
  rw [isOf.final, isStaging] at answer
  rw [isStaging] at staging
  refine ⟨guarantee_of_rename answer (.inr owns_staging) (.inl rfl) ?_, ?_⟩
  · rintro rfl _
    exact .replaced staging whole answer.1 answer.2
  · cases response with
    | ok _ =>
        have isLast : later.lastMove path = some ⟨pid, sibling path "tmp" pid attempt, path⟩ := by
          rw [SharedDisk.lastMove_cons answer.2, if_pos (.inr rfl)]
        refine ⟨.replaced staging whole answer.1 answer.2, ⟨attempt, ?_⟩, fun move isMove _ => ?_⟩
        · rw [answer.2]
          exact .head _
        · rw [← Option.some.inj (isLast.symm.trans isMove)]
    | error _ =>
        obtain rfl : later = world := answer
        exact prepared

/-- What was moved aside is moved back as a whole, or stays. -/
theorem restore_triple (isOf : workspace.Of path pid) :
    (contract command path original).Triple pid
      (Prepared command path original workspace entries hadExisting)
      (Future.whenTrue hadExisting do
        let _ ← Future.result (alter .restore (.rename workspace.backupDir workspace.finalDir))
        pure () : Process Entry IoError Unit)
      fun _ => Prepared command path original workspace entries false := by
  have stable : (contract command path original).Stable pid
      (Prepared command path original workspace entries false) := stable_prepared isOf
  refine .whenTrue stable (fun existed => ?_) fun _ _ prepared => ⟨prepared.sound, prepared.staging, nofun⟩
  refine .bind (fun _ => Prepared command path original workspace entries false) (fun _ => stable) ?_
    fun _ => .pure stable fun _ prepared => prepared
  refine .onward (.result (fun _ => stable) (ask_triple (stable_prepared isOf) (fun _ => stable) ?_))
  intro world response later prepared answer
  obtain ⟨node, isNode, whole⟩ := prepared.backup existed
  obtain ⟨attempt, isBackup⟩ := isOf.backup
  have stagingStays : later.disk workspace.stagingDir = some (.directory entries) := by
    rw [← prepared.staging]
    refine SharedDisk.Answers.elsewhere answer ?_
    simp [DiskChange.paths, isOf.final, isOf.owns_staging.ne_path, isOf.staging_ne_backup]
  rw [isOf.final, isBackup] at answer
  rw [isBackup] at isNode
  refine ⟨guarantee_of_rename answer (.inr owns_backup) (.inl rfl) ?_, ?_, stagingStays, nofun⟩
  · rintro rfl _
    exact .replaced isNode whole answer.1 answer.2
  · cases response with
    | ok _ => exact .replaced isNode whole answer.1 answer.2
    | error _ =>
        obtain rfl : later = world := answer
        exact prepared.sound

theorem conclude_triple (isOf : workspace.Of path pid) (moved : Except IoError Unit) :
    (contract command path original).Triple pid
      (Async.Resulting (MovedIn command path original pid)
        (Prepared command path original workspace entries hadExisting) moved)
      (conclude workspace hadExisting moved)
      (CommitEnds command path original pid workspace entries) := by
  cases moved with
  | ok _ =>
      refine .whenTrue stable_movedIn (fun _ => ?_) fun _ _ movedIn => movedIn
      refine (removeDirAll_triple isOf.owns_backup stable_movedIn
        (fun _ movedIn => movedIn.loose isOf.owns_backup) ?_).mono (fun _ movedIn => movedIn) ?_
      · intro before after only movedIn
        refine ⟨only.sound isOf.owns_backup.ne_path (movedIn.loose isOf.owns_backup) movedIn.sound,
          ?_, ?_⟩
        · rw [Installed, only.moves]
          exact movedIn.installed
        · rw [SharedDisk.lastMove_of_moves only.moves]
          exact movedIn.last
      · intro result world movedIn
        cases result with
        | ok _ => exact movedIn
        | error _ => exact ⟨movedIn.sound, .inl movedIn.installed⟩
  | error error =>
      refine .bind (fun _ => Prepared command path original workspace entries false)
        (fun _ => stable_commitEnds isOf _)
        ((restore_triple isOf).mono (fun _ prepared => prepared) ?_) fun _ =>
          .fail (stable_commitEnds isOf _) fun world prepared => ?_
      · intro result world prepared
        cases result with
        | ok _ => exact prepared
        | error _ => exact ⟨prepared.sound, .inr prepared.staging⟩
      · exact ⟨prepared.sound, .inr prepared.staging⟩

theorem commit_triple (isOf : workspace.Of path pid) (written : Written command pid entries) :
    (contract command path original).Triple pid
      (Staged command path original pid workspace entries) (commit workspace)
      (CommitEnds command path original pid workspace entries) := by
  have stable (error : IoError) : (contract command path original).Stable pid
      (CommitEnds command path original pid workspace entries (.error error)) :=
    stable_commitEnds isOf _
  refine .bind (fun _ => Staged command path original pid workspace entries) stable
    (pathExists_triple (stable_staged isOf) stable) fun stale => ?_
  refine .bind (fun _ => Staged command path original pid workspace entries) stable ?_ fun _ => ?_
  · refine .whenTrue (stable_staged isOf) (fun _ => ?_) fun _ _ staged => staged
    refine (removeDirAll_triple isOf.owns_backup (stable_staged isOf)
      (fun _ staged => staged.1.loose isOf.owns_backup) ?_).mono (fun _ staged => staged) ?_
    · intro before after only staged
      refine ⟨only.outside isOf.owns_backup staged.1, ?_⟩
      rw [only.elsewhere _ isOf.staging_ne_backup]
      exact staged.2
    · intro result world staged
      cases result with
      | ok _ => exact staged
      | error _ => exact ⟨staged.1.sound, .inr staged.2⟩
  refine .bind (fun _ => Staged command path original pid workspace entries) stable
    (pathExists_triple (stable_staged isOf) stable) fun hadExisting => ?_
  refine .bind _ stable (moveAside_triple isOf) fun _ => ?_
  exact .bind _ stable (moveIn_triple isOf written) (conclude_triple isOf)

/-! ## The whole program -/

/-- The command fills the staging directory, or nothing has happened. -/
theorem command_triple {spec : CommandSpec} (isOf : workspace.Of path pid) :
    (contract command path original).Triple pid (Outside command path original pid)
      (ask (.command spec workspace.stagingDir) .ok)
      (Onward (fun outcome world => (Outside command path original pid world ∧
          ∀ status entries, outcome = .exited status entries →
            world.disk workspace.stagingDir = some (.directory entries)) ∧
            outcome = command pid spec)
        (Ends command path original pid)) := by
  have stable (outcome : CargoOutcome Entry) : (contract command path original).Stable pid
      fun world => (Outside command path original pid world ∧
        ∀ status entries, outcome = .exited status entries →
          world.disk workspace.stagingDir = some (.directory entries)) ∧
            outcome = command pid spec := by
    rintro before after relied ⟨⟨outside, holds⟩, isOutcome⟩
    refine ⟨⟨stable_outside before after relied outside, fun status entries exited => ?_⟩, isOutcome⟩
    exact (relied.1 _ isOf.owns_staging).trans (holds status entries exited)
  refine ask_triple stable_outside (.onward stable fun _ => stable_ends _) ?_
  rintro world outcome later outside ⟨isOutcome, isLater⟩
  have only : OnlyAt workspace.stagingDir world later := by
    rw [isLater]
    cases outcome with
    | notRun error => exact .refl world _
    | exited status written => exact .update world _ _
  refine ⟨only.guarantee isOf.owns_staging fun _ => outside.loose isOf.owns_staging,
    ⟨only.outside isOf.owns_staging outside, ?_⟩, isOutcome⟩
  rintro status entries rfl
  rw [isLater]
  exact Function.update_self ..

/-- Cleaning up does not fail. -/
theorem cleanup_triple (isOf : workspace.Of path pid)
    {after : Except ε Unit → SharedDisk Nat Entry → Prop}
    (stableError : ∀ error, (contract command path original).Stable pid (after (.error error))) :
    (contract command path original).Triple pid (Outside command path original pid)
      (cleanup workspace)
      (Onward (fun _ => Outside command path original pid) after) := by
  refine .bind (fun _ => Outside command path original pid) stableError
    (.result (.onward (fun _ => stable_outside) stableError) ?_) fun _ =>
      .pure stable_outside fun _ outside => outside
  exact removeDirAll_triple isOf.owns_staging stable_outside
    (fun _ outside => outside.loose isOf.owns_staging) fun _ _ only => only.outside isOf.owns_staging

theorem runWithProgram_triple (prepare : Prepare) (cargo : String) :
    (contract command prepare.offlineDir original).Triple pid
      (Outside command prepare.offlineDir original pid) (runWithProgram pid prepare cargo)
      (Ends command prepare.offlineDir original pid) := by
  refine .bind _ (fun _ => stable_ends _) create_triple fun workspace => .assuming fun isOf => ?_
  refine .bind _ (fun _ => stable_ends _) (command_triple isOf) fun outcome =>
    .assuming fun isOutcome => ?_
  cases outcome with
  | notRun error =>
      exact .fail (stable_ends _) fun _ holds => ends_of_notReplace notReplace_notRun holds.1.sound
  | exited status entries =>
      show (contract command prepare.offlineDir original).Triple pid _
        (if status.success then _ else _) _
      by_cases succeeded : status.success = true
      · rw [if_pos succeeded]
        refine .mapError stable_ends ((commit_triple isOf ⟨_, status, isOutcome.symm, succeeded⟩).mono
          (fun world holds => ⟨holds.1, holds.2 status entries rfl⟩) ?_)
        intro result world ends
        cases result with
        | ok _ => exact ⟨ends.sound, fun _ => ends.installed, nofun⟩
        | error error =>
            refine ⟨ends.1, nofun, fun _ _ => ends.2.imp_right fun isStaged => ?_⟩
            obtain ⟨attempt, isStaging⟩ := isOf.staging
            exact ⟨attempt, entries, ⟨_, status, isOutcome.symm, succeeded⟩, isStaging ▸ isStaged⟩
      · rw [if_neg succeeded]
        refine .bind _ (fun _ => stable_ends _) ((cleanup_triple isOf fun _ => stable_ends _).mono
          (fun _ holds => holds.1) fun _ _ atEnd => atEnd) fun _ => ?_
        exact .fail (stable_ends _) fun _ outside =>
          ends_of_notReplace notReplace_exited outside.sound

end Process

end Program

/-! ## Systems of processes -/

section Systems

variable [DecidableEq Entry] {command : Nat → CommandSpec → CargoOutcome Entry}

/-- Processes that prepare the metadata of one offline directory. -/
abbrev Processes (Entry : Type) :=
  System Nat (SharedDisk Nat Entry) (Request Entry) Request.Response (Except String Unit)

/-- Each process prepares the metadata of the directory, and nothing was renamed yet. -/
structure Processes.Starts (start : Processes Entry) (path : Path) : Prop where
  unmoved : start.world.moves = []
  prepares : ∀ pid future, start.futures pid = some future →
    ∃ prepare cargo, prepare.offlineDir = path ∧
      future = (Process.runWithProgram pid prepare cargo).run

/-- Nothing has changed but the offline directory and siblings that processes make. -/
def SameElsewhere (path : Path) (before after : SharedDisk Nat Entry) : Prop :=
  ∀ other, other ≠ path → (∀ pid, ¬Owns path pid other) → after.disk other = before.disk other

omit [DecidableEq Entry] in
theorem Processes.Starts.sound {start : Processes Entry} (starts : start.Starts path) :
    Sound command path (start.world.disk path) start.world := by
  have isNone : start.world.lastMove path = none := by
    rw [SharedDisk.lastMove, starts.unmoved]
    rfl
  refine ⟨fun _ isNode => .inl isNode, fun _ => rfl, ?_⟩
  intro move isMove
  cases isNone.symm.trans isMove

theorem Processes.Starts.meets {start : Processes Entry} (starts : start.Starts path) :
    start.Meets (contract command path (start.world.disk path))
      (Ends command path (start.world.disk path)) := by
  refine System.meets_of_triples (Outside command path (start.world.disk path)) ?_ ?_
  · intro pid
    refine ⟨starts.sound, ?_⟩
    rw [starts.unmoved]
    nofun
  · intro pid future isFuture
    obtain ⟨prepare, cargo, rfl, rfl⟩ := starts.prepares pid future isFuture
    exact Process.runWithProgram_triple prepare cargo

/-- Any number of processes prepare the metadata of one offline directory, in any order of
their calls, of which any may fail, and any process may die.  The directory is absent, or
holds as a whole what it held at first or what one of them has prepared.  It is not absent
after all that it held is gone: a backup has one of these as a whole.  What a process could
not put in its place is staged as a whole, or was put there.  Nothing else is changed but
the siblings that the processes make. -/
theorem preparations_keep_offline_dir (command : Nat → CommandSpec → CargoOutcome Entry)
    (path : Path) {start system : Processes Entry} (starts : start.Starts path)
    (reached : start.Reaches (environment command) system) :
    (∀ node, system.world.disk path = some node →
        Whole command (start.world.disk path) node) ∧
      (system.world.disk path = none →
        start.world.disk path ≠ none ∨ (∃ pid, system.futures pid = some (.done (.ok ()))) →
        ∃ pid attempt node, system.world.disk (sibling path "old" pid attempt) = some node ∧
          Whole command (start.world.disk path) node) ∧
      (∀ pid cause, system.futures pid = some (.done (.error (replaceFailed path cause))) →
        Installed path pid system.world ∨ ∃ attempt entries, Written command pid entries ∧
          system.world.disk (sibling path "tmp" pid attempt) = some (.directory entries)) ∧
      SameElsewhere path start.world system.world := by
  have atStart : start.Meets (contract command path (start.world.disk path))
      (Ends command path (start.world.disk path)) := starts.meets
  have sound := reached.invariant atStart (fun guaranteed sound => guaranteed.2.1 sound) starts.sound
  have ended {pid : Nat} {result : Except String Unit}
      (isDone : system.futures pid = some (.done result)) :=
    (reached.meets atStart).ended isDone
  refine ⟨sound.whole, fun isAbsent used => ?_, fun pid cause isDone => ?_, ?_⟩
  · cases isLast : system.world.lastMove path with
    | none =>
        rw [sound.untouched isLast] at isAbsent
        rcases used with isThere | ⟨pid, isDone⟩
        · exact absurd isAbsent isThere
        -- who has succeeded has renamed something to the directory
        · obtain ⟨attempt, isMove⟩ := (ended isDone).installed rfl
          have notFound := List.find?_eq_none.mp isLast _ isMove
          simp at notFound
    | some move =>
        obtain ⟨⟨attempt, isTarget⟩, node, isNode, whole⟩ := sound.kept move isLast isAbsent
        exact ⟨move.process, attempt, node, isTarget ▸ isNode, whole⟩
  · exact (ended isDone).staged cause rfl
  · have same : SameElsewhere path start.world system.world :=
      reached.invariant atStart (fun guaranteed same other notPath notOwned =>
        (guaranteed.1 other notPath (notOwned _)).trans (same other notPath notOwned))
        fun _ _ _ => rfl
    exact same

/-! ## One process after all -/

theorem handler_answersAs (fates : Call → Fate Entry) (pid : Nat) :
    (handler fates (command pid)).AnswersAs (environment command) pid SharedDisk.disk := by
  intro world request response after handled
  cases request with
  | disk call request => exact DiskCall.handle_answers handled
  | command spec stagingDir =>
      obtain ⟨isResponse, rfl⟩ := Prod.mk.inj handled
      obtain rfl := Option.some.inj isResponse
      refine ⟨_, ⟨rfl, rfl⟩, ?_⟩
      cases command pid spec <;> rfl
  | panic => nomatch response

/-- What the program of one process gives as a whole, the process comes to call by call,
when the other processes wait for it. -/
theorem reaches_runWithProgram (fates : Call → Fate Entry) {pid : Nat} {prepare : Prepare}
    {cargo : String} {system : Processes Entry}
    (isFuture : system.futures pid = some (Process.runWithProgram pid prepare cargo).run)
    {result : Except String Unit}
    (ran : (prepare.runWithProgram fates pid (command pid) cargo system.world.disk).1 =
      .ofResult result) :
    ∃ later, later.disk =
        (prepare.runWithProgram fates pid (command pid) cargo system.world.disk).2 ∧
      system.Reaches (environment command)
        ⟨later, Function.update system.futures pid (some (.done result))⟩ := by
  rw [← Process.alone_runWithProgram] at ran ⊢
  exact Future.reaches_of_alone (handler_answersAs fates pid) isFuture (Prod.ext ran rfl)

end Systems

/-! ## Two processes -/

/-- A check that succeeds, and writes metadata of its own. -/
def namedCheck (pid : Nat) : CommandSpec → CargoOutcome String := fun _ =>
  .exited ⟨true, "exit status: 0"⟩ [toString pid ++ ".json"]

def twoProcesses : Processes String where
  world := ⟨offlineDisk, []⟩
  futures := fun pid =>
    if pid = 7 ∨ pid = 8 then some (Process.runWithProgram pid samplePrepare "cargo").run else none

theorem twoProcesses_starts : twoProcesses.Starts samplePrepare.offlineDir where
  unmoved := rfl
  prepares := by
    intro pid future isFuture
    simp only [twoProcesses] at isFuture
    split at isFuture
    · exact ⟨samplePrepare, "cargo", rfl, (Option.some.inj isFuture).symm⟩
    · cases isFuture

theorem two_preparations_keep_offline_dir :
    ∃ system : Processes String, twoProcesses.Reaches (environment namedCheck) system ∧
      system.futures 7 = some (.done (.ok ())) ∧ system.futures 8 = some (.done (.ok ())) ∧
      ∀ node, system.world.disk samplePrepare.offlineDir = some node →
        Whole namedCheck (offlineDisk samplePrepare.offlineDir) node := by
  have isSeven : twoProcesses.futures 7 =
      some (Process.runWithProgram 7 samplePrepare "cargo").run := rfl
  obtain ⟨first, isFirst, reachedFirst⟩ :=
    @reaches_runWithProgram _ _ namedCheck allSucceed 7 _ _ _ isSeven (.ok ()) rfl
  generalize isFutures : Function.update twoProcesses.futures 7 _ = futures at reachedFirst
  have isEight : futures 8 = some (Process.runWithProgram 8 samplePrepare "cargo").run := by
    rw [← isFutures]
    rfl
  have isDone : futures 7 = some (.done (.ok ())) := by
    rw [← isFutures]
    rfl
  obtain ⟨second, _, reachedSecond⟩ :=
    @reaches_runWithProgram _ _ namedCheck allSucceed 8 _ _ ⟨first, futures⟩ isEight (.ok ()) (by
      rw [isFirst]
      rfl)
  have reached := reachedFirst.trans reachedSecond
  exact ⟨_, reached, isDone, rfl,
    (preparations_keep_offline_dir namedCheck _ twoProcesses_starts reached).1⟩

end SqlxTurso.Cli
