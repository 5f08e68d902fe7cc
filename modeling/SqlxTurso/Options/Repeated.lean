import SqlxTurso.Library.InPlace
import SqlxTurso.Options.Order

/-!
# Parameters that are given again

A key may stand in a query more than once.  The last parameter of a key decides, in the
order in which the loop reads them.  Whether a query is accepted for a file, and leaves it
the target, is told by the parameters alone.
-/

namespace SqlxTurso

open Library

/-- The parameters are accepted for a file, which stays the target. -/
structure AcceptedForFile (pairs : List (String × String)) : Prop where
  read : ∀ pair ∈ pairs, ∃ setting, QuerySetting.read pair = .ok setting
  encryption :
    (∃ cipher hexkey encryption, lastValue pairs "encryption_cipher" = some cipher ∧
      lastValue pairs "encryption_hexkey" = some hexkey ∧
      TursoEncryptionOptions.new cipher hexkey = .ok encryption) ∨
    (lastValue pairs "encryption_cipher" = none ∧ lastValue pairs "encryption_hexkey" = none)
  sync : (∃ remoteUrl, lastValue pairs "sync_remote_url" = some remoteUrl ∧ remoteUrl ≠ "") ∨
    ∀ pair ∈ pairs, pair.1 ∉ QuerySetting.syncKeys
  keepsFile : ("mode", "memory") ∉ pairs

namespace QuerySetting

/-- Only the memory mode is read as such. -/
theorem read_memory {pair : String × String}
    (isRead : read pair = .ok (.mode .memory)) : pair = ("mode", "memory") := by
  rcases pair with ⟨key, value⟩
  have isKey : "mode" = key := read_key isRead
  subst isKey
  by_contra differs
  have notMemory : value ≠ "memory" := fun same => differs (same ▸ rfl)
  have notRo : value ≠ "ro" := by
    rintro rfl
    cases isRead
  have notRw : value ≠ "rw" := by
    rintro rfl
    cases isRead
  have notRwc : value ≠ "rwc" := by
    rintro rfl
    cases isRead
  rw [read_mode_unknown notRo notRw notRwc notMemory] at isRead
  cases isRead

/-- No parameter changes the target but the memory mode. -/
theorem turn_target (state : QueryState) {pair : String × String}
    (notMemory : pair ≠ ("mode", "memory")) :
    (turn state pair).options.target = state.options.target := by
  cases isRead : read pair with
  | error error => rw [turn, isRead]
  | ok setting =>
      rw [turn_eq isRead]
      cases setting with
      | mode queryMode =>
          cases queryMode with
          | memory => exact absurd (read_memory isRead) notMemory
          | _ => rfl
      | _ => exact (change_target state _).1

theorem turn_isMemory (state : QueryState) (pair : String × String) :
    (turn state pair).options.target.isMemory =
      (state.options.target.isMemory || decide (pair = ("mode", "memory"))) := by
  by_cases isMemory : pair = ("mode", "memory")
  · subst isMemory
    simp only [decide_true, Bool.or_true]
    rfl
  · rw [turn_target state isMemory, decide_eq_false isMemory, Bool.or_false]

end QuerySetting

section Final

open QuerySetting

variable (pairs : List (String × String))

/-- What the last parameter of a key writes is there in the end. -/
theorem final_lastValue {γ : Type} (project : QueryState → γ) {key : String}
    (written : String → γ)
    (keeps : ∀ (state : QueryState) (setting : QuerySetting), setting.key ∉ [key] →
      project (setting.changeForgotten state) = project state)
    (writes : ∀ state value, project (turn state (key, value)) = written value)
    (state : QueryState) :
    project (pairs.foldl turn state) =
      ((lastValue pairs key).map written).getD (project state) := by
  induction pairs using List.reverseRecOn with
  | nil => rfl
  | append_singleton pairs pair ih =>
      rcases pair with ⟨name, value⟩
      rw [List.foldl_append, lastValue_append]
      by_cases same : name = key
      · subst same
        rw [Function.update_self]
        exact writes _ _
      · rw [Function.update_of_ne (Ne.symm same), ← ih]
        exact turn_keeps keeps (by simpa using same) _

theorem final_encryptionCipher {start : TursoConnectOptions} :
    (pairs.foldl turn ⟨start, none, none, none⟩).encryptionCipher =
      lastValue pairs "encryption_cipher" := by
  rw [final_lastValue pairs QueryState.encryptionCipher some keeps_encryptionCipher fun _ _ => rfl]
  cases lastValue pairs "encryption_cipher" <;> rfl

theorem final_encryptionHexkey {start : TursoConnectOptions} :
    (pairs.foldl turn ⟨start, none, none, none⟩).encryptionHexkey =
      lastValue pairs "encryption_hexkey" := by
  rw [final_lastValue pairs QueryState.encryptionHexkey some keeps_encryptionHexkey fun _ _ => rfl]
  cases lastValue pairs "encryption_hexkey" <;> rfl

/-- With sync settings there is a remote URL in the end if the last one that is given is not
empty. -/
theorem final_sync_iff (allRead : ∀ pair ∈ pairs, ∃ setting, read pair = .ok setting)
    {start : TursoConnectOptions} :
    (∀ sync, (pairs.foldl turn ⟨start, none, none, none⟩).sync = some sync →
      sync.remoteUrl ≠ "") ↔
      (∃ remoteUrl, lastValue pairs "sync_remote_url" = some remoteUrl ∧ remoteUrl ≠ "") ∨
        ∀ pair ∈ pairs, pair.1 ∉ syncKeys := by
  have isSome := final_sync_isSome allRead ⟨start, none, none, none⟩
  rw [Option.isSome_none, Bool.false_or] at isSome
  have isRemote := final_lastValue pairs (·.syncOrDefault.remoteUrl) id keeps_remoteUrl
    (fun _ _ => rfl) ⟨start, none, none, none⟩
  cases isSync : (pairs.foldl turn ⟨start, none, none, none⟩).sync with
  | none =>
      rw [isSync, Option.isSome_none, eq_comm, List.any_eq_false] at isSome
      exact iff_of_true (fun _ isSync => nomatch isSync)
        (.inr fun pair isMember => by simpa using isSome pair isMember)
  | some sync =>
      rw [isSync, Option.isSome_some, eq_comm, List.any_eq_true] at isSome
      obtain ⟨pair, isMember, isSyncKey⟩ := isSome
      have given : ¬ ∀ pair ∈ pairs, pair.1 ∉ syncKeys :=
        fun none => none pair isMember (by simpa using isSyncKey)
      have last : sync.remoteUrl = (lastValue pairs "sync_remote_url").getD "" := by
        rw [QueryState.syncOrDefault, isSync, Option.map_id] at isRemote
        exact isRemote
      rw [or_iff_left given]
      cases isLast : lastValue pairs "sync_remote_url" with
      | none => simp [last, isLast]
      | some remoteUrl => simp [last, isLast]

variable {pairs}

theorem final_inMemory (isMember : ("mode", "memory") ∈ pairs) (state : QueryState) :
    (pairs.foldl turn state).options.target.isMemory = true := by
  have raised := foldl_any (fun state : QueryState => state.options.target.isMemory) pairs
    (fun pair _ state => turn_isMemory state pair) state
  rw [raised, List.any_eq_true.mpr ⟨_, isMember, decide_eq_true rfl⟩, Bool.or_true]

theorem final_target (notMember : ("mode", "memory") ∉ pairs) (state : QueryState) :
    (pairs.foldl turn state).options.target = state.options.target :=
  @foldl_kept _ _ _ turn (·.options.target) pairs
    (fun _ isMember state => turn_target state fun isMemory => notMember (isMemory ▸ isMember))
    state

/-- The loop and the checks after it let these parameters pass for a file. -/
theorem acceptedForFile_iff {start : TursoConnectOptions} {path : String}
    (isFile : start.target = .file path) :
    (∃ options, (do
        let _ ← readAll pairs
        finishQuery (pairs.foldl turn ⟨start, none, none, none⟩)) = .ok options ∧
          options.target = .file path) ↔
      AcceptedForFile pairs := by
  constructor
  · rintro ⟨options, finished, stays⟩
    cases allRead : readAll pairs with
    | error error =>
        rw [allRead] at finished
        cases finished
    | ok settings =>
        rw [allRead] at finished
        have read := readAll_isOk_iff.mp ⟨settings, allRead⟩
        obtain ⟨encryption, sync⟩ := (finishQuery_isOk_iff _).mp ⟨options, finished⟩
        rw [final_encryptionCipher, final_encryptionHexkey] at encryption
        refine ⟨read, encryption, (final_sync_iff pairs read).mp sync, fun isMember => ?_⟩
        have isMemory := final_inMemory isMember ⟨start, none, none, none⟩
        obtain ⟨_, _, rfl⟩ := finishQuery_options finished
        rw [stays] at isMemory
        cases isMemory
  · rintro ⟨read, encryption, sync, keepsFile⟩
    obtain ⟨settings, allRead⟩ := readAll_isOk_iff.mpr read
    rw [← final_encryptionCipher, ← final_encryptionHexkey] at encryption
    obtain ⟨options, finished⟩ := (finishQuery_isOk_iff _).mpr
      ⟨encryption, (final_sync_iff pairs read).mpr sync⟩
    rw [allRead]
    refine ⟨options, finished, ?_⟩
    obtain ⟨_, _, rfl⟩ := finishQuery_options finished
    exact (final_target keepsFile ⟨start, none, none, none⟩).trans isFile

end Final

end SqlxTurso
