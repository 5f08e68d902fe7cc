import SqlxTurso.Driver
import SqlxTurso.Library.InPlace
import SqlxTurso.Options.Restored

/-!
# Settings that are made more than once

The builder tells settings apart by their exact names and the engine up to case.  A call
replaces the value under its own spelling, where that spelling was first written, and the
engine keeps the value that comes last in the list.
-/

namespace SqlxTurso

open Library

/-! ## Calls of the builder -/

/-- A call that makes a setting. -/
inductive PragmaCall where
  | pragma (key : String) (value : Option String)
  | mvcc (enabled : Bool)
  deriving DecidableEq, Repr

namespace PragmaCall

/-- The setting that a call makes. -/
def entry : PragmaCall → String × Option String
  | pragma key value => (key, value)
  | mvcc enabled => ("journal_mode", if enabled then some "'mvcc'" else none)

def apply (options : TursoConnectOptions) : PragmaCall → TursoConnectOptions
  | pragma key value => options.pragma key value
  | mvcc enabled => options.mvcc enabled

end PragmaCall

/-- The default options after some calls. -/
def configured (process : Process) (calls : List PragmaCall) : TursoConnectOptions :=
  calls.foldl PragmaCall.apply (TursoConnectOptions.default process).1

/-- The name of a setting, up to case. -/
def foldedName (name : String) : List Char := name.toList.map Char.toLower

/-- The statements that a future of the driver executes on an engine that accepts them. -/
def executedStatements {α : Type} :
    Future Driver.Request Driver.Response α → List (String × String)
  | .ask (.pragmaUpdate _ key value) next => (key, value) :: executedStatements (next (.ok ()))
  | _ => []

/-- The statements that set a new connection up. -/
def setupStatements (options : TursoConnectOptions) (connection : Turso.Connection) :
    List (String × String) :=
  executedStatements (TursoDriver.applyConnectionOptions options connection).run

/-- The setting in effect under a name, if a statement has made one. -/
def effective (statements : List (String × String)) (name : List Char) : Option String :=
  ((statements.filter fun statement => foldedName statement.1 = name).map Prod.snd).getLast?

/-- The value of the last call for a name, if there is a call for it. -/
def lastCall (calls : List PragmaCall) (name : List Char) : Option (Option String) :=
  ((calls.filter fun call => foldedName call.entry.1 = name).map fun call =>
    call.entry.2).getLast?

/-- The last call for each name wins: its value is in effect, and if it has none then no
statement is executed for the name. -/
def LastCallWins (calls : List PragmaCall) (statements : List (String × String)) : Prop :=
  ∀ call ∈ calls,
    lastCall calls (foldedName call.entry.1) =
        some (effective statements (foldedName call.entry.1)) ∧
      (lastCall calls (foldedName call.entry.1) = some none → ∀ statement ∈ statements,
        foldedName statement.1 ≠ foldedName call.entry.1)

/-! ## The list of settings -/

theorem setPragma_eq (key : String) (value : Option String)
    (list : List (String × Option String)) :
    TursoConnectOptions.setPragma key value list = replace key value list := by
  induction list with
  | nil => rfl
  | cons entry rest ih =>
      rcases entry with ⟨name, existing⟩
      rw [TursoConnectOptions.setPragma, replace, ih]

theorem PragmaCall.pragmas_apply (options : TursoConnectOptions) (call : PragmaCall) :
    (call.apply options).pragmas = replace call.entry.1 call.entry.2 options.pragmas := by
  rw [← setPragma_eq]
  cases call with
  | pragma key value => rfl
  | mvcc enabled => cases enabled <;> rfl

/-- The settings that were ever made, in their order: the default ones come first. -/
def history (calls : List PragmaCall) : List (String × Option String) :=
  defaultPragmas ++ calls.map PragmaCall.entry

theorem written_defaultPragmas : written defaultPragmas = defaultPragmas := by decide

theorem pragmas_configured (process : Process) (calls : List PragmaCall) :
    (configured process calls).pragmas = written (history calls) := by
  have start : (TursoConnectOptions.default process).1.pragmas = written defaultPragmas :=
    written_defaultPragmas.symm
  unfold configured history
  induction calls using List.reverseRecOn with
  | nil =>
      rw [List.map_nil, List.append_nil]
      exact start
  | append_singleton calls call ih =>
      rw [List.foldl_append, List.foldl_cons, List.foldl_nil, PragmaCall.pragmas_apply, ih,
        List.map_append, ← List.append_assoc]
      exact (written_append _ _ _).symm

theorem busyTimeout_configured (process : Process) (calls : List PragmaCall) :
    (configured process calls).busyTimeout = defaultBusyTimeout := by
  unfold configured
  induction calls using List.reverseRecOn with
  | nil => rfl
  | append_singleton calls call ih =>
      rw [List.foldl_append, List.foldl_cons, List.foldl_nil, ← ih]
      cases call with
      | pragma key value => rfl
      | mvcc enabled => cases enabled <;> rfl

/-! ## The statements -/

theorem executedStatements_applyPragmas (connection : Turso.Connection)
    (pragmas : List (String × Option String)) :
    executedStatements (TursoDriver.applyPragmas connection pragmas).run =
      pragmas.filterMap fun (name, value) => value.map ((name, ·)) := by
  induction pragmas with
  | nil => rfl
  | cons pragma rest ih =>
      rcases pragma with ⟨name, _ | value⟩
      · exact ih
      · exact congrArg ((name, value) :: ·) ih

theorem setupStatements_eq (options : TursoConnectOptions) (connection : Turso.Connection) :
    setupStatements options connection =
      ("busy_timeout", toString options.busyTimeout.asMillis) :: options.executedPragmas :=
  congrArg (_ :: ·) (executedStatements_applyPragmas connection options.pragmas)

/-- The value that the list holds for a name in the end: of its spellings that have a
value, that of the one which was first written last. -/
def keptValue (calls : List PragmaCall) (name : List Char) : Option String :=
  (((firstKeys (history calls)).filter fun key => foldedName key = name).filterMap fun key =>
    (lastValue (history calls) key).join).getLast?

theorem map_snd_filter_entries {Key Value : Type} (values : Key → Option Value)
    (wanted : Key → Bool) (keys : List Key) :
    ((entriesOf values keys).filter fun entry => wanted entry.1).map Prod.snd =
      (keys.filter wanted).filterMap values := by
  unfold entriesOf
  induction keys with
  | nil => rfl
  | cons key keys ih =>
      rw [List.filterMap_cons, List.filter_cons]
      cases isValue : values key with
      | none =>
          cases isWanted : wanted key <;> simp [ih, isValue]
      | some value =>
          cases isWanted : wanted key <;> simp [ih, isValue, isWanted]

theorem executedPragmas_configured (process : Process) (calls : List PragmaCall) :
    (configured process calls).executedPragmas =
      entriesOf (fun key => (lastValue (history calls) key).join) (firstKeys (history calls)) := by
  rw [TursoConnectOptions.executedPragmas, pragmas_configured, written_eq, entriesOf,
    List.filterMap_filterMap]
  apply List.filterMap_congr
  intro key _
  dsimp only
  cases lastValue (history calls) key with
  | none => rfl
  | some value => rfl

/-- The setting in effect on a new connection: that of the list, or else the timeout that
is set before it. -/
theorem effective_setup (process : Process) (calls : List PragmaCall)
    (connection : Turso.Connection) (name : List Char) :
    effective (setupStatements (configured process calls) connection) name =
      (keptValue calls name).or (if foldedName "busy_timeout" = name then
        some (toString defaultBusyTimeout.asMillis) else none) := by
  have listed := map_snd_filter_entries
    (fun key => (lastValue (history calls) key).join) (fun key => foldedName key = name)
    (firstKeys (history calls))
  rw [effective, setupStatements_eq, busyTimeout_configured, executedPragmas_configured,
    List.filter_cons]
  by_cases isTimeout : foldedName "busy_timeout" = name
  · rw [if_pos (by simpa using isTimeout), if_pos isTimeout, List.map_cons, listed,
      List.getLast?_cons, keptValue]
    cases List.getLast? _ <;> rfl
  · rw [if_neg (by simpa using isTimeout), if_neg isTimeout, listed, keptValue,
      Option.or_none]

/-! ## The last call -/

/-- A value of the last call for a name is the last one under the spelling of that call. -/
theorem exists_lastValue_of_lastCall {calls : List PragmaCall} {name : List Char}
    {value : Option String} (isLast : lastCall calls name = some value) :
    ∃ key, foldedName key = name ∧ lastValue (history calls) key = some value := by
  induction calls using List.reverseRecOn with
  | nil => cases isLast
  | append_singleton calls call ih =>
      have grown : history (calls ++ [call]) = history calls ++ [(call.entry.1, call.entry.2)] := by
        simp [history]
      by_cases named : foldedName call.entry.1 = name
      · have sameValue : call.entry.2 = value := by simpa [lastCall, named] using isLast
        refine ⟨call.entry.1, named, ?_⟩
        rw [grown, lastValue_append, Function.update_self, sameValue]
      · have earlier : lastCall calls name = some value := by
          simpa [lastCall, named] using isLast
        obtain ⟨key, isName, isValue⟩ := ih earlier
        refine ⟨key, isName, ?_⟩
        have differs : key ≠ call.entry.1 := fun same => named (same ▸ isName)
        rw [grown, lastValue_append, Function.update_of_ne differs, isValue]

theorem isSome_keptValue {calls : List PragmaCall} {name : List Char} {value : String}
    (isLast : lastCall calls name = some (some value)) :
    (keptValue calls name).isSome = true := by
  obtain ⟨key, isName, isValue⟩ := exists_lastValue_of_lastCall isLast
  have known : key ∈ firstKeys (history calls) := by
    rw [mem_firstKeys_iff, isValue]
    rfl
  rw [keptValue, List.getLast?_isSome]
  apply List.ne_nil_of_mem (a := value)
  rw [List.mem_filterMap]
  exact ⟨key, List.mem_filter.mpr ⟨known, by simpa using isName⟩, by rw [isValue]; rfl⟩

theorem effective_eq_none_iff {statements : List (String × String)} {name : List Char} :
    effective statements name = none ↔ ∀ statement ∈ statements,
      foldedName statement.1 ≠ name := by
  simp [effective]

/-- For each name that is set, the value that is kept of its spellings is that of the last
call, and the timeout is not left without one. -/
def SpellingsAgree (calls : List PragmaCall) : Prop :=
  ∀ call ∈ calls,
    lastCall calls (foldedName call.entry.1) =
        some (keptValue calls (foldedName call.entry.1)) ∧
      (keptValue calls (foldedName call.entry.1) = none →
        foldedName call.entry.1 ≠ foldedName "busy_timeout")

instance (calls : List PragmaCall) : Decidable (SpellingsAgree calls) := by
  unfold SpellingsAgree
  infer_instance

/-- The last call for each name wins exactly when the spellings of each name agree. -/
theorem lastCallWins_iff (process : Process) (calls : List PragmaCall)
    (connection : Turso.Connection) :
    LastCallWins calls (setupStatements (configured process calls) connection) ↔
      SpellingsAgree calls := by
  apply forall₂_congr
  intro call _
  rw [← effective_eq_none_iff, effective_setup]
  generalize foldedName call.entry.1 = name
  cases isKept : keptValue calls name with
  | some value =>
      rw [Option.some_or]
      apply and_congr_right
      intro isLast
      simp [isLast]
  | none =>
      by_cases isTimeout : foldedName "busy_timeout" = name
      · -- The timeout is set before the list, so a value of the list would have replaced it.
        have notLast : lastCall calls name ≠ some (some (toString defaultBusyTimeout.asMillis)) := by
          intro isLast
          have isSome := isSome_keptValue isLast
          rw [isKept] at isSome
          cases isSome
        rw [if_pos isTimeout]
        constructor
        · intro wins
          exact absurd wins.1 notLast
        · intro agree
          exact absurd isTimeout.symm (agree.2 rfl)
      · rw [if_neg isTimeout]
        constructor
        · intro wins
          exact ⟨wins.1, fun _ => Ne.symm isTimeout⟩
        · intro agree
          exact ⟨agree.1, fun _ => rfl⟩

/-- The last call is for a spelling that was written first, and the engine keeps the value
of the other one. -/
theorem lastCall_loses_to_spelling :
    ¬ LastCallWins [.pragma "Foreign_Keys" (some "OFF"), .pragma "foreign_keys" (some "ON")]
      (setupStatements (configured ⟨0, 0⟩
        [.pragma "Foreign_Keys" (some "OFF"), .pragma "foreign_keys" (some "ON")]) ⟨0⟩) := by
  intro wins
  have isLast := (wins (.pragma "foreign_keys" (some "ON")) (by simp)).1
  rw [effective_setup] at isLast
  revert isLast
  decide

end SqlxTurso
