import SqlxTurso.Library.PlainUrls
import SqlxTurso.Options.Settings

/-!
# In-memory identity

The name of an in-memory target and the state that its connections share are kept in two
fields.  Both are issued together, and no builder mixes what was issued at different
times, however the options of a process are derived from each other.
-/

namespace SqlxTurso

open Library

/-- A builder call with its argument. -/
inductive Builder where
  | filename (path : String)
  | inMemory (flag : Bool)
  | readOnly (flag : Bool)
  | createIfMissing (flag : Bool)
  | sharedCache (flag : Bool)
  | immutable (flag : Bool)
  | busyTimeout (timeout : Duration)
  | statementCacheCapacity (capacity : Nat)
  | vfs (name : String)
  | customIo (io : TursoIo)
  | clearCustomIo
  | encryptionOptions (encryption : TursoEncryptionOptions)
  | clearEncryption
  | withSyncOptions (sync : TursoSyncOptions)
  | clearSyncOptions
  | experimentalFeature (feature : TursoExperimentalFeature) (enabled : Bool)
  | mvcc (enabled : Bool)
  | pragma (key : String) (value : Option String)
  deriving DecidableEq

namespace Builder

variable (options : TursoConnectOptions)

def apply : Builder → StateM Process TursoConnectOptions
  | filename path => pure (options.filename path)
  | inMemory flag => options.inMemory flag
  | readOnly flag => pure (options.readOnly flag)
  | createIfMissing flag => pure (options.createIfMissing flag)
  | sharedCache flag => pure (options.sharedCache flag)
  | immutable flag => pure (options.withImmutable flag)
  | busyTimeout timeout => pure (options.withBusyTimeout timeout)
  | statementCacheCapacity capacity => pure (options.withStatementCacheCapacity capacity)
  | vfs name => pure (options.withVfs name)
  | customIo io => pure (options.withCustomIo io)
  | clearCustomIo => pure options.clearCustomIo
  | encryptionOptions encryption => pure (options.encryptionOptions encryption)
  | clearEncryption => pure options.clearEncryption
  | withSyncOptions sync => pure (options.withSyncOptions sync)
  | clearSyncOptions => pure options.clearSyncOptions
  | experimentalFeature feature enabled => pure (options.experimentalFeature feature enabled)
  | mvcc enabled => pure (options.mvcc enabled)
  | pragma key value => pure (options.pragma key value)

end Builder

/-- The options that a process holds, in any order. -/
structure Family where
  process : Process
  members : List TursoConnectOptions

/-- The ways to come by options: defaults, URLs, and a builder call on a clone of options
that are there. -/
inductive Family.Step (crate : UrlCrate) (family : Family) : Family → Prop where
  | default :
      Step crate family
        ⟨(TursoConnectOptions.default family.process).2,
          (TursoConnectOptions.default family.process).1 :: family.members⟩
  | accepted {url : Bytes} {options : TursoConnectOptions} {after : Process}
      (parsed : TursoConnectOptions.fromStr crate url family.process = (.ok options, after)) :
      Step crate family ⟨after, options :: family.members⟩
  | rejected {url : Bytes} {error : SqlxError} {after : Process}
      (parsed : TursoConnectOptions.fromStr crate url family.process = (.error error, after)) :
      Step crate family ⟨after, family.members⟩
  | built {member : TursoConnectOptions} (isMember : member ∈ family.members)
      (builder : Builder) :
      Step crate family
        ⟨(builder.apply member family.process).2,
          (builder.apply member family.process).1 :: family.members⟩

/-- The families that a process comes to from its start. -/
inductive Family.Reaches (crate : UrlCrate) (start : Process) : Family → Prop where
  | start : Reaches crate start ⟨start, []⟩
  | step {family next : Family} (reached : Reaches crate start family)
      (moved : family.Step crate next) : Reaches crate start next

/-! ## What is issued -/

/-- The process after so many in-memory targets. -/
def Process.after (start : Process) (count : Nat) : Process where
  inMemoryDbSeq := start.inMemoryDbSeq + count
  nextMemoryState := start.nextMemoryState + count

/-- The state of the options is one of those issued, and if they are in memory their
target is the one that was issued with it. -/
def Issued (start : Process) (count : Nat) (options : TursoConnectOptions) : Prop :=
  ∃ turn < count,
    options.memoryState = (TursoMemoryState.new (start.after turn)).1 ∧
      (options.target.isMemory = true → options.target = (newMemoryTarget (start.after turn)).1)

/-- The action issues any number of in-memory targets, and its result has the property. -/
def Draws {β : Type} (start : Process) (count : Nat) (action : StateM Process β)
    (holds : Nat → β → Prop) : Prop :=
  ∃ later, count ≤ later ∧ (action (start.after count)).2 = start.after later ∧
    holds later (action (start.after count)).1

/-- As above, and the result has the property if there is one. -/
def DrawsOk {β : Type} (start : Process) (count : Nat) (action : Fallible β)
    (holds : Nat → β → Prop) : Prop :=
  Draws start count action.run fun later result => ∀ value, result = .ok value →
    holds later value

section Rules

variable {α β : Type} {start : Process} {count : Nat}

theorem Issued.mono {options : TursoConnectOptions} (issued : Issued start count options)
    {later : Nat} (atLeast : count ≤ later) : Issued start later options := by
  obtain ⟨turn, before, sameState, sameTarget⟩ := issued
  exact ⟨turn, Nat.lt_of_lt_of_le before atLeast, sameState, sameTarget⟩

/-- Options that share target and state with issued ones are issued too. -/
theorem Issued.of_same {options other : TursoConnectOptions}
    (issued : Issued start count options) (sameTarget : other.target = options.target)
    (sameState : other.memoryState = options.memoryState) : Issued start count other := by
  rw [Issued, sameTarget, sameState]
  exact issued

theorem Draws.pure {value : β} {holds : Nat → β → Prop} (held : holds count value) :
    Draws start count (Pure.pure value) holds :=
  ⟨count, Nat.le_refl _, rfl, held⟩

theorem DrawsOk.ofExcept {result : Except SqlxError β} {holds : Nat → β → Prop}
    (held : ∀ value, result = .ok value → holds count value) :
    DrawsOk start count (.ofExcept result) holds :=
  ⟨count, Nat.le_refl _, rfl, held⟩

theorem DrawsOk.ofState {action : StateM Process β} {holds : Nat → β → Prop}
    (draws : Draws start count action holds) :
    DrawsOk start count (.ofState action) holds := by
  obtain ⟨later, atLeast, isAfter, held⟩ := draws
  refine ⟨later, atLeast, isAfter, ?_⟩
  rintro _ ⟨⟩
  exact held

theorem DrawsOk.bind {action : Fallible α} {next : α → Fallible β}
    {between : Nat → α → Prop} {holds : Nat → β → Prop}
    (first : DrawsOk start count action between)
    (second : ∀ later value, count ≤ later → between later value →
      DrawsOk start later (next value) holds) :
    DrawsOk start count (action >>= next) holds := by
  obtain ⟨later, atLeast, isAfter, held⟩ := first
  rcases ran : action (start.after count) with ⟨result, after⟩
  have isLater : after = start.after later := by
    rw [← isAfter]
    exact (congrArg Prod.snd ran).symm
  have bound := Fallible.run_bind action next (start.after count)
  rw [ran] at bound
  cases result with
  | error error =>
      refine ⟨later, atLeast, ?_, ?_⟩
      · exact (congrArg Prod.snd bound).trans isLater
      · intro value isOk
        exact nomatch (congrArg Prod.fst bound).symm.trans isOk
  | ok value =>
      obtain ⟨last, atLeastLater, isLast, heldLast⟩ :=
        second later value atLeast (held value (congrArg Prod.fst ran))
      refine ⟨last, Nat.le_trans atLeast atLeastLater, ?_, ?_⟩
      · rw [← isLast, ← isLater]
        exact congrArg Prod.snd bound
      · rw [← isLater] at heldLast
        intro result isOk
        exact heldLast result ((congrArg Prod.fst bound).symm.trans isOk)

end Rules

/-! ## What each operation issues -/

section Operations

variable {start : Process} {count : Nat}

/-- The next in-memory target is issued with its state. -/
theorem Issued.next {options : TursoConnectOptions}
    (isState : options.memoryState = (TursoMemoryState.new (start.after count)).1)
    (isTarget : options.target = (newMemoryTarget (start.after count)).1) :
    Issued start (count + 1) options :=
  ⟨count, Nat.lt_succ_self count, isState, fun _ => isTarget⟩

theorem default_draws :
    Draws start count TursoConnectOptions.default (Issued start) :=
  ⟨count + 1, Nat.le_succ count, rfl, .next rfl rfl⟩

theorem inMemory_true_draws (options : TursoConnectOptions) :
    Draws start count (options.inMemory true) (Issued start) :=
  ⟨count + 1, Nat.le_succ count, rfl, .next rfl rfl⟩

/-- Leaving memory mode keeps the state, which no target goes with any more. -/
theorem inMemory_false_draws {options : TursoConnectOptions}
    (issued : Issued start count options) :
    Draws start count (options.inMemory false) (Issued start) := by
  cases isMemory : options.target.isMemory with
  | true =>
      have left : options.inMemory false = pure
          { options with target := .file ":memory:", cacheMode := .privateCache } := by
        simp [TursoConnectOptions.inMemory, isMemory]
      obtain ⟨turn, before, sameState, _⟩ := issued
      rw [left]
      exact .pure ⟨turn, before, sameState, fun stays => nomatch stays⟩
  | false =>
      have same : options.inMemory false = pure options := by
        simp [TursoConnectOptions.inMemory, isMemory]
      rw [same]
      exact .pure issued

/-- A builder call issues a new target only to enter memory mode. -/
theorem Builder.draws (builder : Builder) {options : TursoConnectOptions}
    (issued : Issued start count options) :
    Draws start count (builder.apply options) (Issued start) := by
  cases builder with
  | filename path =>
      obtain ⟨turn, before, sameState, _⟩ := issued
      exact .pure ⟨turn, before, sameState, fun isMemory => nomatch isMemory⟩
  | inMemory flag =>
      cases flag with
      | true => exact inMemory_true_draws options
      | false => exact inMemory_false_draws issued
  | mvcc enabled => cases enabled <;> exact .pure (issued.of_same rfl rfl)
  | _ => exact .pure (issued.of_same rfl rfl)

theorem QuerySetting.draws (setting : QuerySetting) {state : QueryState}
    (issued : Issued start count state.options) :
    Draws start count (setting.apply state) fun later after =>
      Issued start later after.options := by
  unfold QuerySetting.apply
  split
  next => exact ⟨count + 1, Nat.le_succ count, rfl, .next rfl rfl⟩
  next =>
    obtain ⟨sameTarget, sameState⟩ := setting.change_target state
    exact .pure (issued.of_same sameTarget sameState)

theorem applyQueryParam_draws (state : QueryState) (pair : String × String)
    (issued : Issued start count state.options) :
    DrawsOk start count (applyQueryParam state pair) fun later after =>
      Issued start later after.options := by
  have isRead : DrawsOk start count (.ofExcept (QuerySetting.read pair)) fun later _ =>
      Issued start later state.options := .ofExcept fun _ _ => issued
  rw [QuerySetting.applyQueryParam_eq]
  exact isRead.bind fun later setting _ stillIssued => .ofState (setting.draws stillIssued)

theorem foldlM_draws (pairs : List (String × String)) (state : QueryState)
    (issued : Issued start count state.options) :
    DrawsOk start count (pairs.foldlM applyQueryParam state) fun later after =>
      Issued start later after.options := by
  induction pairs generalizing state count with
  | nil => exact DrawsOk.ofExcept fun _ isOk => Except.ok.inj isOk ▸ issued
  | cons pair pairs ih =>
      rw [List.foldlM_cons]
      exact (applyQueryParam_draws state pair issued).bind fun later after _ stillIssued =>
        ih after stillIssued

variable {crate : UrlCrate}

theorem applyQueryParams_draws {options : TursoConnectOptions}
    (issued : Issued start count options) (params : Bytes) :
    DrawsOk start count (options.applyQueryParams crate params) (Issued start) := by
  refine (foldlM_draws _ options.queryState issued).bind fun later state _ stillIssued => ?_
  refine .ofExcept fun finished isFinished => ?_
  obtain ⟨encryption, sync, rfl⟩ := finishQuery_options isFinished
  exact stillIssued.of_same rfl rfl

theorem forDatabase_draws (database : Bytes) :
    DrawsOk start count (TursoConnectOptions.forDatabase crate database) (Issued start) := by
  refine DrawsOk.bind (.ofState default_draws) fun later options _ issued => ?_
  have filename : ∀ path, DrawsOk start later (pure (options.filename path)) (Issued start) :=
    fun path => .ofState (Builder.draws (.filename path) issued)
  split
  next => exact filename ""
  split
  next => exact .ofState (inMemory_true_draws options)
  split
  next path _ => exact filename path
  next => exact DrawsOk.ofExcept fun _ isOk => nomatch isOk

theorem fromDbAndParams_draws (database : Bytes) (params : Option Bytes) :
    DrawsOk start count (TursoConnectOptions.fromDbAndParams crate database params)
      (Issued start) := by
  rw [TursoConnectOptions.fromDbAndParams_parts]
  refine DrawsOk.bind (forDatabase_draws database) fun later options _ issued => ?_
  cases params with
  | none => exact DrawsOk.ofExcept fun _ isOk => Except.ok.inj isOk ▸ issued
  | some params => exact applyQueryParams_draws issued params

theorem fromStr_draws (url : Bytes) :
    DrawsOk start count (TursoConnectOptions.fromStr crate url) (Issued start) := by
  unfold TursoConnectOptions.fromStr
  split
  next => exact DrawsOk.ofExcept fun _ isOk => nomatch isOk
  next => exact fromDbAndParams_draws _ _

end Operations

/-! ## Families -/

section Families

variable {crate : UrlCrate} {start : Process}

/-- Every member was issued, and the process counts what it issues. -/
structure Family.WellIssued (start : Process) (family : Family) (count : Nat) : Prop where
  process : family.process = start.after count
  members : ∀ member ∈ family.members, Issued start count member

theorem Family.WellIssued.grows {family : Family} {count : Nat}
    (wellIssued : family.WellIssued start count) {later : Nat} (atLeast : count ≤ later)
    {options : TursoConnectOptions} (issued : Issued start later options) :
    Family.WellIssued start ⟨start.after later, options :: family.members⟩ later where
  process := rfl
  members := by
    intro member isMember
    rcases List.mem_cons.mp isMember with isNew | wasMember
    · exact isNew ▸ issued
    · exact (wellIssued.members member wasMember).mono atLeast

/-- Each way to come by options issues what the options have. -/
theorem Family.WellIssued.step {family next : Family} {count : Nat}
    (wellIssued : family.WellIssued start count) (moved : family.Step crate next) :
    ∃ later, next.WellIssued start later := by
  rcases family with ⟨process, members⟩
  cases wellIssued.process
  cases moved with
  | default =>
      have draws : Draws start count TursoConnectOptions.default (Issued start) := default_draws
      obtain ⟨later, atLeast, isAfter, issued⟩ := draws
      exact ⟨later, isAfter ▸ wellIssued.grows atLeast issued⟩
  | @accepted url options after parsed =>
      have draws : DrawsOk start count (TursoConnectOptions.fromStr crate url) (Issued start) :=
        fromStr_draws url
      obtain ⟨later, atLeast, isAfter, issued⟩ := draws
      have sameAfter : after = start.after later := (congrArg Prod.snd parsed).symm.trans isAfter
      rw [sameAfter]
      exact ⟨later, wellIssued.grows atLeast (issued options (congrArg Prod.fst parsed))⟩
  | @rejected url error after parsed =>
      have draws : DrawsOk start count (TursoConnectOptions.fromStr crate url) (Issued start) :=
        fromStr_draws url
      obtain ⟨later, atLeast, isAfter, _⟩ := draws
      have sameAfter : after = start.after later := (congrArg Prod.snd parsed).symm.trans isAfter
      exact ⟨later, sameAfter, fun member isMember =>
        (wellIssued.members member isMember).mono atLeast⟩
  | @built member isMember builder =>
      obtain ⟨later, atLeast, isAfter, issued⟩ :=
        builder.draws (wellIssued.members member isMember)
      exact ⟨later, isAfter ▸ wellIssued.grows atLeast issued⟩

theorem Family.Reaches.wellIssued {family : Family} (reached : family.Reaches crate start) :
    ∃ count, family.WellIssued start count := by
  induction reached with
  | start => exact ⟨0, rfl, fun member isMember => absurd isMember List.not_mem_nil⟩
  | step _ moved ih =>
      obtain ⟨count, wellIssued⟩ := ih
      exact wellIssued.step moved

/-- Targets issued at different times have different names. -/
theorem newMemoryTarget_injective {first second : Nat}
    (same : (newMemoryTarget (start.after first)).1 = (newMemoryTarget (start.after second)).1) :
    first = second := by
  have sameName := (String.append_right_inj _).mp (TursoDatabaseTarget.memory.inj same)
  have sameRepr : (start.inMemoryDbSeq + first).repr = (start.inMemoryDbSeq + second).repr :=
    sameName
  have sameDigits := congrArg (fun text => Nat.ofDigitChars 10 text.toList 0) sameRepr
  simp only [Nat.toList_repr, Nat.ofDigitChars_ten_toDigits] at sameDigits
  exact Nat.add_left_cancel sameDigits

theorem newMemoryState_injective {first second : Nat}
    (same : (TursoMemoryState.new (start.after first)).1 =
      (TursoMemoryState.new (start.after second)).1) : first = second :=
  Nat.add_left_cancel (TursoMemoryState.mk.inj same)

/-- Options in memory share their state exactly when they share their target. -/
theorem Issued.sameState_iff {count : Nat} {first second : TursoConnectOptions}
    (firstIssued : Issued start count first) (secondIssued : Issued start count second)
    (firstMemory : first.target.isMemory = true) (secondMemory : second.target.isMemory = true) :
    first.memoryState = second.memoryState ↔ first.target = second.target := by
  obtain ⟨turn, _, firstState, firstTarget⟩ := firstIssued
  obtain ⟨other, _, secondState, secondTarget⟩ := secondIssued
  rw [firstState, secondState, firstTarget firstMemory, secondTarget secondMemory]
  constructor
  · intro same
    rw [newMemoryState_injective same]
  · intro same
    rw [newMemoryTarget_injective same]

/-- A reset issues a state and a target that no options have, not even options that left
memory mode. -/
theorem Issued.reset_differs {count : Nat} {options other : TursoConnectOptions}
    (otherIssued : Issued start count other) :
    (options.inMemory true (start.after count)).1.memoryState ≠ other.memoryState ∧
      (options.inMemory true (start.after count)).1.target ≠ other.target := by
  obtain ⟨turn, before, otherState, otherTarget⟩ := otherIssued
  constructor
  · intro same
    exact absurd (newMemoryState_injective (otherState.symm.trans same.symm)) (Nat.ne_of_lt before)
  · intro same
    have isMemory : other.target.isMemory = true := by
      rw [← same]
      rfl
    exact absurd (newMemoryTarget_injective ((otherTarget isMemory).symm.trans same.symm))
      (Nat.ne_of_lt before)

/-- A builder call that does not reset leaves memory mode, or else keeps the identity. -/
theorem Builder.keeps_identity {builder : Builder} (noReset : builder ≠ .inMemory true)
    {options : TursoConnectOptions} {process : Process}
    (staysInMemory : (builder.apply options process).1.target.isMemory = true) :
    (builder.apply options process).1.target = options.target ∧
      (builder.apply options process).1.memoryState = options.memoryState := by
  cases builder with
  | filename path => cases staysInMemory
  | inMemory flag =>
      cases flag with
      | true => exact absurd rfl noReset
      | false =>
          simp only [apply, TursoConnectOptions.inMemory, Bool.false_eq_true, ↓reduceIte]
            at staysInMemory ⊢
          split at staysInMemory
          next => cases staysInMemory
          next isFile => rw [if_neg isFile]; exact ⟨rfl, rfl⟩
  | mvcc enabled => cases enabled <;> exact ⟨rfl, rfl⟩
  | _ => exact ⟨rfl, rfl⟩

end Families

/-! ## What every builder keeps -/

section Kept

/-- A property of default options that each builder and the end of a query keep. -/
structure Builder.Keep (holds : TursoConnectOptions → Prop) : Prop where
  default : ∀ process, holds (TursoConnectOptions.default process).1
  built : ∀ (builder : Builder) options process, holds options →
    holds (builder.apply options process).1
  finished : ∀ options encryption sync, holds options → holds { options with encryption, sync }

variable {crate : UrlCrate} {holds : TursoConnectOptions → Prop} (keep : Builder.Keep holds)

include keep

/-- A query setting is a builder call, or several ones. -/
theorem QuerySetting.keeps (setting : QuerySetting) {state : QueryState}
    (held : holds state.options) (process : Process) :
    holds (setting.apply state process).1.options := by
  unfold QuerySetting.apply
  split
  next => exact keep.built (.inMemory true) _ process held
  next notMemory =>
    cases setting with
    | mode mode =>
        cases mode with
        | readOnly => exact keep.built (.readOnly true) _ process held
        | readWrite => exact held
        | createIfMissing => exact keep.built (.createIfMissing true) _ process held
        | memory => exact absurd rfl notMemory
    | cache sharedCache => exact keep.built (.sharedCache sharedCache) _ process held
    | immutable flag => exact keep.built (.immutable flag) _ process held
    | vfs name => exact keep.built (.vfs name) _ process held
    | journalMode value =>
        exact keep.built (.pragma "journal_mode" (some value)) _ process held
    | experimental features =>
        have kept : ∀ options, holds options →
            holds (features.foldl (·.experimentalFeature · true) options) := by
          clear notMemory
          induction features with
          | nil => exact fun _ => id
          | cons feature features ih =>
              intro options heldOf
              exact ih _ (keep.built (.experimentalFeature feature true) options process heldOf)
        exact kept _ held
    | _ => exact held

theorem forDatabase_keeps (database : Bytes) :
    (TursoConnectOptions.forDatabase crate database).Ensures holds := by
  have atStart : (Fallible.ofState TursoConnectOptions.default).Ensures holds := by
    rintro process options after ⟨⟩
    exact keep.default process
  refine Fallible.Ensures.bind atStart fun options held => ?_
  have filename : ∀ path, (pure (options.filename path) : Fallible _).Ensures holds :=
    fun path => .pure (keep.built (.filename path) options ⟨0, 0⟩ held)
  split
  next => exact filename ""
  split
  next =>
    rintro process entered after ⟨⟩
    exact keep.built (.inMemory true) options process held
  split
  next path _ => exact filename path
  next => exact .refuse _ _

theorem fromStr_keeps (url : Bytes) :
    (TursoConnectOptions.fromStr crate url).Ensures holds := by
  unfold TursoConnectOptions.fromStr
  split
  next => exact .refuse _ _
  rw [TursoConnectOptions.fromDbAndParams_parts]
  refine (forDatabase_keeps keep _).bind fun options held => ?_
  unfold TursoConnectOptions.withParams
  split
  next =>
    exact TursoConnectOptions.applyQueryParams_keeps
      (fun setting _ process heldOf => setting.keeps keep heldOf process) keep.finished held _
  next => exact .pure held

/-- What holds of default options and is kept by each builder holds of all options that a
process comes by. -/
theorem Family.Reaches.members_hold {start : Process} {family : Family}
    (reached : family.Reaches crate start) : ∀ member ∈ family.members, holds member := by
  induction reached with
  | start => exact fun member isMember => absurd isMember List.not_mem_nil
  | @step family next _ moved ih =>
      cases moved with
      | default => exact List.forall_mem_cons.mpr ⟨keep.default _, ih⟩
      | @accepted url options after parsed =>
          have heldOf : (TursoConnectOptions.fromStr crate url).Ensures holds :=
            fromStr_keeps keep url
          exact List.forall_mem_cons.mpr ⟨heldOf _ _ _ parsed, ih⟩
      | rejected parsed => exact ih
      | @built member isMember builder =>
          exact List.forall_mem_cons.mpr ⟨keep.built builder member _ (ih member isMember), ih⟩

end Kept

/-- However options are derived from each other, those in memory share their state exactly
when they share their target, a builder call that does not reset them keeps both, and a
reset gives them a state and a target that no other options have. -/
theorem memory_identity_follows_target (crate : UrlCrate) {start : Process} {family : Family}
    (reached : family.Reaches crate start) :
    (∀ first ∈ family.members, ∀ second ∈ family.members,
        first.target.isMemory = true → second.target.isMemory = true →
          (first.memoryState = second.memoryState ↔ first.target = second.target)) ∧
      (∀ member ∈ family.members, ∀ builder : Builder, builder ≠ .inMemory true →
        (builder.apply member family.process).1.target.isMemory = true →
          (builder.apply member family.process).1.target = member.target ∧
            (builder.apply member family.process).1.memoryState = member.memoryState) ∧
      (∀ member ∈ family.members, ∀ other ∈ family.members,
        (member.inMemory true family.process).1.memoryState ≠ other.memoryState ∧
          (member.inMemory true family.process).1.target ≠ other.target) := by
  obtain ⟨count, wellIssued⟩ := reached.wellIssued
  refine ⟨?_, ?_, ?_⟩
  · intro first isFirst second isSecond firstMemory secondMemory
    exact (wellIssued.members first isFirst).sameState_iff (wellIssued.members second isSecond)
      firstMemory secondMemory
  · intro member _ builder noReset staysInMemory
    exact Builder.keeps_identity noReset staysInMemory
  · intro member _ other isOther
    rw [wellIssued.process]
    exact (wellIssued.members other isOther).reset_differs

/-- The first default options of a process. -/
def firstOptions : TursoConnectOptions := (TursoConnectOptions.default ⟨0, 0⟩).1

/-- A clone of the first options that left memory mode and entered it again. -/
def returnedOptions : TursoConnectOptions :=
  ((firstOptions.filename "app.db").inMemory true ⟨1, 1⟩).1

theorem returned_options_share_nothing :
    firstOptions.memoryState = returnedOptions.memoryState ↔
      firstOptions.target = returnedOptions.target := by
  have reached : Family.Reaches (PlainUrls.crate (utf8 "turso")) ⟨0, 0⟩
      ⟨⟨2, 2⟩, [returnedOptions, firstOptions.filename "app.db", firstOptions]⟩ :=
    .step (.step (.step .start .default) (.built (.head _) (.filename "app.db")))
      (.built (.head _) (.inMemory true))
  refine (memory_identity_follows_target _ reached).1 _ ?_ _ (.head _) rfl rfl
  exact .tail _ (.tail _ (.head _))

end SqlxTurso
