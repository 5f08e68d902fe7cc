import SqlxTurso.Driver

/-!
# Clients of the driver

Any number of clients connect, each with options of its own.  Those whose options share an
in-memory state take its database from the slot behind a lock, and the one that finds the
slot empty builds the database while it holds the lock.

A client relies on the others to leave its locks alone, and what is behind them.
-/

namespace SqlxTurso

open Library

namespace Driver

/-- A build that succeeded. -/
structure Build (Client : Type) where
  client : Client
  path : String
  handle : Nat

/-- What the connects of all clients work on: the slots of the in-memory states, the holders
of their locks, and the builds that succeeded. -/
structure World (Client : Type) where
  slots : TursoMemoryState → Option Turso.Database
  holders : TursoMemoryState → Option Client
  builds : List (Build Client)

namespace World

variable {Client : Type}

def hold (state : TursoMemoryState) (holder : Option Client) (world : World Client) :
    World Client :=
  { world with holders := Function.update world.holders state holder }

def fill (state : TursoMemoryState) (database : Turso.Database) (world : World Client) :
    World Client :=
  { world with slots := Function.update world.slots state (some database) }

def record (build : Build Client) (world : World Client) : World Client :=
  { world with builds := build :: world.builds }

/-- A database in memory is a new one.  A file may have been opened before. -/
def MayBuild (path : String) (handle : Nat) (world : World Client) : Prop :=
  ∀ build ∈ world.builds, build.handle = handle → build.path = path ∧ path ≠ ":memory:"

/-- A build that fails leaves no database. -/
def Built (client : Client) (path : String) (world : World Client) :
    Except Turso.Error Nat → World Client → Prop
  | .ok handle, after => world.MayBuild path handle ∧ after = world.record ⟨client, path, handle⟩
  | .error _, after => after = world

/-- A connection is one to the database that was asked for it. -/
def Connected (handle : Nat) (world : World Client) :
    Except Turso.Error Turso.Connection → World Client → Prop
  | .ok connection, after => connection.database = handle ∧ after = world
  | .error _, after => after = world

/-- What a request of the client does.  The lock is taken when it is free, and a build and
what is asked of a connection may fail. -/
def Answers (client : Client) (world : World Client) :
    (request : Request) → Response request → World Client → Prop
  | .pathExists _, _, after => after = world
  | .lockMemory state, _, after =>
      world.holders state = none ∧ after = world.hold state (some client)
  | .readMemory state, slot, after => slot = world.slots state ∧ after = world
  | .writeMemory state database, _, after => after = world.fill state database
  | .unlockMemory state, _, after => after = world.hold state none
  | .build builder, database, after =>
      world.Built client builder.path (database.map (·.handle)) after
  | .buildSync builder, database, after =>
      world.Built client builder.path (database.map (·.handle)) after
  | .connect database, connection, after => world.Connected database.handle connection after
  | .connectSync database, connection, after => world.Connected database.handle connection after
  | .pragmaUpdate _ _ _, _, after => after = world

/-- A client whose future is dropped holds no lock any more. -/
def release [DecidableEq Client] (client : Client) (world : World Client) : World Client :=
  { world with
    holders := fun state =>
      if world.holders state = some client then none else world.holders state }

end World

/-- Do the options share the in-memory state with others? -/
def shares (options : TursoConnectOptions) (state : TursoMemoryState) : Bool :=
  options.sync.isNone && options.target.isMemory && options.cacheMode = .sharedCache &&
    options.memoryState = state

variable {Client : Type} (options : Client → TursoConnectOptions)

def environment [DecidableEq Client] : Environment Client (World Client) Request Response where
  answers := World.Answers
  awaits := Request.awaits
  drops := World.release

/-- All clients before they do anything. -/
def start : System Client (World Client) Request Response
    (Except SqlxError TursoDriverConnection) where
  world := ⟨fun _ => none, fun _ => none, []⟩
  futures := fun client => some (TursoDriver.connect (options client)).run

/-- The builds of the clients that share a state. -/
def World.sharedBuilds (state : TursoMemoryState) (world : World Client) : List (Build Client) :=
  world.builds.filter fun build => shares (options build.client) state

namespace World

variable {options} {world : World Client} {state other : TursoMemoryState}

@[simp] theorem holders_hold_self (holder : Option Client) :
    (world.hold state holder).holders state = holder := Function.update_self ..

@[simp] theorem holders_hold_of_ne {holder : Option Client} (isOther : other ≠ state) :
    (world.hold state holder).holders other = world.holders other :=
  Function.update_of_ne isOther ..

@[simp] theorem slots_hold (holder : Option Client) :
    (world.hold state holder).slots = world.slots := rfl

@[simp] theorem sharedBuilds_hold (holder : Option Client) :
    (world.hold state holder).sharedBuilds options other = world.sharedBuilds options other := rfl

theorem not_holds_release [DecidableEq Client] (client : Client) (world : World Client)
    (state : TursoMemoryState) : (world.release client).holders state ≠ some client := by
  by_cases held : world.holders state = some client
  · exact fun isHeld => nomatch (if_pos held).symm.trans isHeld
  · exact fun isHeld => held ((if_neg held).symm.trans isHeld)

@[simp] theorem slots_fill_self (database : Turso.Database) :
    (world.fill state database).slots state = some database := Function.update_self ..

@[simp] theorem slots_fill_of_ne {database : Turso.Database} (isOther : other ≠ state) :
    (world.fill state database).slots other = world.slots other :=
  Function.update_of_ne isOther ..

@[simp] theorem holders_fill (database : Turso.Database) :
    (world.fill state database).holders = world.holders := rfl

@[simp] theorem sharedBuilds_fill (database : Turso.Database) :
    (world.fill state database).sharedBuilds options other = world.sharedBuilds options other := rfl

end World

/-! ## What the clients rely on -/

/-- The slot of a state holds what its clients built, but for a client that holds the lock
and has not saved its build.  A database in memory is that of one client. -/
structure World.Sound (world : World Client) : Prop where
  slots : ∀ state,
    (world.sharedBuilds options state).map (·.handle) = (world.slots state).toList.map (·.handle) ∨
      (world.slots state = none ∧ ∃ client handle, world.holders state = some client ∧
        (world.sharedBuilds options state).map (·.handle) = [handle])
  owners : ∀ first ∈ world.builds, ∀ second ∈ world.builds, first.handle = second.handle →
    first.path = ":memory:" → first.client = second.client

/-- The locks of the client stay as they are, and what is behind them. -/
structure Respects (client : Client) (before after : World Client) : Prop where
  holders : ∀ state, after.holders state = some client ↔ before.holders state = some client
  slots : ∀ state, before.holders state = some client → after.slots state = before.slots state
  builds : ∀ state, before.holders state = some client →
    after.sharedBuilds options state = before.sharedBuilds options state

/-- Nothing is lost. -/
structure Grows (before after : World Client) : Prop where
  slots : ∀ state database, before.slots state = some database → after.slots state = some database
  builds : ∀ build ∈ before.builds, build ∈ after.builds
  sound : before.Sound options → after.Sound options

/-- The slot is read and written under the lock, and a client that shares a state builds
only while it holds the lock and the slot is empty. -/
def Permits (client : Client) (world : World Client) : Request → Prop
  | .readMemory state => world.holders state = some client
  | .writeMemory state _ => world.holders state = some client ∧ world.slots state = none
  | .unlockMemory state => world.holders state = some client
  | .build _ => ∀ state, shares (options client) state = true →
      world.holders state = some client ∧ world.slots state = none ∧
        world.sharedBuilds options state = []
  | _ => True

theorem Respects.refl (client : Client) (world : World Client) :
    Respects options client world world :=
  ⟨fun _ => Iff.rfl, fun _ _ => rfl, fun _ _ => rfl⟩

theorem Grows.refl (world : World Client) : Grows options world world :=
  ⟨fun _ _ => id, fun _ => id, id⟩

theorem Respects.trans {client : Client} {first second third : World Client}
    (before : Respects options client first second) (after : Respects options client second third) :
    Respects options client first third where
  holders := fun state => (after.holders state).trans (before.holders state)
  slots := fun state held =>
    (after.slots state ((before.holders state).mpr held)).trans (before.slots state held)
  builds := fun state held =>
    (after.builds state ((before.holders state).mpr held)).trans (before.builds state held)

theorem Grows.trans {first second third : World Client} (before : Grows options first second)
    (after : Grows options second third) : Grows options first third where
  slots := fun state database filled =>
    after.slots state database (before.slots state database filled)
  builds := fun build isBuild => after.builds build (before.builds build isBuild)
  sound := fun isSound => after.sound (before.sound isSound)

def contract [DecidableEq Client] : Contract (@environment Client _) where
  rely := fun client before after => Respects options client before after ∧ Grows options before after
  guarantee := fun client before after =>
    (∀ other, other ≠ client → Respects options other before after) ∧ Grows options before after
  permits := Permits options
  rely_refl := fun client world => ⟨.refl options client world, .refl options world⟩
  rely_trans := fun before after =>
    ⟨before.1.trans options after.1, before.2.trans options after.2⟩
  rely_of_guarantee := fun isOther guaranteed => ⟨guaranteed.1 _ isOther, guaranteed.2⟩

/-! ## Where a client is -/

variable {options}

/-- The client holds no lock. -/
structure Outside (options : Client → TursoConnectOptions) (client : Client)
    (world : World Client) : Prop where
  sound : world.Sound options
  free : ∀ state, world.holders state ≠ some client

/-- The client holds the lock of the state alone; this is in the slot, and these were built
for it. -/
structure Holds (options : Client → TursoConnectOptions) (client : Client)
    (state : TursoMemoryState) (slot : Option Turso.Database) (handles : List Nat)
    (world : World Client) : Prop where
  sound : world.Sound options
  only : ∀ other, world.holders other = some client ↔ other = state
  slot : world.slots state = slot
  builds : (world.sharedBuilds options state).map (·.handle) = handles

/-- The client holds the lock, and every build is in the slot. -/
abbrev Settled (options : Client → TursoConnectOptions) (client : Client)
    (state : TursoMemoryState) (slot : Option Turso.Database) : World Client → Prop :=
  Holds options client state slot (slot.toList.map (·.handle))

/-- The database with the handle is the one in the slot that the client shares, or the
client built it. -/
structure Owns (options : Client → TursoConnectOptions) (client : Client) (handle : Nat)
    (world : World Client) : Prop where
  shared : ∀ state, shares (options client) state = true → world.slots state = some ⟨handle⟩
  own : (∀ state, ¬ shares (options client) state = true) →
    ⟨client, (options client).target.builderPath, handle⟩ ∈ world.builds

section Stable

variable {client : Client} {before after : World Client}
  (respects : Respects options client before after) (grows : Grows options before after)

include grows

theorem Owns.later {handle : Nat} (owns : Owns options client handle before) :
    Owns options client handle after where
  shared := fun state isShared => grows.slots state _ (owns.shared state isShared)
  own := fun notShared => grows.builds _ (owns.own notShared)

include respects

theorem Outside.later (outside : Outside options client before) :
    Outside options client after where
  sound := grows.sound outside.sound
  free := fun state held => outside.free state ((respects.holders state).mp held)

theorem Holds.later {state : TursoMemoryState} {slot : Option Turso.Database}
    {handles : List Nat} (holds : Holds options client state slot handles before) :
    Holds options client state slot handles after := by
  have held : before.holders state = some client := (holds.only state).mpr rfl
  refine ⟨grows.sound holds.sound, ?_, ?_, ?_⟩
  · exact fun other => (respects.holders other).trans (holds.only other)
  · exact (respects.slots state held).trans holds.slot
  · rw [respects.builds state held]
    exact holds.builds

end Stable

/-! ## What the steps of a client keep -/

section Steps

variable {client : Client} {world : World Client} {state : TursoMemoryState}

/-- What every other client may rely on. -/
def Keeps (options : Client → TursoConnectOptions) (client : Client)
    (before after : World Client) : Prop :=
  (∀ other, other ≠ client → Respects options other before after) ∧ Grows options before after

theorem Keeps.refl (world : World Client) : Keeps options client world world :=
  ⟨fun other _ => .refl options other world, .refl options world⟩

/-- A lock that is free, or held with the build in its slot, may change hands. -/
theorem Keeps.hold {holder : Option Client}
    (was : ∀ other, other ≠ client → world.holders state ≠ some other)
    (becomes : ∀ other, other ≠ client → holder ≠ some other)
    (saved : (world.sharedBuilds options state).map (·.handle) =
      (world.slots state).toList.map (·.handle)) :
    Keeps options client world (world.hold state holder) := by
  refine ⟨fun other isOther => ⟨fun each => ?_, fun _ _ => rfl, fun _ _ => rfl⟩,
    ⟨fun _ _ => id, fun _ => id, fun isSound => ⟨fun each => ?_, isSound.owners⟩⟩⟩
  · by_cases isState : each = state
    · subst isState
      rw [World.holders_hold_self]
      exact iff_of_false (becomes other isOther) (was other isOther)
    · rw [World.holders_hold_of_ne isState]
  · by_cases isState : each = state
    · exact .inl (isState ▸ saved)
    · rw [World.holders_hold_of_ne isState]
      exact isSound.slots each

theorem Outside.lock (outside : Outside options client world)
    (isFree : world.holders state = none) :
    Keeps options client world (world.hold state (some client)) ∧
      Settled options client state (world.slots state) (world.hold state (some client)) := by
  have saved : (world.sharedBuilds options state).map (·.handle) =
      (world.slots state).toList.map (·.handle) := by
    rcases outside.sound.slots state with saved | ⟨_, other, _, isHeld, _⟩
    · exact saved
    · cases isFree.symm.trans isHeld
  have keeps : Keeps options client world (world.hold state (some client)) := by
    refine .hold ?_ ?_ saved
    · exact fun other _ isHeld => nomatch isFree.symm.trans isHeld
    · exact fun other isOther isClient => isOther (Option.some.inj isClient).symm
  refine ⟨keeps, keeps.2.sound outside.sound, fun other => ?_, rfl, saved⟩
  by_cases isState : other = state
  · subst isState
    exact iff_of_true (World.holders_hold_self _) rfl
  · rw [World.holders_hold_of_ne isState]
    exact iff_of_false (outside.free other) isState

theorem Holds.unlock {slot : Option Turso.Database} (settled : Settled options client state slot world) :
    Keeps options client world (world.hold state none) ∧
      Outside options client (world.hold state none) := by
  have keeps : Keeps options client world (world.hold state none) := by
    refine .hold ?_ ?_ ?_
    · intro other isOther isHeld
      have held := (settled.only state).mpr rfl
      exact isOther (Option.some.inj (isHeld.symm.trans held))
    · exact fun _ _ => nofun
    · rw [settled.slot]
      exact settled.builds
  refine ⟨keeps, keeps.2.sound settled.sound, fun other isHeld => ?_⟩
  by_cases isState : other = state
  · subst isState
    cases (World.holders_hold_self _).symm.trans isHeld
  · rw [World.holders_hold_of_ne isState] at isHeld
    exact isState ((settled.only other).mp isHeld)

theorem Outside.release [DecidableEq Client] (outside : Outside options client world) :
    world.release client = world := by
  have same : (fun state => if world.holders state = some client then none
      else world.holders state) = world.holders :=
    funext fun state => if_neg (outside.free state)
  rw [World.release, same]

theorem Holds.release [DecidableEq Client] {slot : Option Turso.Database} {handles : List Nat}
    (holds : Holds options client state slot handles world) :
    world.release client = world.hold state none := by
  have same : (fun other => if world.holders other = some client then none
      else world.holders other) = Function.update world.holders state none := by
    funext other
    by_cases isState : other = state
    · subst isState
      rw [if_pos ((holds.only other).mpr rfl), Function.update_self]
    · rw [if_neg (fun held => isState ((holds.only other).mp held)),
        Function.update_of_ne isState]
  rw [World.release, same, World.hold]

theorem Holds.fill {database : Turso.Database}
    (holds : Holds options client state none [database.handle] world) :
    Keeps options client world (world.fill state database) ∧
      Settled options client state (some database) (world.fill state database) := by
  have held : world.holders state = some client := (holds.only state).mpr rfl
  have keeps : Keeps options client world (world.fill state database) := by
    refine ⟨fun other isOther => ⟨fun _ => Iff.rfl, fun each isHeld => ?_, fun _ _ => rfl⟩,
      ⟨fun each filled isFilled => ?_, fun _ => id, fun isSound => ⟨fun each => ?_, isSound.owners⟩⟩⟩
    · refine World.slots_fill_of_ne ?_
      rintro rfl
      exact isOther (Option.some.inj (isHeld.symm.trans held))
    · rw [World.slots_fill_of_ne]
      · exact isFilled
      · rintro rfl
        cases holds.slot.symm.trans isFilled
    · by_cases isState : each = state
      · subst isState
        refine .inl ?_
        rw [World.slots_fill_self]
        exact holds.builds
      · rw [World.slots_fill_of_ne isState]
        exact isSound.slots each
  exact ⟨keeps, keeps.2.sound holds.sound, holds.only, World.slots_fill_self _, holds.builds⟩

/-- A new build is that of the client that owns its database. -/
theorem World.Sound.owners_record (sound : world.Sound options) {path : String} {handle : Nat}
    (mayBuild : world.MayBuild path handle) :
    ∀ first ∈ (world.record ⟨client, path, handle⟩).builds,
      ∀ second ∈ (world.record ⟨client, path, handle⟩).builds, first.handle = second.handle →
        first.path = ":memory:" → first.client = second.client := by
  intro first isFirst second isSecond same inMemory
  rcases List.mem_cons.mp isFirst with rfl | wasFirst
  · rcases List.mem_cons.mp isSecond with rfl | wasSecond
    · rfl
    · exact absurd inMemory (mayBuild second wasSecond same.symm).2
  · rcases List.mem_cons.mp isSecond with rfl | wasSecond
    · obtain ⟨samePath, notMemory⟩ := mayBuild first wasFirst same
      exact absurd (samePath.symm.trans inMemory) notMemory
    · exact sound.owners first wasFirst second wasSecond same inMemory

theorem not_shares_of_ne {connecting : TursoConnectOptions} {state other : TursoMemoryState}
    (isShared : shares connecting state = true) (isOther : other ≠ state) :
    ¬ shares connecting other = true := by
  intro otherShared
  simp only [shares, Bool.and_eq_true, decide_eq_true_eq] at isShared otherShared
  exact isOther (otherShared.2.symm.trans isShared.2)

theorem Holds.build (isShared : shares (options client) state = true)
    (settled : Settled options client state none world) {path : String} {handle : Nat}
    (mayBuild : world.MayBuild path handle) :
    Keeps options client world (world.record ⟨client, path, handle⟩) ∧
      Holds options client state none [handle] (world.record ⟨client, path, handle⟩) := by
  have held : world.holders state = some client := (settled.only state).mpr rfl
  have same : ∀ {other}, other ≠ state →
      (world.record ⟨client, path, handle⟩).sharedBuilds options other =
        world.sharedBuilds options other :=
    fun isOther => List.filter_cons_of_neg (by simp [not_shares_of_ne isShared isOther])
  have grown : ((world.record ⟨client, path, handle⟩).sharedBuilds options state).map
      (·.handle) = [handle] := by
    have isFirst : (world.record ⟨client, path, handle⟩).sharedBuilds options state =
        ⟨client, path, handle⟩ :: world.sharedBuilds options state :=
      List.filter_cons_of_pos isShared
    rw [isFirst, List.map_cons, settled.builds]
    rfl
  have keeps : Keeps options client world (world.record ⟨client, path, handle⟩) := by
    refine ⟨fun other isOther => ⟨fun _ => Iff.rfl, fun _ _ => rfl, fun each isHeld => same ?_⟩,
      ⟨fun _ _ => id, fun _ => .tail _, fun isSound =>
        ⟨fun each => ?_, isSound.owners_record mayBuild⟩⟩⟩
    · rintro rfl
      exact isOther (Option.some.inj (isHeld.symm.trans held))
    · by_cases isState : each = state
      · subst isState
        exact .inr ⟨settled.slot, client, handle, held, grown⟩
      · rw [same isState]
        exact isSound.slots each
  exact ⟨keeps, keeps.2.sound settled.sound, settled.only, settled.slot, grown⟩

theorem Outside.build (notShared : ∀ state, ¬ shares (options client) state = true)
    (outside : Outside options client world) {path : String} {handle : Nat}
    (mayBuild : world.MayBuild path handle) :
    Keeps options client world (world.record ⟨client, path, handle⟩) ∧
      Outside options client (world.record ⟨client, path, handle⟩) := by
  have same : ∀ other, (world.record ⟨client, path, handle⟩).sharedBuilds options other =
      world.sharedBuilds options other :=
    fun other => List.filter_cons_of_neg (by simp [notShared other])
  have keeps : Keeps options client world (world.record ⟨client, path, handle⟩) := by
    refine ⟨fun other _ => ⟨fun _ => Iff.rfl, fun _ _ => rfl, fun each _ => same each⟩,
      ⟨fun _ _ => id, fun _ => .tail _, fun isSound =>
        ⟨fun each => ?_, isSound.owners_record mayBuild⟩⟩⟩
    rw [same]
    exact isSound.slots each
  exact ⟨keeps, keeps.2.sound outside.sound, outside.free⟩

end Steps

end Driver

end SqlxTurso
