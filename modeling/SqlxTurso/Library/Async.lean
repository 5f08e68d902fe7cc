import Mathlib.Order.Defs.Unbundled

/-!
# Cancellable computations

An asynchronous function runs on a state.  Its future returns a value, fails with an
error, or is dropped at a point where it waits; nothing of the function runs after
that.  The rules below derive what a computation meets from what its parts meet.
-/

namespace SqlxTurso.Library

/-- How a future ends. -/
inductive Outcome (ε α : Type) where
  | returned (value : α)
  | failed (error : ε)
  | dropped
  deriving DecidableEq, Repr

def Outcome.mapError {ε ε' α : Type} (convert : ε → ε') : Outcome ε α → Outcome ε' α
  | returned value => returned value
  | failed error => failed (convert error)
  | dropped => dropped

/-- The same end with another value. -/
def Outcome.map {ε α β : Type} (change : α → β) : Outcome ε α → Outcome ε β
  | returned value => returned (change value)
  | failed error => failed error
  | dropped => dropped

/-- One thing if a value was returned, and another one otherwise. -/
def Outcome.choose {ε α β : Type} (done otherwise : β) : Outcome ε α → β
  | returned _ => done
  | _ => otherwise

@[simp] theorem Outcome.choose_map {ε α β γ : Type} (done otherwise : γ) (change : α → β)
    (outcome : Outcome ε α) :
    (outcome.map change).choose done otherwise = outcome.choose done otherwise := by
  cases outcome <;> rfl

theorem Outcome.choose_of_not_returned {ε α β : Type} {outcome : Outcome ε α}
    (notReturned : outcome.choose true false = false) (done otherwise : β) :
    outcome.choose done otherwise = otherwise := by
  cases outcome with
  | returned _ => cases notReturned
  | failed _ => rfl
  | dropped => rfl

/-- The end of a computation that goes on with the errors of another one. -/
def Outcome.caught {ε ε' α : Type} : Outcome ε α → Outcome ε' (Except ε α)
  | returned value => returned (.ok value)
  | failed error => returned (.error error)
  | dropped => dropped

/-- An asynchronous computation on a state. -/
def Async (σ ε α : Type) : Type := σ → Outcome ε α × σ

namespace Async

variable {σ ε α β : Type}

def bind (first : Async σ ε α) (next : α → Async σ ε β) : Async σ ε β := fun state =>
  match first state with
  | (.returned value, state) => next value state
  | (.failed error, state) => (.failed error, state)
  | (.dropped, state) => (.dropped, state)

instance : Monad (Async σ ε) where
  pure value := fun state => (.returned value, state)
  bind := bind

def fail (error : ε) : Async σ ε α := fun state => (.failed error, state)

/-- Read a part of the state. -/
def read (part : σ → α) : Async σ ε α := fun state => (.returned (part state), state)

def modify (change : σ → σ) : Async σ ε Unit := fun state => (.returned (), change state)

/-- The same computation with its errors converted. -/
def mapError {ε' : Type} (convert : ε → ε') (computation : Async σ ε α) : Async σ ε' α :=
  fun state => ((computation state).1.mapError convert, (computation state).2)

/-- Go on with the result of a computation, whether it is a value or an error. -/
def result {ε' : Type} (computation : Async σ ε α) : Async σ ε' (Except ε α) := fun state =>
  match computation state with
  | (.returned value, state) => (.returned (.ok value), state)
  | (.failed error, state) => (.returned (.error error), state)
  | (.dropped, state) => (.dropped, state)

/-- Take an action if a flag is set. -/
def whenTrue (flag : Bool) (action : Async σ ε Unit) : Async σ ε Unit :=
  if flag then action else pure ()

/-- Change the state when a computation ends without a value. -/
def unlessReturned (cleanup : σ → σ) (computation : Async σ ε α) : Async σ ε α := fun state =>
  match computation state with
  | (.returned value, state) => (.returned value, state)
  | (outcome, state) => (outcome, cleanup state)

@[simp] theorem pure_apply (value : α) (state : σ) :
    (pure value : Async σ ε α) state = (.returned value, state) := rfl

@[simp] theorem fail_apply (error : ε) (state : σ) :
    (fail error : Async σ ε α) state = (.failed error, state) := rfl

@[simp] theorem read_apply (part : σ → α) (state : σ) :
    (read part : Async σ ε α) state = (.returned (part state), state) := rfl

@[simp] theorem modify_apply (change : σ → σ) (state : σ) :
    (modify change : Async σ ε Unit) state = (.returned (), change state) := rfl

theorem bind_apply (first : Async σ ε α) (next : α → Async σ ε β) (state : σ) :
    (first >>= next) state =
      match first state with
      | (.returned value, state) => next value state
      | (.failed error, state) => (.failed error, state)
      | (.dropped, state) => (.dropped, state) := rfl

/-- Started in a state that meets `before`, the computation ends as `after` says. -/
def Meets (before : σ → Prop) (computation : Async σ ε α)
    (after : Outcome ε α → σ → Prop) : Prop :=
  ∀ state, before state → after (computation state).1 (computation state).2

/-- The condition after the first of two computations: `returned` where it goes on,
and the final condition where it ends. -/
def Onward (returned : α → σ → Prop) (after : Outcome ε β → σ → Prop) :
    Outcome ε α → σ → Prop
  | .returned value, state => returned value state
  | .failed error, state => after (.failed error) state
  | .dropped, state => after .dropped state

namespace Meets

variable {before : σ → Prop} {after : Outcome ε α → σ → Prop}

theorem pure {value : α} (holds : ∀ state, before state → after (.returned value) state) :
    Meets before (Pure.pure value) after :=
  fun state atState => holds state atState

theorem fail {error : ε} (holds : ∀ state, before state → after (.failed error) state) :
    Meets before (Async.fail error) after :=
  fun state atState => holds state atState

theorem modify {change : σ → σ} {after : Outcome ε Unit → σ → Prop}
    (holds : ∀ state, before state → after (.returned ()) (change state)) :
    Meets before (Async.modify change) after :=
  fun state atState => holds state atState

theorem bind {first : Async σ ε β} {next : β → Async σ ε α} (returned : β → σ → Prop)
    (firstMeets : Meets before first (Onward returned after))
    (nextMeets : ∀ value, Meets (returned value) (next value) after) :
    Meets before (first >>= next) after := by
  intro state atState
  have atFirst := firstMeets state atState
  rw [bind_apply]
  cases ended : first state with
  | mk outcome reached =>
      rw [ended] at atFirst
      cases outcome with
      | returned value => exact nextMeets value reached atFirst
      | failed error => exact atFirst
      | dropped => exact atFirst

theorem read {part : σ → β} {next : β → Async σ ε α}
    (nextMeets : ∀ value,
      Meets (fun state => before state ∧ part state = value) (next value) after) :
    Meets before (Async.read part >>= next) after :=
  fun state atState => nextMeets (part state) state ⟨atState, rfl⟩

theorem modifyThen {change : σ → σ} {next : Unit → Async σ ε α} (changed : σ → Prop)
    (holds : ∀ state, before state → changed (change state))
    (nextMeets : Meets changed (next ()) after) :
    Meets before (Async.modify change >>= next) after :=
  fun state atState => nextMeets (change state) (holds state atState)

theorem mono {weaker : σ → Prop} {stronger : Outcome ε α → σ → Prop}
    {computation : Async σ ε α} (meets : Meets weaker computation stronger)
    (atStart : ∀ state, before state → weaker state)
    (atEnd : ∀ outcome state, stronger outcome state → after outcome state) :
    Meets before computation after :=
  fun state atState => atEnd _ _ (meets state (atStart state atState))

theorem imp {stronger : Outcome ε α → σ → Prop} {computation : Async σ ε α}
    (meets : Meets before computation stronger)
    (atEnd : ∀ outcome state, stronger outcome state → after outcome state) :
    Meets before computation after :=
  meets.mono (fun _ atStart => atStart) atEnd

theorem weaken (weaker : σ → Prop) {computation : Async σ ε α}
    (atStart : ∀ state, before state → weaker state)
    (meets : Meets weaker computation after) : Meets before computation after :=
  fun state atState => meets state (atStart state atState)

theorem mapError {ε' : Type} {convert : ε' → ε} {computation : Async σ ε' α}
    (meets : Meets before computation fun outcome => after (outcome.mapError convert)) :
    Meets before (computation.mapError convert) after :=
  meets

theorem result {ε' : Type} {computation : Async σ ε' β}
    {after : Outcome ε (Except ε' β) → σ → Prop}
    (meets : Meets before computation fun outcome state =>
      match outcome with
      | .returned value => after (.returned (.ok value)) state
      | .failed error => after (.returned (.error error)) state
      | .dropped => after .dropped state) :
    Meets before computation.result after := by
  intro state atState
  have ended := meets state atState
  unfold Async.result
  cases isEnd : computation state with
  | mk outcome reached =>
      rw [isEnd] at ended
      cases outcome <;> exact ended

theorem whenTrue {flag : Bool} {action : Async σ ε Unit} {after : Outcome ε Unit → σ → Prop}
    (taken : flag = true → Meets before action after)
    (skipped : flag = false → ∀ state, before state → after (.returned ()) state) :
    Meets before (Async.whenTrue flag action) after := by
  cases flag with
  | true => exact taken rfl
  | false => exact skipped rfl

theorem unlessReturned {cleanup : σ → σ} {computation : Async σ ε α}
    (meets : Meets before computation fun outcome state =>
      match outcome with
      | .returned value => after (.returned value) state
      | .failed error => after (.failed error) (cleanup state)
      | .dropped => after .dropped (cleanup state)) :
    Meets before (computation.unlessReturned cleanup) after := by
  intro state atState
  have ended := meets state atState
  unfold Async.unlessReturned
  cases isEnd : computation state with
  | mk outcome reached =>
      rw [isEnd] at ended
      cases outcome <;> exact ended

/-- However the first computation ends, its state meets what the second one keeps. -/
theorem bindAlways {first : Async σ ε β} {next : β → Async σ ε α} {always : σ → Prop}
    (firstMeets : Meets before first fun _ => always)
    (nextMeets : ∀ value, Meets always (next value) fun _ => always) :
    Meets before (first >>= next) fun _ => always := by
  refine bind (fun _ => always) (firstMeets.imp ?_) nextMeets
  intro outcome _ ended
  cases outcome <;> exact ended

/-- A condition before may be taken to speak about one known state. -/
theorem of_state {computation : Async σ ε α}
    (meets : ∀ start, before start → Meets (· = start) computation after) :
    Meets before computation after :=
  fun state atState => meets state atState state rfl

end Meets

/-- Two computations in a row go on as the second one does. -/
theorem Meets.bindOnward {γ : Type} {before : σ → Prop} {first : Async σ ε β}
    {next : β → Async σ ε α} {middle : β → σ → Prop} {returned : α → σ → Prop}
    {after : Outcome ε γ → σ → Prop} (firstMeets : Meets before first (Onward middle after))
    (nextMeets : ∀ value, Meets (middle value) (next value) (Onward returned after)) :
    Meets before (first >>= next) (Onward returned after) := by
  refine bind middle (firstMeets.imp ?_) nextMeets
  intro outcome _ ended
  cases outcome <;> exact ended

/-- Every state that is reached keeps an invariant, and a returned value is as told. -/
def Keeping (invariant : σ → Prop) (returned : α → Prop) :
    Outcome ε α → σ → Prop :=
  fun outcome state =>
    invariant state ∧ ∀ value, outcome = .returned value → returned value

theorem keeping_iff_onward {γ : Type} {invariant : σ → Prop} {returned : α → Prop}
    {outcome : Outcome ε α} {state : σ} :
    Keeping invariant returned outcome state ↔
      Onward (fun value state => invariant state ∧ returned value)
        (fun (_ : Outcome ε γ) => invariant) outcome state := by
  cases outcome with
  | returned value =>
      constructor
      · exact fun kept => ⟨kept.1, kept.2 value rfl⟩
      · rintro ⟨holds, isReturned⟩
        refine ⟨holds, ?_⟩
        intro _ isValue
        cases isValue
        exact isReturned
  | failed _ => exact ⟨fun kept => kept.1, fun holds => ⟨holds, fun _ => nofun⟩⟩
  | dropped => exact ⟨fun kept => kept.1, fun holds => ⟨holds, fun _ => nofun⟩⟩

namespace Meets

variable {before invariant : σ → Prop} {returned : β → Prop} {kept : α → Prop}

theorem pureKeeping {value : α} (isKept : kept value) :
    Meets invariant (Pure.pure value : Async σ ε α) (Keeping invariant kept) := by
  intro state holds
  refine ⟨holds, ?_⟩
  intro _ isValue
  cases isValue
  exact isKept

/-- Nothing is told of a computation that is not looked at. -/
theorem anyKeeping (computation : Async σ ε β) :
    Meets before computation (Keeping (fun _ => True) fun _ => True) :=
  fun _ _ => ⟨trivial, fun _ _ => trivial⟩

theorem bindKeeping {first : Async σ ε β} {next : β → Async σ ε α}
    (firstMeets : Meets before first (Keeping invariant returned))
    (nextMeets : ∀ value, returned value →
      Meets invariant (next value) (Keeping invariant kept)) :
    Meets before (first >>= next) (Keeping invariant kept) := by
  refine bind (fun value state => invariant state ∧ returned value) ?_ fun value => ?_
  · refine firstMeets.imp ?_
    intro outcome state ended
    cases outcome with
    | returned value => exact ⟨ended.1, ended.2 value rfl⟩
    | failed _ => exact ⟨ended.1, fun _ => nofun⟩
    | dropped => exact ⟨ended.1, fun _ => nofun⟩
  · exact fun state atState => nextMeets value atState.2 state atState.1

end Meets

/-- Every state that a computation reaches is related to the one it started in. -/
def Preserves (related : σ → σ → Prop) (computation : Async σ ε α) : Prop :=
  ∀ start, Meets (· = start) computation fun _ state => related start state

namespace Preserves

variable {related : σ → σ → Prop}

theorem pure [Std.Refl related] (value : α) :
    Preserves related (Pure.pure value : Async σ ε α) := by
  rintro start _ rfl
  exact Std.Refl.refl _

theorem fail [Std.Refl related] (error : ε) :
    Preserves related (Async.fail error : Async σ ε α) := by
  rintro start _ rfl
  exact Std.Refl.refl _

theorem read [Std.Refl related] (part : σ → α) :
    Preserves related (Async.read part : Async σ ε α) := by
  rintro start _ rfl
  exact Std.Refl.refl _

theorem modify {change : σ → σ} (changed : ∀ state, related state (change state)) :
    Preserves related (Async.modify change : Async σ ε Unit) := by
  rintro _ state rfl
  exact changed state

theorem bind [IsTrans σ related] {first : Async σ ε α} {next : α → Async σ ε β}
    (firstPreserves : Preserves related first)
    (nextPreserves : ∀ value, Preserves related (next value)) :
    Preserves related (first >>= next) := by
  intro start
  refine Meets.bind (fun _ state => related start state) ?_ ?_
  · refine (firstPreserves start).imp ?_
    intro outcome state reached
    cases outcome <;> exact reached
  · intro value
    apply Meets.of_state
    intro middle reached
    exact (nextPreserves value middle).mono (fun _ atMiddle => atMiddle)
      fun _ _ onward => IsTrans.trans _ _ _ reached onward

theorem mono {weaker : σ → σ → Prop} {computation : Async σ ε α}
    (preserves : Preserves related computation)
    (implies : ∀ start state, related start state → weaker start state) :
    Preserves weaker computation :=
  fun start => (preserves start).imp fun _ state => implies start state

end Preserves

/-- The future is not dropped, and the state that is reached is as told. -/
def Undropped (kept : σ → Prop) : Outcome ε α → σ → Prop
  | .dropped, _ => False
  | _, state => kept state

namespace Meets

variable {before kept : σ → Prop} {computation : Async σ ε α}

theorem pureUndropped (value : α) :
    Meets kept (Pure.pure value : Async σ ε α) (Undropped kept) :=
  fun _ holds => holds

end Meets

/-- One condition after a value, and another one where there is none. -/
def Ending (returned otherwise : σ → Prop) : Outcome ε α → σ → Prop
  | .returned _, state => returned state
  | _, state => otherwise state

/-- One condition with a value, and another one with the error that was caught. -/
def Resulting (returned failed : σ → Prop) : Except ε α → σ → Prop
  | .ok _, state => returned state
  | .error _, state => failed state

namespace Meets

variable {before returned otherwise : σ → Prop} {computation : Async σ ε α}

theorem pureEnding (value : α) :
    Meets returned (Pure.pure value : Async σ ε α) (Ending returned otherwise) :=
  fun _ holds => holds

theorem failEnding (error : ε) :
    Meets otherwise (Async.fail error : Async σ ε α) (Ending returned otherwise) :=
  fun _ holds => holds

theorem bindEnding {first : Async σ ε β} {next : β → Async σ ε α} {middle : σ → Prop}
    (firstMeets : Meets before first (Ending middle otherwise))
    (nextMeets : ∀ value, Meets middle (next value) (Ending returned otherwise)) :
    Meets before (first >>= next) (Ending returned otherwise) := by
  refine bind (fun _ => middle) (firstMeets.imp ?_) nextMeets
  intro outcome _ ended
  cases outcome <;> exact ended

theorem mapErrorEnding {ε' : Type} {convert : ε → ε'}
    (meets : Meets before computation (Ending returned otherwise)) :
    Meets before (computation.mapError convert) (Ending returned otherwise) := by
  refine mapError (meets.imp ?_)
  intro outcome _ ended
  cases outcome <;> exact ended

theorem unlessReturnedEnding {cleanup : σ → σ} {unclean : σ → Prop}
    (meets : Meets before computation (Ending returned unclean))
    (cleans : ∀ state, unclean state → otherwise (cleanup state)) :
    Meets before (computation.unlessReturned cleanup) (Ending returned otherwise) := by
  refine unlessReturned (meets.imp ?_)
  intro outcome state ended
  cases outcome with
  | returned _ => exact ended
  | failed _ => exact cleans state ended
  | dropped => exact cleans state ended

theorem impEnding {done undone : σ → Prop}
    (meets : Meets before computation (Ending done undone))
    (atReturn : ∀ state, done state → returned state)
    (elsewhere : ∀ state, undone state → otherwise state) :
    Meets before computation (Ending returned otherwise) := by
  refine meets.imp ?_
  intro outcome state ended
  cases outcome with
  | returned _ => exact atReturn state ended
  | failed _ => exact elsewhere state ended
  | dropped => exact elsewhere state ended

end Meets

/-- One condition after a value and another one after an error.  The future is not
dropped. -/
def Concluding (returned failed : σ → Prop) : Outcome ε α → σ → Prop
  | .returned _, state => returned state
  | .failed _, state => failed state
  | .dropped, _ => False

theorem Concluding.choose (holds : β → σ → Prop) {state : σ} {outcome : Outcome ε α}
    {done otherwise : β}
    (concluding : Concluding (holds done) (holds otherwise) outcome state) :
    holds (outcome.choose done otherwise) state := by
  cases outcome with
  | returned _ => exact concluding
  | failed _ => exact concluding
  | dropped => cases concluding

/-! ## Known outcomes -/

/-- Started in a state, the computation ends with an outcome that is known. -/
structure EndsAs (computation : Async σ ε α) (state : σ) (outcome : Outcome ε α)
    (after : σ → Prop) : Prop where
  outcome : (computation state).1 = outcome
  reached : after (computation state).2

namespace EndsAs

variable {computation : Async σ ε α} {state : σ} {outcome : Outcome ε α} {after : σ → Prop}

theorem of_apply {reached : σ} (ends : computation state = (outcome, reached))
    (atEnd : after reached) : EndsAs computation state outcome after := by
  constructor
  · rw [ends]
  · rw [ends]
    exact atEnd

theorem apply_eq (runs : EndsAs computation state outcome after) :
    computation state = (outcome, (computation state).2) := Prod.ext runs.outcome rfl

theorem bind {first : Async σ ε β} {next : β → Async σ ε α} {value : β} {middle : σ → Prop}
    (firstRuns : EndsAs first state (.returned value) middle)
    (nextRuns : ∀ reached, middle reached → EndsAs (next value) reached outcome after) :
    EndsAs (first >>= next) state outcome after := by
  have onward := nextRuns _ firstRuns.reached
  apply of_apply _ onward.reached
  rw [bind_apply, firstRuns.apply_eq]
  exact onward.apply_eq

theorem bindFailed {first : Async σ ε β} {next : β → Async σ ε α} {error : ε}
    (firstRuns : EndsAs first state (.failed error) after) :
    EndsAs (first >>= next) state (.failed error) after := by
  apply of_apply _ firstRuns.reached
  rw [bind_apply, firstRuns.apply_eq]

/-- A computation of which the value is not looked at. -/
theorem discard (runs : EndsAs computation state outcome after) :
    EndsAs (do
      let _ ← computation
      pure ()) state (outcome.map fun _ => ()) after := by
  apply of_apply _ runs.reached
  rw [bind_apply, runs.apply_eq]
  cases outcome <;> rfl

theorem mapError {ε' : Type} {convert : ε → ε'} (runs : EndsAs computation state outcome after) :
    EndsAs (computation.mapError convert) state (outcome.mapError convert) after :=
  ⟨congrArg (Outcome.mapError convert) runs.outcome, runs.reached⟩

theorem result {ε' : Type} (runs : EndsAs computation state outcome after) :
    EndsAs (computation.result : Async σ ε' _) state outcome.caught after := by
  apply of_apply _ runs.reached
  rw [Async.result, runs.apply_eq]
  cases outcome <;> rfl

theorem unlessReturned_returned {cleanup : σ → σ} {value : α}
    (runs : EndsAs computation state (.returned value) after) :
    EndsAs (computation.unlessReturned cleanup) state (.returned value) after := by
  apply of_apply _ runs.reached
  rw [Async.unlessReturned, runs.apply_eq]

theorem unlessReturned_failed {cleanup : σ → σ} {error : ε} {unclean : σ → Prop}
    (runs : EndsAs computation state (.failed error) unclean)
    (cleans : ∀ reached, unclean reached → after (cleanup reached)) :
    EndsAs (computation.unlessReturned cleanup) state (.failed error) after := by
  apply of_apply _ (cleans _ runs.reached)
  rw [Async.unlessReturned, runs.apply_eq]

end EndsAs

end Async

end SqlxTurso.Library
