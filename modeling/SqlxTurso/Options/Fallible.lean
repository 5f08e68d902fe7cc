import SqlxTurso.Options

/-!
# Computations that may fail

Reading options from a URL may fail, and it may draw from the process.  What such
a computation gives is told for every state of the process.
-/

namespace SqlxTurso

/-- A computation that may fail, in the state of the process. -/
abbrev Fallible := ExceptT SqlxError (StateM Process)

/-- A result that does not depend on the process. -/
def Fallible.ofExcept {α : Type} (result : Except SqlxError α) : Fallible α :=
  ExceptT.mk (pure result)

def refuse {α : Type} (error : SqlxError) : Fallible α := .ofExcept (.error error)

namespace Fallible

variable {α β : Type}

@[simp] theorem refuse_bind (error : SqlxError) (next : α → Fallible β) :
    (refuse error >>= next) = refuse error := rfl

@[simp] theorem ofExcept_ok (value : α) :
    (ofExcept (.ok value) : Fallible α) = pure value := rfl

@[simp] theorem ofExcept_error (error : SqlxError) :
    (ofExcept (.error error) : Fallible α) = refuse error := rfl

/-- The action succeeds in every state of the process, with a value that has the
property. -/
def Gives (action : Fallible α) (holds : α → Prop) : Prop :=
  ∀ process, ∃ value after, action process = (.ok value, after) ∧ holds value

/-- A value of the action has the property, if there is one. -/
def Ensures (action : Fallible α) (holds : α → Prop) : Prop :=
  ∀ process value after, action process = (.ok value, after) → holds value

theorem run_bind (action : Fallible α) (next : α → Fallible β) (process : Process) :
    (action >>= next) process =
      match action process with
      | (.ok value, after) => next value after
      | (.error error, after) => (.error error, after) := by
  rcases ran : action process with ⟨_ | value, after⟩
  all_goals
    simp only [bind, ExceptT.bind, ExceptT.mk, StateT.bind, ran]
    rfl

theorem Ensures.pure {value : α} {holds : α → Prop} (holdsOf : holds value) :
    Ensures (Pure.pure value) holds := by
  rintro process other after ran
  cases ran
  exact holdsOf

theorem Ensures.refuse (error : SqlxError) (holds : α → Prop) :
    Ensures (refuse error) holds := by
  rintro process value after ran
  cases ran

theorem Ensures.ofExcept {result : Except SqlxError α} {holds : α → Prop}
    (holdsOf : ∀ value, result = .ok value → holds value) : Ensures (ofExcept result) holds := by
  cases result with
  | ok value => exact .pure (holdsOf value rfl)
  | error error => exact .refuse error holds

theorem Ensures.bind {action : Fallible α} {next : α → Fallible β} {mid : α → Prop}
    {holds : β → Prop} (first : Ensures action mid)
    (second : ∀ value, mid value → Ensures (next value) holds) :
    Ensures (action >>= next) holds := by
  intro process value after ran
  rw [run_bind] at ran
  rcases middle : action process with ⟨_ | between, state⟩
  · rw [middle] at ran
    cases ran
  · rw [middle] at ran
    exact second between (first _ _ _ middle) _ _ _ ran

theorem Ensures.mono {action : Fallible α} {strong weak : α → Prop}
    (ensured : Ensures action strong) (weaker : ∀ value, strong value → weak value) :
    Ensures action weak :=
  fun process value after ran => weaker value (ensured process value after ran)

theorem Ensures.trivial (action : Fallible α) : Ensures action fun _ => True :=
  fun _ _ _ _ => True.intro

end Fallible

end SqlxTurso
