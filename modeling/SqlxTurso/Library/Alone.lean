import SqlxTurso.Library.Async
import SqlxTurso.Library.Futures

/-!
# Futures that run alone

A future is a cancellable computation once a handler answers its requests, with nothing of
other clients in between.  What it does then, a system of this one client can reach.
-/

namespace SqlxTurso.Library

variable {Request : Type} {Response : Request → Type} {σ ε ε' α β : Type}

/-- How a future ends that is not dropped. -/
def Outcome.ofResult : Except ε α → Outcome ε α
  | .ok value => returned value
  | .error error => failed error

/-- Whether a request is answered, or the future is dropped during it, and the state after
that. -/
abbrev Handler (Request : Type) (Response : Request → Type) (σ : Type) :=
  (request : Request) → σ → Option (Response request) × σ

namespace Future

/-! ## Errors -/

/-- The same future with its errors converted. -/
def mapError (convert : ε → ε') (action : ExceptT ε (Future Request Response) α) :
    ExceptT ε' (Future Request Response) α :=
  ExceptT.mk (action.run >>= fun result => done (result.mapError convert))

/-- Go on with the result of a future, whether it is a value or an error. -/
def result (action : ExceptT ε (Future Request Response) α) :
    ExceptT ε' (Future Request Response) (Except ε α) :=
  ExceptT.mk (action.run >>= fun result => done (.ok result))

/-- Take an action if a flag is set. -/
def whenTrue (flag : Bool) (action : ExceptT ε (Future Request Response) Unit) :
    ExceptT ε (Future Request Response) Unit :=
  if flag then action else pure ()

/-! ## The computation of a future -/

/-- What becomes of one request. -/
def answered {Answer : Type} (handle : σ → Option Answer × σ) : Async σ ε Answer := fun state =>
  match handle state with
  | (some answer, after) => (.returned answer, after)
  | (none, after) => (.dropped, after)

def alone (handler : Handler Request Response σ) :
    Future Request Response (Except ε α) → Async σ ε α
  | done (.ok value) => pure value
  | done (.error error) => Async.fail error
  | ask request next => do
      let response ← answered (handler request)
      (next response).alone handler

variable {handler : Handler Request Response σ}

theorem alone_ask (request : Request)
    (next : Response request → Future Request Response (Except ε α)) (state : σ) :
    (ask request next).alone handler state =
      match handler request state with
      | (some response, after) => (next response).alone handler after
      | (none, after) => (.dropped, after) := by
  rw [alone, Async.bind_apply, answered]
  cases handler request state with
  | mk response after => cases response <;> rfl

@[simp] theorem alone_done_ok (value : α) :
    (done (.ok value) : Future Request Response (Except ε α)).alone handler =
      (pure value : Async σ ε α) := rfl

@[simp] theorem alone_done_error (error : ε) :
    (done (.error error) : Future Request Response (Except ε α)).alone handler =
      (Async.fail error : Async σ ε α) := rfl

/-- What a future does before it goes on with its result, it does alone. -/
theorem alone_done_bind (future : Future Request Response (Except ε α))
    (next : Except ε α → Future Request Response (Except ε' β)) (state : σ) :
    (future >>= next).alone handler state =
      match future.alone handler state with
      | (.returned value, after) => (next (.ok value)).alone handler after
      | (.failed error, after) => (next (.error error)).alone handler after
      | (.dropped, after) => (.dropped, after) := by
  induction future generalizing state with
  | done result => cases result <;> rfl
  | ask request rest restIH =>
      rw [ask_bind]
      cases handled : handler request state with
      | mk response after =>
          cases response with
          | some response =>
              rw [alone_ask, alone_ask, handled]
              exact restIH response after
          | none => rw [alone_ask, alone_ask, handled]

@[simp] theorem alone_bind (action : ExceptT ε (Future Request Response) α)
    (next : α → ExceptT ε (Future Request Response) β) :
    (action >>= next).run.alone handler =
      (action.run.alone handler >>= fun value => (next value).run.alone handler :
        Async σ ε β) := by
  funext state
  rw [run_bind, alone_done_bind, Async.bind_apply]
  cases action.run.alone handler state with
  | mk outcome after => cases outcome <;> rfl

@[simp] theorem alone_mapError (convert : ε → ε')
    (action : ExceptT ε (Future Request Response) α) :
    (mapError convert action).run.alone handler =
      (action.run.alone handler).mapError convert := by
  funext state
  refine (alone_done_bind _ _ state).trans ?_
  rw [Async.mapError]
  cases action.run.alone handler state with
  | mk outcome after => cases outcome <;> rfl

@[simp] theorem alone_result (action : ExceptT ε (Future Request Response) α) :
    (result action : ExceptT ε' (Future Request Response) (Except ε α)).run.alone handler =
      (action.run.alone handler).result := by
  funext state
  refine (alone_done_bind _ _ state).trans ?_
  rw [Async.result]
  cases action.run.alone handler state with
  | mk outcome after => cases outcome <;> rfl

@[simp] theorem alone_whenTrue (flag : Bool)
    (action : ExceptT ε (Future Request Response) Unit) :
    (whenTrue flag action).run.alone handler =
      Async.whenTrue flag (action.run.alone handler) := by
  cases flag <;> rfl

end Future

/-! ## Clients that run one after another -/

section Systems

variable {Client World : Type} [DecidableEq Client]
  {environment : Environment Client World Request Response}

theorem System.Reaches.trans {first second third : System Client World Request Response α}
    (before : first.Reaches environment second) (after : second.Reaches environment third) :
    first.Reaches environment third := by
  induction after with
  | start => exact before
  | step _ moved ih => exact .step ih moved

/-- The environment may answer as the handler does. -/
def Handler.AnswersAs (handler : Handler Request Response σ)
    (environment : Environment Client World Request Response) (client : Client)
    (view : World → σ) : Prop :=
  ∀ world request response after, handler request (view world) = (some response, after) →
    ∃ later, environment.answers client world request response later ∧ view later = after

/-- What a future gives alone, a system reaches in which the other clients wait for it. -/
theorem Future.reaches_of_alone {handler : Handler Request Response σ} {client : Client}
    {view : World → σ} (answersAs : handler.AnswersAs environment client view)
    {future : Future Request Response (Except ε α)}
    {system : System Client World Request Response (Except ε α)}
    (isFuture : system.futures client = some future) {after : σ} {result : Except ε α}
    (ended : future.alone handler (view system.world) = (.ofResult result, after)) :
    ∃ later, view later = after ∧ system.Reaches environment
      ⟨later, Function.update system.futures client (some (.done result))⟩ := by
  induction future generalizing system with
  | done given =>
      have same : given = result ∧ view system.world = after := by
        cases given <;> cases result <;> simp_all [Outcome.ofResult]
      obtain ⟨rfl, rfl⟩ := same
      refine ⟨system.world, rfl, ?_⟩
      rw [← isFuture, Function.update_eq_self]
      exact .start
  | ask request next nextIH =>
      rw [alone_ask] at ended
      cases handled : handler request (view system.world) with
      | mk response seen =>
          rw [handled] at ended
          cases response with
          | none => cases result <;> cases ended
          | some response =>
              obtain ⟨later, answer, rfl⟩ := answersAs _ request response seen handled
              have moved := System.Step.answered isFuture answer
              have isNext : (⟨later, Function.update system.futures client (some (next response))⟩ :
                  System Client World Request Response (Except ε α)).futures client =
                    some (next response) := Function.update_self ..
              obtain ⟨last, isView, reached⟩ := nextIH response isNext ended
              rw [Function.update_idem] at reached
              exact ⟨last, isView, .trans (.step .start moved) reached⟩

end Systems

end SqlxTurso.Library
