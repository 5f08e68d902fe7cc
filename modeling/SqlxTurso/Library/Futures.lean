import Mathlib.Logic.Function.Basic

/-!
# Futures that share a world

The future of an asynchronous function is the tree of what it asks its environment for, and
of how it goes on with each answer.  Clients run their futures on one world, an answer at a
time and in any order, and a future may be dropped where it awaits.

What a future needs of the world is told under what the other clients may do to it
meanwhile.  It holds in every run if each client keeps to what the others rely on.
-/

namespace SqlxTurso.Library

/-- What an asynchronous function does from some point on. -/
inductive Future (Request : Type) (Response : Request → Type) (α : Type) where
  | done (result : α)
  | ask (request : Request) (next : Response request → Future Request Response α)

namespace Future

variable {Request : Type} {Response : Request → Type} {ε α β : Type}

def bind : Future Request Response α → (α → Future Request Response β) →
    Future Request Response β
  | done result, continuation => continuation result
  | ask request next, continuation =>
      ask request fun response => (next response).bind continuation

instance : Monad (Future Request Response) where
  pure := done
  bind := bind

/-- The future that makes one request, and gives the answer. -/
def request (request : Request) : Future Request Response (Response request) :=
  ask request done

@[simp] theorem done_bind (result : α) (continuation : α → Future Request Response β) :
    (done result >>= continuation) = continuation result := rfl

@[simp] theorem pure_eq (result : α) :
    (pure result : Future Request Response α) = done result := rfl

@[simp] theorem ask_bind (request : Request)
    (next : Response request → Future Request Response α)
    (continuation : α → Future Request Response β) :
    (ask request next >>= continuation) =
      ask request fun response => next response >>= continuation := rfl

/-! ## What a future may do -/

/-- With some answers, the future makes the request. -/
def Issues : Future Request Response α → Request → Prop
  | done _, _ => False
  | ask request next, wanted =>
      wanted = request ∨ ∃ response, (next response).Issues wanted

/-- With some answers, the future ends with the result. -/
def Gives : Future Request Response α → α → Prop
  | done result, wanted => wanted = result
  | ask _ next, wanted => ∃ response, (next response).Gives wanted

/-- The property holds of the future at each point that it comes to. -/
def Throughout (holds : Future Request Response α → Prop) :
    Future Request Response α → Prop
  | done result => holds (done result)
  | ask request next =>
      holds (ask request next) ∧ ∀ response, (next response).Throughout holds

@[simp] theorem issues_done (result : α) (wanted : Request) :
    ¬ (done result : Future Request Response α).Issues wanted := id

@[simp] theorem issues_ask {request wanted : Request}
    {next : Response request → Future Request Response α} :
    (ask request next).Issues wanted ↔
      wanted = request ∨ ∃ response, (next response).Issues wanted := Iff.rfl

@[simp] theorem gives_done (result wanted : α) :
    (done result : Future Request Response α).Gives wanted ↔ wanted = result := Iff.rfl

@[simp] theorem gives_ask {request : Request} {wanted : α}
    {next : Response request → Future Request Response α} :
    (ask request next).Gives wanted ↔ ∃ response, (next response).Gives wanted := Iff.rfl

theorem issues_bind (future : Future Request Response α)
    (continuation : α → Future Request Response β) (wanted : Request) :
    (future >>= continuation).Issues wanted ↔
      future.Issues wanted ∨
        ∃ result, future.Gives result ∧ (continuation result).Issues wanted := by
  induction future with
  | done result => simp
  | ask request next nextIH =>
      simp only [ask_bind, issues_ask, gives_ask, nextIH, exists_or, or_assoc]
      constructor
      · rintro (isRequest | isLater | ⟨response, result, gives, issues⟩)
        · exact .inl isRequest
        · exact .inr (.inl isLater)
        · exact .inr (.inr ⟨result, ⟨response, gives⟩, issues⟩)
      · rintro (isRequest | isLater | ⟨result, ⟨response, gives⟩, issues⟩)
        · exact .inl isRequest
        · exact .inr (.inl isLater)
        · exact .inr (.inr ⟨response, result, gives, issues⟩)

theorem gives_bind (future : Future Request Response α)
    (continuation : α → Future Request Response β) (wanted : β) :
    (future >>= continuation).Gives wanted ↔
      ∃ result, future.Gives result ∧ (continuation result).Gives wanted := by
  induction future with
  | done result => simp
  | ask request next nextIH =>
      simp only [ask_bind, gives_ask, nextIH]
      constructor
      · rintro ⟨response, result, gives, givesWanted⟩
        exact ⟨result, ⟨response, gives⟩, givesWanted⟩
      · rintro ⟨result, ⟨response, gives⟩, givesWanted⟩
        exact ⟨response, result, gives, givesWanted⟩

theorem Throughout.here {holds : Future Request Response α → Prop}
    {future : Future Request Response α} (throughout : future.Throughout holds) :
    holds future := by
  cases future with
  | done result => exact throughout
  | ask request next => exact throughout.1

/-- A sequence has a property throughout if its parts have it, and if the property of a point
of the first part does not depend on what follows that part. -/
theorem Throughout.bind {first : Future Request Response α → Prop}
    {whole : Future Request Response β → Prop} {continuation : α → Future Request Response β}
    (carried : ∀ request next, first (ask request next) →
      whole (ask request fun response => next response >>= continuation))
    {future : Future Request Response α} (throughout : future.Throughout first)
    (afterwards : ∀ result, (continuation result).Throughout whole) :
    (future >>= continuation).Throughout whole := by
  induction future with
  | done result => exact afterwards result
  | ask request next nextIH =>
      exact ⟨carried request next throughout.1, fun response => nextIH response (throughout.2 response)⟩

/-! ## Futures that may fail -/

theorem run_bind (action : ExceptT ε (Future Request Response) α)
    (next : α → ExceptT ε (Future Request Response) β) :
    (action >>= next).run = action.run >>= fun result =>
      match result with
      | .ok value => (next value).run
      | .error error => done (.error error) := by
  refine congrArg (Future.bind action.run) (funext fun result => ?_)
  cases result <;> rfl

/-- What a sequence asks for is asked for by its first part, or after it succeeded. -/
theorem issues_run_bind (action : ExceptT ε (Future Request Response) α)
    (next : α → ExceptT ε (Future Request Response) β) (wanted : Request) :
    (action >>= next).run.Issues wanted ↔
      action.run.Issues wanted ∨
        ∃ value, action.run.Gives (.ok value) ∧ (next value).run.Issues wanted := by
  rw [run_bind, issues_bind]
  refine or_congr_right ⟨?_, ?_⟩
  · rintro ⟨result, gives, issues⟩
    cases result with
    | ok value => exact ⟨value, gives, issues⟩
    | error error => exact absurd issues (issues_done _ _)
  · rintro ⟨value, gives, issues⟩
    exact ⟨.ok value, gives, issues⟩

theorem gives_run_bind (action : ExceptT ε (Future Request Response) α)
    (next : α → ExceptT ε (Future Request Response) β) (wanted : β) :
    (action >>= next).run.Gives (.ok wanted) ↔
      ∃ value, action.run.Gives (.ok value) ∧ (next value).run.Gives (.ok wanted) := by
  rw [run_bind, gives_bind]
  constructor
  · rintro ⟨result, gives, givesWanted⟩
    cases result with
    | ok value => exact ⟨value, gives, givesWanted⟩
    | error error => exact nomatch givesWanted
  · rintro ⟨value, gives, givesWanted⟩
    exact ⟨.ok value, gives, givesWanted⟩

/-- As above, for a sequence that ends at the first error. -/
theorem Throughout.run_bind {first : Future Request Response (Except ε α) → Prop}
    {whole : Future Request Response (Except ε β) → Prop}
    {action : ExceptT ε (Future Request Response) α}
    {next : α → ExceptT ε (Future Request Response) β}
    (carried : ∀ {continuation} request rest, first (ask request rest) →
      whole (ask request fun response => rest response >>= continuation))
    (atError : ∀ error, whole (done (.error error)))
    (throughout : action.run.Throughout first)
    (afterwards : ∀ value, (next value).run.Throughout whole) :
    (action >>= next).run.Throughout whole := by
  rw [Future.run_bind]
  refine .bind (fun request rest => carried request rest) throughout fun result => ?_
  cases result with
  | ok value => exact afterwards value
  | error error => exact atError error

end Future

/-! ## Rely and guarantee -/

section Contracts

variable {Client World Request : Type} {Response : Request → Type} {α β : Type}

/-- What the requests of clients do to the world that they share. -/
structure Environment (Client World Request : Type) (Response : Request → Type) where
  /-- The request of a client may be answered like this, with this world after it. -/
  answers : Client → World → (request : Request) → Response request → World → Prop
  /-- May a future be dropped before the answer? -/
  awaits : Request → Bool
  /-- What becomes of the world when a client's future is dropped. -/
  drops : Client → World → World

variable {environment : Environment Client World Request Response}

/-- What clients may assume of each other, and what each must keep to. -/
structure Contract (environment : Environment Client World Request Response) where
  /-- What the other clients may do to the world. -/
  rely : Client → World → World → Prop
  /-- What the client does to the world in one step. -/
  guarantee : Client → World → World → Prop
  /-- When a client may make a request. -/
  permits : Client → World → Request → Prop
  rely_refl : ∀ client world, rely client world world
  rely_trans : ∀ {client first second third}, rely client first second →
    rely client second third → rely client first third
  rely_of_guarantee : ∀ {client other before after}, other ≠ client →
    guarantee client before after → rely other before after

variable (contract : Contract environment)

/-- Whatever the others do, each request of the future is permitted, each step keeps to the
contract, and a result is as told. -/
def Future.Meets (client : Client) (ends : α → World → Prop) :
    Future Request Response α → World → Prop
  | .done result, world => ∀ later, contract.rely client world later → ends result later
  | .ask request next, world => ∀ later, contract.rely client world later →
      contract.permits client later request ∧
        (environment.awaits request = true →
          contract.guarantee client later (environment.drops client later)) ∧
        ∀ response after, environment.answers client later request response after →
          contract.guarantee client later after ∧
            (next response).Meets client ends after

variable {contract}

namespace Future.Meets

variable {client : Client} {ends : α → World → Prop} {world : World}
  {future : Future Request Response α}

/-- What the others do does not matter to a future that meets its contract. -/
theorem later (meets : future.Meets contract client ends world) {later : World}
    (relied : contract.rely client world later) : future.Meets contract client ends later := by
  cases future with
  | done result => exact fun last reliedLast => meets last (contract.rely_trans relied reliedLast)
  | ask request next =>
      exact fun last reliedLast => meets last (contract.rely_trans relied reliedLast)

theorem bind {continuation : α → Future Request Response β} {afterwards : β → World → Prop}
    (meets : future.Meets contract client
      (fun result => (continuation result).Meets contract client afterwards) world) :
    (future >>= continuation).Meets contract client afterwards world := by
  induction future generalizing world with
  | done result => exact meets world (contract.rely_refl client world)
  | ask request next nextIH =>
      intro later relied
      obtain ⟨permitted, droppable, answered⟩ := meets later relied
      refine ⟨permitted, droppable, fun response after answer => ?_⟩
      obtain ⟨guaranteed, meetsNext⟩ := answered response after answer
      exact ⟨guaranteed, nextIH response meetsNext⟩

theorem imp {weaker : α → World → Prop} (meets : future.Meets contract client ends world)
    (implied : ∀ result later, ends result later → weaker result later) :
    future.Meets contract client weaker world := by
  induction future generalizing world with
  | done result => exact fun later relied => implied result later (meets later relied)
  | ask request next nextIH =>
      intro later relied
      obtain ⟨permitted, droppable, answered⟩ := meets later relied
      refine ⟨permitted, droppable, fun response after answer => ?_⟩
      obtain ⟨guaranteed, meetsNext⟩ := answered response after answer
      exact ⟨guaranteed, nextIH response meetsNext⟩

/-- To sequence futures that may fail, tell what holds after a value; an error goes
through. -/
theorem bindExcept {ε : Type} {action : ExceptT ε (Future Request Response) α}
    {next : α → ExceptT ε (Future Request Response) β}
    {afterwards : Except ε β → World → Prop}
    (meets : action.run.Meets contract client (fun result after =>
      match result with
      | .ok value => (next value).run.Meets contract client afterwards after
      | .error error => (done (.error error) : Future Request Response (Except ε β)).Meets
          contract client afterwards after) world) :
    (action >>= next).run.Meets contract client afterwards world := by
  rw [run_bind]
  refine bind (meets.imp ?_)
  intro result after
  cases result <;> exact id

end Future.Meets

end Contracts

/-! ## Runs -/

section Runs

variable {Client World Request : Type} {Response : Request → Type} {α : Type}

/-- The clients' futures, less those that were dropped, and the world. -/
structure System (Client World Request : Type) (Response : Request → Type) (α : Type) where
  world : World
  futures : Client → Option (Future Request Response α)

namespace System

variable {environment : Environment Client World Request Response}
  {contract : Contract environment} {ends : Client → α → World → Prop}

/-- Every future meets its contract. -/
def Meets (contract : Contract environment) (ends : Client → α → World → Prop)
    (system : System Client World Request Response α) : Prop :=
  ∀ client future, system.futures client = some future →
    future.Meets contract client (ends client) system.world

theorem Meets.permits {system : System Client World Request Response α}
    (meets : system.Meets contract ends) {client : Client} {request : Request}
    {next : Response request → Future Request Response α}
    (asks : system.futures client = some (.ask request next)) :
    contract.permits client system.world request :=
  (meets client _ asks _ (contract.rely_refl client _)).1

theorem Meets.ended {system : System Client World Request Response α}
    (meets : system.Meets contract ends) {client : Client} {result : α}
    (isDone : system.futures client = some (.done result)) :
    ends client result system.world :=
  meets client _ isDone _ (contract.rely_refl client _)

end System

variable [DecidableEq Client]

variable (environment : Environment Client World Request Response) in
/-- One client's request is answered, or its future is dropped. -/
inductive System.Step (system : System Client World Request Response α) :
    System Client World Request Response α → Prop where
  | answered {client : Client} {request : Request}
      {next : Response request → Future Request Response α}
      (asks : system.futures client = some (.ask request next))
      {response : Response request} {after : World}
      (answer : environment.answers client system.world request response after) :
      Step system ⟨after, Function.update system.futures client (some (next response))⟩
  | dropped {client : Client} {request : Request}
      {next : Response request → Future Request Response α}
      (asks : system.futures client = some (.ask request next))
      (awaits : environment.awaits request = true) :
      Step system
        ⟨environment.drops client system.world, Function.update system.futures client none⟩

variable (environment : Environment Client World Request Response) in
/-- What any number of steps lead to, in any order. -/
inductive System.Reaches (start : System Client World Request Response α) :
    System Client World Request Response α → Prop where
  | start : Reaches start start
  | step {system next : System Client World Request Response α}
      (reached : Reaches start system) (moved : system.Step environment next) :
      Reaches start next

variable {environment : Environment Client World Request Response}

/-- After a change of one client's future, another client has the future it had. -/
theorem some_of_update {F : Type} {futures : Client → Option F} {mover client : Client}
    {changed : Option F} {future : F}
    (isFuture : Function.update futures mover changed client = some future) :
    (client = mover ∧ changed = some future) ∨
      (client ≠ mover ∧ futures client = some future) := by
  by_cases isMover : client = mover
  · subst isMover
    rw [Function.update_self] at isFuture
    exact .inl ⟨rfl, isFuture⟩
  · rw [Function.update_of_ne isMover] at isFuture
    exact .inr ⟨isMover, isFuture⟩

/-- Any client that asks for something may be the next one to get an answer. -/
theorem System.Reaches.answered {start system : System Client World Request Response α}
    (reached : start.Reaches environment system) {client : Client} {request : Request}
    {next : Response request → Future Request Response α}
    (asks : system.futures client = some (.ask request next)) (response : Response request)
    (after : World) (answer : environment.answers client system.world request response after) :
    ∃ futures, start.Reaches environment ⟨after, futures⟩ ∧
      futures client = some (next response) ∧
        ∀ other, other ≠ client → futures other = system.futures other :=
  ⟨_, .step reached (.answered asks answer), Function.update_self ..,
    fun _ isOther => Function.update_of_ne isOther ..⟩

/-- A future that has ended asks for nothing, and is not dropped. -/
theorem System.Reaches.stays_done {start system : System Client World Request Response α}
    (reached : start.Reaches environment system) {client : Client} {result : α}
    (isDone : start.futures client = some (.done result)) :
    system.futures client = some (.done result) := by
  induction reached with
  | start => exact isDone
  | step _ moved ih =>
      cases moved with
      | @answered mover request next asks response after answer =>
          have isOther : client ≠ mover := by
            rintro rfl
            cases ih.symm.trans asks
          exact (Function.update_of_ne isOther ..).trans ih
      | @dropped mover request next asks awaits =>
          have isOther : client ≠ mover := by
            rintro rfl
            cases ih.symm.trans asks
          exact (Function.update_of_ne isOther ..).trans ih

variable (environment) in
/-- At some moment between the two, the client's request was answered like this. -/
def System.Answered (start system : System Client World Request Response α) (client : Client)
    (request : Request) (response : Response request) : Prop :=
  ∃ moment after, start.Reaches environment moment ∧
    environment.answers client moment.world request response after ∧
      moment.Reaches environment system

theorem System.Answered.step {start system next : System Client World Request Response α}
    {client : Client} {request : Request} {response : Response request}
    (answered : start.Answered environment system client request response)
    (moved : system.Step environment next) :
    start.Answered environment next client request response := by
  obtain ⟨moment, after, atMoment, answer, since⟩ := answered
  exact ⟨moment, after, atMoment, answer, .step since moved⟩

/-- What is left of a client that asks once is what it started with, until it is answered. -/
theorem System.Reaches.asks_or_answered {start system : System Client World Request Response α}
    (reached : start.Reaches environment system) {client : Client} {request : Request}
    {read : Response request → α}
    (asks : start.futures client = some (.ask request fun response => .done (read response)))
    {future : Future Request Response α} (isLeft : system.futures client = some future) :
    future = .ask request (fun response => .done (read response)) ∨
      ∃ response, future = .done (read response) ∧
        start.Answered environment system client request response := by
  induction reached generalizing future with
  | start => exact .inl (Option.some.inj (isLeft.symm.trans asks))
  | @step system _ reached moved ih =>
      have later (response : Response request) :
          future = .done (read response) ∧
              start.Answered environment system client request response →
            future = .done (read response) ∧
              start.Answered environment _ client request response :=
        And.imp_right fun answered => answered.step moved
      cases moved with
      | @answered mover asked next moverAsks response after answer =>
          rcases some_of_update isLeft with ⟨rfl, ⟨⟩⟩ | ⟨_, before⟩
          · rcases ih moverAsks with same | ⟨_, isDone, _⟩
            · cases same
              exact .inr ⟨response, rfl, system, after, reached, answer,
                .step .start (.answered moverAsks answer)⟩
            · cases isDone
          · exact (ih before).imp_right (Exists.imp later)
      | @dropped mover asked next moverAsks awaits =>
          rcases some_of_update isLeft with ⟨_, isNone⟩ | ⟨_, before⟩
          · cases isNone
          · exact (ih before).imp_right (Exists.imp later)

/-- A client that asks once, and has ended, was answered at some moment of the run. -/
theorem System.Reaches.asked_once {start system : System Client World Request Response α}
    (reached : start.Reaches environment system) {client : Client} {request : Request}
    {read : Response request → α}
    (asks : start.futures client = some (.ask request fun response => .done (read response)))
    {result : α} (isDone : system.futures client = some (.done result)) :
    ∃ response, result = read response ∧
      start.Answered environment system client request response := by
  rcases reached.asks_or_answered asks isDone with isAsking | ⟨response, isRead, answered⟩
  · cases isAsking
  · cases isRead
    exact ⟨response, rfl, answered⟩

/-- A property of a future at every point stays with what is left of it. -/
theorem System.Reaches.throughout {start system : System Client World Request Response α}
    (reached : start.Reaches environment system)
    {holds : Client → Future Request Response α → Prop}
    (atStart : ∀ client future, start.futures client = some future →
      future.Throughout (holds client))
    {client : Client} {future : Future Request Response α}
    (isLeft : system.futures client = some future) : future.Throughout (holds client) := by
  induction reached generalizing future with
  | start => exact atStart client future isLeft
  | step _ moved ih =>
      cases moved with
      | @answered mover request next asks response after answer =>
          rcases some_of_update isLeft with ⟨rfl, ⟨⟩⟩ | ⟨_, wasFuture⟩
          · exact (ih asks).2 response
          · exact ih wasFuture
      | @dropped mover request next asks awaits =>
          rcases some_of_update isLeft with ⟨_, isNone⟩ | ⟨_, wasFuture⟩
          · cases isNone
          · exact ih wasFuture

namespace System

variable {contract : Contract environment} {ends : Client → α → World → Prop}

/-- In a system that meets its contracts, a step of a client keeps to the guarantee. -/
theorem Meets.step {system next : System Client World Request Response α}
    (meets : system.Meets contract ends) (moved : system.Step environment next) :
    next.Meets contract ends ∧ ∃ client, contract.guarantee client system.world next.world := by
  cases moved with
  | @answered mover request rest asks response after answer =>
      obtain ⟨_, _, answered⟩ := meets mover _ asks _ (contract.rely_refl mover _)
      obtain ⟨guaranteed, meetsRest⟩ := answered response after answer
      refine ⟨fun client future isFuture => ?_, mover, guaranteed⟩
      rcases some_of_update isFuture with ⟨rfl, ⟨⟩⟩ | ⟨isOther, wasFuture⟩
      · exact meetsRest
      · exact (meets client future wasFuture).later (contract.rely_of_guarantee isOther guaranteed)
  | @dropped mover request rest asks awaits =>
      obtain ⟨_, droppable, _⟩ := meets mover _ asks _ (contract.rely_refl mover _)
      refine ⟨fun client future isFuture => ?_, mover, droppable awaits⟩
      rcases some_of_update isFuture with ⟨_, isNone⟩ | ⟨isOther, wasFuture⟩
      · cases isNone
      · exact (meets client future wasFuture).later
          (contract.rely_of_guarantee isOther (droppable awaits))

theorem Reaches.meets {start system : System Client World Request Response α}
    (reached : start.Reaches environment system) (atStart : start.Meets contract ends) :
    system.Meets contract ends := by
  induction reached with
  | start => exact atStart
  | step _ moved ih => exact (ih.step moved).1

/-- What every guarantee keeps holds of the world in every run. -/
theorem Reaches.invariant {start system : System Client World Request Response α}
    (reached : start.Reaches environment system) (atStart : start.Meets contract ends)
    {holds : World → Prop}
    (kept : ∀ {client before after}, contract.guarantee client before after → holds before →
      holds after)
    (holdsAtStart : holds start.world) : holds system.world := by
  induction reached with
  | start => exact holdsAtStart
  | step reached moved ih =>
      obtain ⟨_, client, guaranteed⟩ := (reached.meets atStart).step moved
      exact kept guaranteed ih

/-- What a client leaves when it is dropped stays so, if the others keep it. -/
theorem Reaches.dropped {start system : System Client World Request Response α}
    (reached : start.Reaches environment system) (atStart : start.Meets contract ends)
    (isThere : ∀ client, start.futures client ≠ none) (holds : Client → World → Prop)
    (atDrop : ∀ client world, holds client (environment.drops client world))
    (stable : ∀ {client before after}, contract.rely client before after → holds client before →
      holds client after)
    {client : Client} (isDropped : system.futures client = none) : holds client system.world := by
  induction reached with
  | start => exact absurd isDropped (isThere client)
  | step reached moved ih =>
      have meets := reached.meets atStart
      cases moved with
      | @answered mover request next asks response after answer =>
          obtain ⟨_, _, answered⟩ := meets mover _ asks _ (contract.rely_refl mover _)
          by_cases isMover : client = mover
          · subst isMover
            cases (Function.update_self ..).symm.trans isDropped
          · have wasDropped := (Function.update_of_ne isMover ..).symm.trans isDropped
            exact stable (contract.rely_of_guarantee isMover (answered response after answer).1)
              (ih wasDropped)
      | @dropped mover request next asks awaits =>
          obtain ⟨_, droppable, _⟩ := meets mover _ asks _ (contract.rely_refl mover _)
          by_cases isMover : client = mover
          · subst isMover
            exact atDrop client _
          · have wasDropped := (Function.update_of_ne isMover ..).symm.trans isDropped
            exact stable (contract.rely_of_guarantee isMover (droppable awaits)) (ih wasDropped)

end System

end Runs

end SqlxTurso.Library
