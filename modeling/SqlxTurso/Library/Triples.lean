import SqlxTurso.Library.Alone

/-!
# Triples under interference

What a future that may fail does to a world that other clients change meanwhile, told by a
condition before it and one for its result.  Both are kept by the other clients.
-/

namespace SqlxTurso.Library

/-! ## Requests of a larger environment -/

namespace Future

variable {Request Wider : Type} {Response : Request → Type} {Answer : Wider → Type}
  {α : Type}

variable (send : Request → Wider) (read : ∀ request, Answer (send request) → Response request) in
/-- The future, with each request sent as one of another environment. -/
def translate : Future Request Response α → Future Wider Answer α
  | done result => done result
  | ask request next => ask (send request) fun answer => (next (read request answer)).translate

end Future

variable {Client World Request : Type} {Response : Request → Type} {ε ε' α β : Type}
  {environment : Environment Client World Request Response}

namespace Contract

variable (contract : Contract environment) (client : Client)

/-- The other clients keep the condition. -/
def Stable (holds : World → Prop) : Prop :=
  ∀ before after, contract.rely client before after → holds before → holds after

/-- Whatever the others do, the action keeps to the contract from a world that meets the
first condition, and its result meets the second one. -/
def Triple (before : World → Prop) (action : ExceptT ε (Future Request Response) α)
    (after : Except ε α → World → Prop) : Prop :=
  ∀ world, before world → action.run.Meets contract client after world

/-- A condition for each value, and one for each error. -/
def Onward (returned : α → World → Prop) (after : Except ε β → World → Prop) :
    Except ε α → World → Prop
  | .ok value => returned value
  | .error error => after (.error error)

end Contract

namespace Contract

variable {contract : Contract environment} {client : Client}

theorem Stable.and {first second : World → Prop} (firstStable : contract.Stable client first)
    (secondStable : contract.Stable client second) :
    contract.Stable client fun world => first world ∧ second world :=
  fun before after relied holds =>
    ⟨firstStable before after relied holds.1, secondStable before after relied holds.2⟩

theorem Stable.onward {returned : α → World → Prop} {after : Except ε β → World → Prop}
    (stable : ∀ value, contract.Stable client (returned value))
    (stableError : ∀ error, contract.Stable client (after (.error error))) (result : Except ε α) :
    contract.Stable client (Onward returned after result) := by
  cases result with
  | ok value => exact stable value
  | error error => exact stableError error

namespace Triple

variable {before : World → Prop} {after : Except ε α → World → Prop}

theorem pure {value : α} (stable : contract.Stable client (after (.ok value)))
    (holds : ∀ world, before world → after (.ok value) world) :
    contract.Triple client before (Pure.pure value) after :=
  fun world atWorld later relied => stable world later relied (holds world atWorld)

theorem fail {error : ε} (stable : contract.Stable client (after (.error error)))
    (holds : ∀ world, before world → after (.error error) world) :
    contract.Triple client before (throw error) after :=
  fun world atWorld later relied => stable world later relied (holds world atWorld)

/-- A request, with how its response is read. -/
theorem ask {request : Request} {read : Response request → Except ε α}
    (stable : contract.Stable client before)
    (stableAfter : ∀ result, contract.Stable client (after result))
    (permitted : ∀ world, before world → contract.permits client world request)
    (droppable : ∀ world, before world → environment.awaits request = true →
      contract.guarantee client world (environment.drops client world))
    (answered : ∀ world response later, before world →
      environment.answers client world request response later →
      contract.guarantee client world later ∧ after (read response) later) :
    contract.Triple client before
      (ExceptT.mk (.ask request fun response => .done (read response))) after := by
  intro start atStart world relied
  have atWorld := stable start world relied atStart
  refine ⟨permitted world atWorld, droppable world atWorld, fun response later answer => ?_⟩
  obtain ⟨guaranteed, holds⟩ := answered world response later atWorld answer
  exact ⟨guaranteed, fun last reliedLast => stableAfter _ later last reliedLast holds⟩

theorem bind {action : ExceptT ε (Future Request Response) β}
    {next : β → ExceptT ε (Future Request Response) α} (returned : β → World → Prop)
    (stable : ∀ error, contract.Stable client (after (.error error)))
    (first : contract.Triple client before action (Onward returned after))
    (rest : ∀ value, contract.Triple client (returned value) (next value) after) :
    contract.Triple client before (action >>= next) after := by
  intro world atWorld
  refine .bindExcept ((first world atWorld).imp fun result later holds => ?_)
  cases result with
  | ok value => exact rest value later holds
  | error error => exact fun last relied => stable error later last relied holds

theorem mono {stronger : Except ε α → World → Prop} {weaker : World → Prop}
    {action : ExceptT ε (Future Request Response) α}
    (triple : contract.Triple client weaker action stronger)
    (atStart : ∀ world, before world → weaker world)
    (atEnd : ∀ result world, stronger result world → after result world) :
    contract.Triple client before action after :=
  fun world atWorld => (triple world (atStart world atWorld)).imp atEnd

/-- A fact that is no matter of the world can be used. -/
theorem assuming {fact : Prop} {action : ExceptT ε (Future Request Response) α}
    (triple : fact → contract.Triple client before action after) :
    contract.Triple client (fun world => before world ∧ fact) action after :=
  fun world atWorld => triple atWorld.2 world atWorld.1

/-- What holds however the action ends holds after a value. -/
theorem onward {holds : World → Prop} {action : ExceptT ε (Future Request Response) α}
    (triple : contract.Triple client before action fun _ => holds) :
    contract.Triple client before action
      (Onward (fun _ => holds) fun (_ : Except ε β) => holds) :=
  triple.mono (fun _ atStart => atStart) fun result _ atEnd => by cases result <;> exact atEnd

theorem mapError {convert : ε' → ε} {action : ExceptT ε' (Future Request Response) α}
    (stable : ∀ result, contract.Stable client (after result))
    (triple : contract.Triple client before action fun result => after (result.mapError convert)) :
    contract.Triple client before (Future.mapError convert action) after := by
  intro world atWorld
  refine .bind ((triple world atWorld).imp fun result later holds => ?_)
  exact fun last relied => stable _ later last relied holds

theorem result {action : ExceptT ε' (Future Request Response) β}
    {after : Except ε (Except ε' β) → World → Prop}
    (stable : ∀ result, contract.Stable client (after result))
    (triple : contract.Triple client before action fun result => after (.ok result)) :
    contract.Triple client before (Future.result action) after := by
  intro world atWorld
  refine .bind ((triple world atWorld).imp fun result later holds => ?_)
  exact fun last relied => stable _ later last relied holds

theorem whenTrue {flag : Bool} {action : ExceptT ε (Future Request Response) Unit}
    {after : Except ε Unit → World → Prop} (stable : contract.Stable client (after (.ok ())))
    (taken : flag = true → contract.Triple client before action after)
    (skipped : flag = false → ∀ world, before world → after (.ok ()) world) :
    contract.Triple client before (Future.whenTrue flag action) after := by
  cases flag with
  | true => exact taken rfl
  | false => exact .pure stable (skipped rfl)

end Triple

end Contract

/-- Futures that meet triples make a system that meets its contract. -/
theorem System.meets_of_triples {contract : Contract environment} [DecidableEq Client]
    {start : System Client World Request Response (Except ε α)}
    {ends : Client → Except ε α → World → Prop} (before : Client → World → Prop)
    (atStart : ∀ client, before client start.world)
    (triples : ∀ client future, start.futures client = some future →
      contract.Triple client (before client) (ExceptT.mk future) (ends client)) :
    start.Meets contract ends :=
  fun client future isFuture => triples client future isFuture start.world (atStart client)

end SqlxTurso.Library
