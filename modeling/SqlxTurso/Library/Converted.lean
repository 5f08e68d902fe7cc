import SqlxTurso.Library.Unfolding

/-!
# Streams of converted items

Every item of a stream is converted by itself.  A conversion that fails is an error in the
place of its item, and the stream goes on after it, as it does not after an error of its own.
-/

namespace SqlxTurso.Library.Unfolding

variable {σ ε α β τ : Type} (step : Unfolding σ ε α τ) (convert : α → Except ε β)

/-- What a poll of the converted stream gives. -/
def pollConverted (state : Option σ) : Option (Except ε β) × Option σ × List τ :=
  let (item, state, asked) := step.poll state
  (item.map (· >>= convert), state, asked)

/-- What a number of polls of the converted stream give, and all the answers. -/
def pollsConverted : Nat → Option σ → List (Option (Except ε β)) × List τ
  | 0, _ => ([], [])
  | count + 1, state =>
      let (item, state, asked) := pollConverted step convert state
      let (items, others) := pollsConverted count state
      (item :: items, asked ++ others)

/-- The converted stream gives what the stream gives, and asks for the same. -/
theorem pollsConverted_eq (count : Nat) (state : Option σ) :
    pollsConverted step convert count state =
      ((step.polls count state).1.map (Option.map (· >>= convert)),
        (step.polls count state).2) := by
  induction count generalizing state with
  | zero => rfl
  | succ count ih =>
      rw [pollsConverted, polls, pollConverted]
      dsimp only
      rw [ih, List.map_cons]

variable {step convert}

theorem firsts_map {δ : Type} (change : α → δ) (count : Nat) (items : List α) :
    firsts count (items.map change) = (firsts count items).map (Option.map change) := by
  simp only [firsts, List.map_map, List.getElem?_map]
  rfl

/-- Any number of polls give the first items of the stream, converted. -/
theorem Yields.pollsConverted {state : σ} {items : List (Except ε α)} {asked : List τ}
    (yields : Yields step state items asked) (count : Nat) :
    (step.pollsConverted convert count (some state)).1 =
        firsts count (items.map (· >>= convert)) ∧
      (step.pollsConverted convert count (some state)).2 <+: asked := by
  rw [pollsConverted_eq, (yields.polls count).1, firsts_map]
  exact ⟨rfl, (yields.polls count).2⟩

end SqlxTurso.Library.Unfolding
