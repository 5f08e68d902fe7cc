import Mathlib.Data.List.GetD
import Mathlib.Data.List.Range

/-!
# Streams that unfold from a state

A stream is unfolded step by step: a step fails, finds the end, or gives an item and the
state to go on from.  On the way it may ask a source of its own, and the answers are kept.
The stream is over once it has failed or found its end, and takes no step after that.
-/

namespace SqlxTurso.Library

/-- One step of a stream, with the answers of what it asked. -/
abbrev Unfolding (σ ε α τ : Type) : Type := σ → Except ε (Option (α × σ)) × List τ

namespace Unfolding

variable {σ ε α τ : Type} (step : Unfolding σ ε α τ)

/-- What a poll gives, the state to go on from unless the stream is over, and the answers. -/
def poll : Option σ → Option (Except ε α) × Option σ × List τ
  | none => (none, none, [])
  | some state =>
      match step state with
      | (.error error, asked) => (some (.error error), none, asked)
      | (.ok none, asked) => (none, none, asked)
      | (.ok (some (item, state)), asked) => (some (.ok item), some state, asked)

/-- What a number of polls give, and all the answers. -/
def polls : Nat → Option σ → List (Option (Except ε α)) × List τ
  | 0, _ => ([], [])
  | count + 1, state =>
      let (item, state, asked) := poll step state
      let (items, others) := polls count state
      (item :: items, asked ++ others)

/-- All that a stream yields from a state, and all that it asks for. -/
inductive Yields : σ → List (Except ε α) → List τ → Prop where
  | ends {state : σ} {asked : List τ} :
      step state = (.ok none, asked) → Yields state [] asked
  | failed {state : σ} {error : ε} {asked : List τ} :
      step state = (.error error, asked) → Yields state [.error error] asked
  | item {state next : σ} {item : α} {items : List (Except ε α)} {asked others : List τ} :
      step state = (.ok (some (item, next)), asked) → Yields next items others →
      Yields state (.ok item :: items) (asked ++ others)

/-- The first of a list, and nothing where the list is at its end. -/
def firsts {β : Type} (count : Nat) (items : List β) : List (Option β) :=
  (List.range count).map (items[·]?)

theorem firsts_succ {β : Type} (count : Nat) (items : List β) :
    firsts (count + 1) items = items.head? :: firsts count items.tail := by
  rw [firsts, List.range_succ_eq_map, List.map_cons, List.map_map, firsts]
  congr 1
  · exact List.head?_eq_getElem?.symm
  · apply List.map_congr_left
    intro index _
    exact List.getElem?_tail.symm

/-- Lists of which all first parts agree are the same. -/
theorem firsts_inj {β : Type} {items others : List β} :
    (∀ count, firsts count items = firsts count others) ↔ items = others := by
  constructor
  · intro same
    apply List.ext_getElem?
    intro index
    have atIndex := congrArg (·[index]?) (same (index + 1))
    simpa only [firsts, List.getElem?_map, List.getElem?_range (Nat.lt_succ_self index),
      Option.map_some, Option.some.injEq] using atIndex
  · intro same count
    rw [same]

variable {step}

/-- A stream that is over yields nothing more and asks for nothing more. -/
theorem polls_over (count : Nat) : step.polls count none = (firsts count [], []) := by
  induction count with
  | zero => rfl
  | succ count ih =>
      rw [polls, firsts_succ]
      dsimp only [poll]
      rw [ih]
      rfl

/-- Any number of polls give the first that the stream yields, and then nothing. -/
theorem Yields.polls {state : σ} {items : List (Except ε α)} {asked : List τ}
    (yields : Yields step state items asked) (count : Nat) :
    (step.polls count (some state)).1 = firsts count items ∧
      (step.polls count (some state)).2 <+: asked := by
  induction count generalizing state items asked with
  | zero => exact ⟨rfl, List.nil_prefix⟩
  | succ count ih =>
      rw [Unfolding.polls, firsts_succ]
      cases yields with
      | ends isStep =>
          simp only [poll, isStep, polls_over, List.append_nil]
          exact ⟨rfl, List.prefix_rfl⟩
      | failed isStep =>
          simp only [poll, isStep, polls_over, List.append_nil]
          exact ⟨rfl, List.prefix_rfl⟩
      | item isStep goesOn =>
          obtain ⟨areItems, areAsked⟩ := ih goesOn
          simp only [poll, isStep, areItems]
          exact ⟨rfl, (List.prefix_append_right_inj _).mpr areAsked⟩

/-- A stream that asks once more before it goes on as another one yields the same. -/
theorem Yields.asking {state other : σ} {items : List (Except ε α)} {asked : List τ}
    (yields : Yields step other items asked) {first : τ}
    (asks : step state = ((step other).1, first :: (step other).2)) :
    Yields step state items (first :: asked) := by
  cases yields with
  | ends isStep =>
      rw [isStep] at asks
      exact .ends asks
  | failed isStep =>
      rw [isStep] at asks
      exact .failed asks
  | item isStep goesOn =>
      rw [isStep] at asks
      exact .item asks goesOn

end Unfolding

end SqlxTurso.Library
