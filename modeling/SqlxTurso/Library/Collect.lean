import Mathlib.Data.List.Forall2

/-!
# Collecting results

A list of computations that may fail is run from left to right and stops at the first
failure.
-/

namespace SqlxTurso.Library

variable {α β ε : Type}

/-- All results are collected exactly when each computation returns its own. -/
theorem mapM_eq_ok_iff (f : α → Except ε β) (list : List α) (results : List β) :
    list.mapM f = .ok results ↔ List.Forall₂ (fun value result => f value = .ok result)
      list results := by
  induction list generalizing results with
  | nil =>
      rw [List.forall₂_nil_left_iff]
      constructor
      · intro collected
        cases collected
        rfl
      · intro isEmpty
        rw [isEmpty]
        rfl
  | cons value list ih =>
      rw [List.mapM_cons, List.forall₂_cons_left_iff]
      constructor
      · intro collected
        cases first : f value with
        | error error =>
            rw [first] at collected
            cases collected
        | ok result =>
            rw [first] at collected
            cases rest : list.mapM f with
            | error error =>
                rw [rest] at collected
                cases collected
            | ok others =>
                rw [rest] at collected
                cases collected
                exact ⟨result, others, rfl, (ih others).mp rest, rfl⟩
      · rintro ⟨result, others, first, rest, rfl⟩
        rw [first, (ih others).mpr rest]
        rfl

/-- What is related along two lists is related at each place. -/
theorem forall₂_getElem? {relation : α → β → Prop} {list : List α} {results : List β}
    (related : List.Forall₂ relation list results) {index : Nat} {value : α} {result : β}
    (isValue : list[index]? = some value) (isResult : results[index]? = some result) :
    relation value result := by
  obtain ⟨inList, rfl⟩ := List.getElem?_eq_some_iff.mp isValue
  obtain ⟨inResults, rfl⟩ := List.getElem?_eq_some_iff.mp isResult
  exact related.get inList inResults

/-- Two relations hold along two lists together exactly when each of them does. -/
theorem forall₂_and_iff {first second : α → β → Prop} {list : List α} {results : List β} :
    List.Forall₂ (fun value result => first value result ∧ second value result) list results ↔
      List.Forall₂ first list results ∧ List.Forall₂ second list results := by
  constructor
  · intro both
    exact ⟨both.imp fun _ _ holds => holds.1, both.imp fun _ _ holds => holds.2⟩
  · rintro ⟨holdsFirst, holdsSecond⟩
    induction holdsFirst with
    | nil => exact .nil
    | cons head _ ih =>
        cases holdsSecond with
        | cons secondHead secondTail => exact .cons ⟨head, secondHead⟩ (ih secondTail)

/-- Results along a list exist exactly when each value has one. -/
theorem exists_forall₂_iff {relation : α → β → Prop} {list : List α} :
    (∃ results, List.Forall₂ relation list results) ↔
      ∀ value ∈ list, ∃ result, relation value result := by
  induction list with
  | nil => exact ⟨fun _ _ isMember => absurd isMember List.not_mem_nil, fun _ => ⟨[], .nil⟩⟩
  | cons value list ih =>
      rw [List.forall_mem_cons, ← ih]
      constructor
      · rintro ⟨_, related⟩
        cases related with
        | cons head tail => exact ⟨⟨_, head⟩, _, tail⟩
      · rintro ⟨⟨result, head⟩, results, tail⟩
        exact ⟨result :: results, .cons head tail⟩

/-- What holds of the second list alone, told next to the first. -/
theorem forall_mem_iff_forall₂ {relation condition : α → β → Prop} {holds : β → Prop}
    (same : ∀ value result, relation value result → (holds result ↔ condition value result))
    {list : List α} {results : List β} (related : List.Forall₂ relation list results) :
    (∀ result ∈ results, holds result) ↔ List.Forall₂ condition list results := by
  induction related with
  | nil => exact ⟨fun _ => .nil, fun _ _ isMember => absurd isMember List.not_mem_nil⟩
  | cons head _ ih => rw [List.forall_mem_cons, List.forall₂_cons, ih, same _ _ head]

end SqlxTurso.Library
