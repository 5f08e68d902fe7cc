import Mathlib.Data.List.Nodup
import Mathlib.Data.List.Perm.Basic

/-!
# Reordering a fold

A fold over a list gives the same result over a permutation of it when no two steps that
do not commute change their order.  Where two steps write the same part of the result,
the one that comes last decides.
-/

namespace SqlxTurso.Library

variable {σ α γ : Type} {step : σ → α → σ}

/-- A step that commutes with those before it may be taken first. -/
theorem foldl_moved {first : List α} {value : α}
    (commutes : ∀ other ∈ first, ∀ state,
      step (step state value) other = step (step state other) value) (state : σ) :
    step (first.foldl step state) value = first.foldl step (step state value) := by
  induction first generalizing state with
  | nil => rfl
  | cons other first ih =>
      rw [List.forall_mem_cons] at commutes
      rw [List.foldl_cons, ih commutes.2, ← commutes.1, List.foldl_cons]

/-- Permuted lists give the same result when the steps that change their order commute. -/
theorem foldl_eq_of_perm {left right : List α} (permuted : left.Perm right)
    (commutes : ∀ first second, [first, second].Sublist left → [second, first].Sublist right →
      ∀ state, step (step state first) second = step (step state second) first)
    (state : σ) : left.foldl step state = right.foldl step state := by
  induction left generalizing right state with
  | nil => rw [permuted.nil_eq]
  | cons value left ih =>
      obtain ⟨before, after, isRight, firstTime⟩ :=
        List.eq_append_cons_of_mem (permuted.subset (List.Mem.head left))
      subst isRight
      have rest : left.Perm (before ++ after) :=
        (permuted.trans List.perm_middle).cons_inv
      have earlier : ∀ other ∈ before, ∀ state,
          step (step state value) other = step (step state other) value := by
        intro other isBefore
        have isLater : other ∈ left := rest.symm.subset (List.mem_append_left after isBefore)
        apply commutes
        · exact (List.singleton_sublist.mpr isLater).cons_cons value
        · exact (List.singleton_sublist.mpr isBefore).append
            (List.singleton_sublist.mpr List.mem_cons_self)
      have kept : (before ++ after).Sublist (before ++ value :: after) :=
        (List.sublist_cons_self value after).append_left before
      calc (value :: left).foldl step state
          = (before ++ after).foldl step (step state value) :=
            ih rest (fun first second inLeft inRight =>
              commutes first second (inLeft.cons value) (inRight.trans kept)) (step state value)
        _ = (before ++ value :: after).foldl step state := by
            rw [List.foldl_append, List.foldl_append, List.foldl_cons, foldl_moved earlier]

/-- A part of the state that the remaining steps keep. -/
theorem foldl_kept {project : σ → γ} {list : List α}
    (keeps : ∀ value ∈ list, ∀ state, project (step state value) = project state) (state : σ) :
    project (list.foldl step state) = project state := by
  induction list generalizing state with
  | nil => rfl
  | cons value list ih =>
      rw [List.forall_mem_cons] at keeps
      rw [List.foldl_cons, ih keeps.2, keeps.1]

/-- The last step that writes a part of the state decides what is there in the end. -/
theorem foldl_last {project : σ → γ} {before after : List α} {value : α} {written : γ}
    (writes : ∀ state, project (step state value) = written)
    (keeps : ∀ other ∈ after, ∀ state, project (step state other) = project state) (state : σ) :
    project ((before ++ value :: after).foldl step state) = written := by
  rw [List.foldl_append, List.foldl_cons, foldl_kept keeps, writes]

/-- What is in a part of the state in the end: what the last step that writes it wrote. -/
theorem foldl_writes (project : σ → γ) {write : α → Option γ} (list : List α)
    (writes : ∀ value ∈ list, ∀ state,
      project (step state value) = (write value).getD (project state)) (state : σ) :
    project (list.foldl step state) = (list.filterMap write).getLast?.getD (project state) := by
  induction list generalizing state with
  | nil => rfl
  | cons value list ih =>
      rw [List.forall_mem_cons] at writes
      rw [List.foldl_cons, ih writes.2, writes.1]
      cases isWritten : write value with
      | none =>
          rw [List.filterMap_cons_none isWritten]
          rfl
      | some written =>
          rw [List.filterMap_cons_some isWritten, List.getLast?_cons]
          rfl

/-- A flag that steps may only raise is up in the end when one of them raises it. -/
theorem foldl_any (project : σ → Bool) {raises : α → Bool} (list : List α)
    (raised : ∀ value ∈ list, ∀ state,
      project (step state value) = (project state || raises value)) (state : σ) :
    project (list.foldl step state) = (project state || list.any raises) := by
  induction list generalizing state with
  | nil => rw [List.any_nil, Bool.or_false, List.foldl_nil]
  | cons value list ih =>
      rw [List.forall_mem_cons] at raised
      rw [List.foldl_cons, ih raised.2, raised.1, List.any_cons, Bool.or_assoc]

section Keyed

variable {κ : Type} {key : α → κ} {list : List α}

/-- Two members with different keys come in one order or the other. -/
theorem pair_sublist_or {first second : α} (isFirst : first ∈ list) (isSecond : second ∈ list)
    (differ : first ≠ second) :
    [first, second].Sublist list ∨ [second, first].Sublist list := by
  obtain ⟨before, after, rfl⟩ := List.append_of_mem isFirst
  rcases List.mem_append.mp isSecond with isBefore | isAfter
  · exact .inr ((List.singleton_sublist.mpr isBefore).append
      (List.singleton_sublist.mpr List.mem_cons_self))
  · have isLater := (List.mem_cons.mp isAfter).resolve_left (Ne.symm differ)
    exact .inl (((List.singleton_sublist.mpr isLater).cons_cons first).trans
      (List.sublist_append_right before _))

/-- Where two members come in order, the second one splits the list after the first. -/
theorem split_of_pair_sublist {first second : α} (inOrder : [first, second].Sublist list) :
    ∃ before after, list = before ++ second :: after ∧ first ∈ before := by
  obtain ⟨before, rest, rfl, isFirst, isSecond⟩ := List.cons_sublist_iff.mp inOrder
  obtain ⟨middle, after, rfl⟩ := List.append_of_mem (List.singleton_sublist.mp isSecond)
  exact ⟨before ++ middle, after, (List.append_assoc _ _ _).symm,
    List.mem_append_left middle isFirst⟩

theorem not_pair_sublist {first second : α} (unique : list.Nodup)
    (inOrder : [first, second].Sublist list) : ¬[second, first].Sublist list := by
  intro swapped
  induction list with
  | nil => cases inOrder
  | cons value list ih =>
      obtain ⟨isNew, restUnique⟩ := List.nodup_cons.mp unique
      cases inOrder with
      | cons _ inRest =>
          cases swapped with
          | cons _ swappedRest => exact ih restUnique inRest swappedRest
          | cons_cons _ _ => exact isNew (inRest.subset (.tail _ (.head _)))
      | cons_cons _ isLater =>
          cases swapped with
          | cons _ swappedRest => exact isNew (swappedRest.subset (.tail _ (.head _)))
          | cons_cons _ _ => exact isNew (isLater.subset (.head _))

/-- Where keys are unique, the later of two steps writes what only steps with their keys
write. -/
theorem foldl_later (project : σ → γ) {first second : α} {written : γ}
    (unique : (list.map key).Nodup) (inOrder : [first, second].Sublist list)
    (writes : ∀ state, project (step state second) = written)
    (keeps : ∀ other ∈ list, key other ≠ key first → key other ≠ key second →
      ∀ state, project (step state other) = project state) (state : σ) :
    project (list.foldl step state) = written := by
  obtain ⟨before, after, rfl, isFirst⟩ := split_of_pair_sublist inOrder
  rw [List.map_append, List.map_cons] at unique
  have apart := List.nodup_append.mp unique
  have afterApart := List.nodup_cons.mp apart.2.1
  refine foldl_last writes (fun other isOther => keeps other ?_ ?_ ?_) state
  · exact List.mem_append_right _ (List.mem_cons_of_mem _ isOther)
  · intro sameKey
    refine apart.2.2 _ (List.mem_map_of_mem isFirst) _ ?_ sameKey.symm
    exact List.mem_cons_of_mem _ (List.mem_map_of_mem isOther)
  · intro sameKey
    rw [← sameKey] at afterApart
    exact afterApart.1 (List.mem_map_of_mem isOther)

/-- Where keys are unique, a step writes what only steps with its key write. -/
theorem foldl_single (project : σ → γ) {value : α} {written : γ}
    (unique : (list.map key).Nodup) (isMember : value ∈ list)
    (writes : ∀ state, project (step state value) = written)
    (keeps : ∀ other ∈ list, key other ≠ key value →
      ∀ state, project (step state other) = project state) (state : σ) :
    project (list.foldl step state) = written := by
  obtain ⟨before, after, rfl⟩ := List.append_of_mem isMember
  rw [List.map_append, List.map_cons] at unique
  have afterApart := List.nodup_cons.mp (List.nodup_append.mp unique).2.1
  refine foldl_last writes (fun other isOther => keeps other ?_ ?_) state
  · exact List.mem_append_right _ (List.mem_cons_of_mem _ isOther)
  · intro sameKey
    rw [← sameKey] at afterApart
    exact afterApart.1 (List.mem_map_of_mem isOther)

end Keyed

end SqlxTurso.Library
