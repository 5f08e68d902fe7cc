import Mathlib.Data.List.Perm.Basic
import Mathlib.Logic.Function.Basic

/-!
# Rows under a key

A list of rows of which no two have the same key stands for a partial map.  Replacing,
removing and adding a row are updates of that map, and the order of the rows does not
matter to it.
-/

namespace SqlxTurso.Library

variable {ρ κ ν : Type}

/-- The rows hold the values of a map under their keys, each key at most once. -/
structure Represents (key : ρ → κ) (value : ρ → ν) (rows : List ρ) (map : κ → Option ν) :
    Prop where
  distinct : rows.Pairwise fun row other => key row ≠ key other
  entry : ∀ known found, map known = some found ↔
    ∃ row ∈ rows, key row = known ∧ value row = found

namespace Represents

variable {key : ρ → κ} {value : ρ → ν} {rows : List ρ} {map : κ → Option ν}

theorem empty : Represents key value [] fun _ => none := by
  refine ⟨.nil, fun _ _ => ⟨fun isSome => ?_, ?_⟩⟩
  · cases isSome
  · rintro ⟨_, inEmpty, _⟩
    cases inEmpty

section

variable (represents : Represents key value rows map)

include represents

theorem perm {other : List ρ} (permuted : rows.Perm other) : Represents key value other map := by
  refine ⟨(permuted.pairwise_iff Ne.symm).mp represents.distinct, fun known found => ?_⟩
  rw [represents.entry]
  exact exists_congr fun row => and_congr_left fun _ => permuted.mem_iff

theorem none_iff {known : κ} : map known = none ↔ ∀ row ∈ rows, key row ≠ known := by
  rw [Option.eq_none_iff_forall_ne_some]
  constructor
  · intro absent row inRows isKnown
    exact absent (value row) ((represents.entry _ _).mpr ⟨row, inRows, isKnown, rfl⟩)
  · intro absent found isFound
    obtain ⟨row, inRows, isKnown, _⟩ := (represents.entry _ _).mp isFound
    exact absent row inRows isKnown

/-- Rows in order of their keys are in strict order. -/
theorem strict {before strictly : κ → κ → Prop}
    (strictOf : ∀ {first second}, before first second → first ≠ second → strictly first second)
    (sorted : rows.Pairwise fun row other => before (key row) (key other)) :
    rows.Pairwise fun row other => strictly (key row) (key other) :=
  sorted.imp₂ (fun _ _ inOrder notSame => strictOf inOrder notSame) represents.distinct

variable [DecidableEq κ]

theorem add (row : ρ) (absent : map (key row) = none) :
    Represents key value (row :: rows) (Function.update map (key row) (some (value row))) := by
  have fresh := represents.none_iff.mp absent
  refine ⟨List.pairwise_cons.mpr ⟨fun other inRows => (fresh other inRows).symm,
    represents.distinct⟩, fun known found => ?_⟩
  rw [Function.update_apply]
  by_cases isNew : known = key row
  · subst isNew
    rw [if_pos rfl]
    constructor
    · intro isValue
      cases isValue
      exact ⟨row, List.mem_cons_self, rfl, rfl⟩
    · rintro ⟨other, inRows, sameKey, rfl⟩
      cases List.mem_cons.mp inRows with
      | inl isRow => rw [isRow]
      | inr inRest => exact absurd sameKey (fresh other inRest)
  · rw [if_neg isNew, represents.entry]
    constructor
    · rintro ⟨other, inRows, facts⟩
      exact ⟨other, List.mem_cons_of_mem _ inRows, facts⟩
    · rintro ⟨other, inRows, isKnown, isFound⟩
      cases List.mem_cons.mp inRows with
      | inl isRow => exact absurd (isKnown.symm.trans (congrArg key isRow)) isNew
      | inr inRest => exact ⟨other, inRest, isKnown, isFound⟩

theorem remove (gone : κ) :
    Represents key value (rows.filter fun row => key row ≠ gone)
      (Function.update map gone none) := by
  refine ⟨represents.distinct.filter _, fun known found => ?_⟩
  rw [Function.update_apply]
  by_cases isGone : known = gone
  · subst isGone
    rw [if_pos rfl]
    constructor
    · intro isSome
      cases isSome
    · rintro ⟨row, inRows, isKnown, _⟩
      exact absurd isKnown (of_decide_eq_true (List.mem_filter.mp inRows).2)
  · rw [if_neg isGone, represents.entry]
    constructor
    · rintro ⟨row, inRows, isKnown, isFound⟩
      refine ⟨row, List.mem_filter.mpr ⟨inRows, decide_eq_true ?_⟩, isKnown, isFound⟩
      exact isKnown ▸ isGone
    · rintro ⟨row, inRows, facts⟩
      exact ⟨row, (List.mem_filter.mp inRows).1, facts⟩

theorem replace (row : ρ) :
    Represents key value (row :: rows.filter fun other => key other ≠ key row)
      (Function.update map (key row) (some (value row))) := by
  have added := (represents.remove (key row)).add row (Function.update_self _ _ _)
  rwa [Function.update_idem] at added

end

end Represents

end SqlxTurso.Library
