import Mathlib.Data.List.Induction
import Mathlib.Data.List.Nodup
import Mathlib.Logic.Function.Basic

/-!
# Entries that are replaced in place

A list of entries is written one entry after another.  An entry with a new key goes to the
end, and any other one takes the place of the entry with its key.  The list that a history
of entries leaves holds each key where it was first written, with its last value.
-/

namespace SqlxTurso.Library

variable {Key Value : Type} [DecidableEq Key]

/-- Replace the value of the first entry with the key, or add one at the end. -/
def replace (key : Key) (value : Value) : List (Key × Value) → List (Key × Value)
  | [] => [(key, value)]
  | (name, existing) :: rest =>
      if name = key then (name, value) :: rest
      else (name, existing) :: replace key value rest

/-- The list that a history of entries leaves. -/
def written (history : List (Key × Value)) : List (Key × Value) :=
  history.foldl (fun list entry => replace entry.1 entry.2 list) []

/-- The keys of a history in the order in which they were first written. -/
def firstKeys (history : List (Key × Value)) : List Key :=
  history.foldl (fun keys entry => if entry.1 ∈ keys then keys else keys ++ [entry.1]) []

/-- The value that was written last for a key. -/
def lastValue (history : List (Key × Value)) (key : Key) : Option Value :=
  ((history.filter fun entry => entry.1 = key).getLast?).map Prod.snd

section History

variable (history : List (Key × Value)) (key : Key) (value : Value)

@[simp] theorem written_append :
    written (history ++ [(key, value)]) = replace key value (written history) := by
  simp [written]

@[simp] theorem firstKeys_append :
    firstKeys (history ++ [(key, value)]) =
      if key ∈ firstKeys history then firstKeys history else firstKeys history ++ [key] := by
  rw [firstKeys, List.foldl_append]
  rfl

@[simp] theorem lastValue_append :
    lastValue (history ++ [(key, value)]) =
      Function.update (lastValue history) key (some value) := by
  funext other
  by_cases same : key = other
  · subst same
    simp [lastValue]
  · rw [Function.update_of_ne (Ne.symm same)]
    simp [lastValue, same]

theorem nodup_firstKeys : (firstKeys history).Nodup := by
  induction history using List.reverseRecOn with
  | nil => exact List.nodup_nil
  | append_singleton history entry ih =>
      rw [firstKeys_append]
      split
      next => exact ih
      next fresh => exact List.nodup_append.mpr ⟨ih, List.nodup_singleton _, by
        intro first isFirst second isSecond same
        rw [List.mem_singleton] at isSecond
        exact fresh (isSecond ▸ same ▸ isFirst)⟩

theorem mem_firstKeys_iff : key ∈ firstKeys history ↔ (lastValue history key).isSome = true := by
  induction history using List.reverseRecOn with
  | nil => simp [firstKeys, lastValue]
  | append_singleton history entry ih =>
      rw [firstKeys_append, lastValue_append]
      by_cases same : key = entry.1
      · rw [same, Function.update_self]
        split
        next known => simpa using known
        next => simp
      · rw [Function.update_of_ne same, ← ih]
        split
        next => exact Iff.rfl
        next => simp [same]

end History

/-- Entries with some of the keys of a list, in the order of the list. -/
def entriesOf (values : Key → Option Value) (keys : List Key) : List (Key × Value) :=
  keys.filterMap fun key => (values key).map ((key, ·))

omit [DecidableEq Key] in
theorem entriesOf_cons {values : Key → Option Value} {key : Key} {value : Value}
    (isValue : values key = some value) (keys : List Key) :
    entriesOf values (key :: keys) = (key, value) :: entriesOf values keys := by
  rw [entriesOf, List.filterMap_cons, isValue]
  rfl

theorem replace_entriesOf {values : Key → Option Value} {keys : List Key}
    (nodup : keys.Nodup) (valued : ∀ key ∈ keys, (values key).isSome = true) (key : Key)
    (value : Value) :
    replace key value (entriesOf values keys) =
      entriesOf (Function.update values key (some value))
        (if key ∈ keys then keys else keys ++ [key]) := by
  induction keys with
  | nil => simp [entriesOf, replace]
  | cons first keys ih =>
      rw [List.nodup_cons] at nodup
      rw [List.forall_mem_cons] at valued
      obtain ⟨existing, isExisting⟩ := Option.isSome_iff_exists.mp valued.1
      rw [entriesOf_cons isExisting, replace]
      by_cases same : first = key
      · subst same
        have untouched : entriesOf (Function.update values first (some value)) keys =
            entriesOf values keys := by
          apply List.filterMap_congr
          intro other isOther
          have differs : other ≠ first := by
            rintro rfl
            exact nodup.1 isOther
          rw [Function.update_of_ne differs]
        rw [if_pos rfl, if_pos List.mem_cons_self,
          entriesOf_cons (Function.update_self first (some value) values), untouched]
      · have kept : Function.update values key (some value) first = some existing := by
          rw [Function.update_of_ne same, isExisting]
        rw [if_neg same, ih nodup.2 valued.2]
        by_cases known : key ∈ keys
        · rw [if_pos known, if_pos (List.mem_cons_of_mem _ known), entriesOf_cons kept]
        · have fresh : key ∉ first :: keys := by
            rw [List.mem_cons, not_or]
            exact ⟨Ne.symm same, known⟩
          rw [if_neg known, if_neg fresh, List.cons_append, entriesOf_cons kept]

/-- Each key stands where it was first written, with the value that was written last. -/
theorem written_eq (history : List (Key × Value)) :
    written history = entriesOf (lastValue history) (firstKeys history) := by
  induction history using List.reverseRecOn with
  | nil => rfl
  | append_singleton history entry ih =>
      have valued : ∀ key ∈ firstKeys history, (lastValue history key).isSome = true :=
        fun key known => (mem_firstKeys_iff history key).mp known
      rw [written_append, ih, replace_entriesOf (nodup_firstKeys history) valued,
        firstKeys_append, lastValue_append]

end SqlxTurso.Library
