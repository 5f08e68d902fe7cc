import Mathlib.Data.List.Basic

/-!
# Splitting a sequence at separators

A sequence is cut into pieces at its separators, and a piece is filled when one
of its elements is content.  `splitsLater` finds out in one pass, with a look
ahead over the rest, whether content follows a separator that something has
been seen before.  The theorem of this module says what that pass computes in
terms of the pieces.
-/

namespace SqlxTurso.Library

variable {α : Type}

/-- One pass over a sequence.  `seen` records whether anything but blanks has
been read; a separator counts as something once it has been read. -/
def splitsLater (isSeparator isContent : α → Bool) : Bool → List α → Bool
  | _, [] => false
  | seen, item :: rest =>
      if isSeparator item then
        (seen && rest.any isContent) || splitsLater isSeparator isContent true rest
      else
        splitsLater isSeparator isContent (seen || isContent item) rest

section Pieces

variable (isSeparator isContent : α → Bool)

/-- The pieces of a sequence between its separators. -/
def pieces (items : List α) : List (List α) := items.splitOnP isSeparator

/-- A piece is filled when it holds content. -/
def isFilled (piece : List α) : Bool := piece.any isContent

@[simp] theorem pieces_nil : pieces isSeparator [] = [[]] := by
  simp [pieces]

theorem pieces_separator {item : α} (rest : List α)
    (separator : isSeparator item = true) :
    pieces isSeparator (item :: rest) = [] :: pieces isSeparator rest := by
  simp [pieces, List.splitOnP_cons_eq_if_modifyHead, separator]

theorem pieces_other {item : α} (rest : List α)
    (other : isSeparator item = false) :
    pieces isSeparator (item :: rest) =
      (pieces isSeparator rest).modifyHead (item :: ·) := by
  simp [pieces, List.splitOnP_cons_eq_if_modifyHead, other]

theorem pieces_ne_nil (items : List α) : pieces isSeparator items ≠ [] :=
  List.splitOnP_ne_nil isSeparator items

/-- The first piece and the pieces after it. -/
theorem exists_pieces_eq (items : List α) :
    ∃ first others, pieces isSeparator items = first :: others :=
  List.exists_cons_of_ne_nil (pieces_ne_nil isSeparator items)

/-- Content lies in some piece, because separators are not content. -/
theorem any_content_eq (items : List α)
    (disjoint : ∀ item, isSeparator item = true → isContent item = false) :
    items.any isContent = (pieces isSeparator items).any (isFilled isContent) := by
  induction items with
  | nil => simp [isFilled]
  | cons item rest ih =>
      cases kind : isSeparator item with
      | true =>
          rw [pieces_separator isSeparator rest kind, List.any_cons, List.any_cons,
            disjoint item kind, ih]
          simp [isFilled]
      | false =>
          obtain ⟨first, others, split⟩ := exists_pieces_eq isSeparator rest
          rw [pieces_other isSeparator rest kind, split, List.any_cons, ih, split]
          simp [isFilled, Bool.or_assoc]

/-- What the pass computes: content after the first piece when something has
been seen before or the first piece is filled, and content after the second
piece otherwise. -/
theorem splitsLater_eq (items : List α)
    (disjoint : ∀ item, isSeparator item = true → isContent item = false)
    (seen : Bool) :
    splitsLater isSeparator isContent seen items =
      if seen || (pieces isSeparator items).head?.any (isFilled isContent) then
        (pieces isSeparator items).tail.any (isFilled isContent)
      else
        (pieces isSeparator items).tail.tail.any (isFilled isContent) := by
  induction items generalizing seen with
  | nil => simp [splitsLater]
  | cons item rest ih =>
      obtain ⟨first, others, split⟩ := exists_pieces_eq isSeparator rest
      cases kind : isSeparator item with
      | true =>
          rw [pieces_separator isSeparator rest kind]
          simp only [splitsLater, kind, ↓reduceIte, ih,
            any_content_eq isSeparator isContent rest disjoint, split]
          cases seen <;> simp [isFilled]
      | false =>
          rw [pieces_other isSeparator rest kind, split]
          simp only [splitsLater, kind, Bool.false_eq_true, ↓reduceIte, ih, split,
            List.modifyHead_cons, List.head?_cons, Option.any_some, List.tail_cons,
            isFilled, List.any_cons, Bool.or_assoc]

end Pieces

end SqlxTurso.Library
