import Mathlib.Algebra.Order.Round
import Mathlib.Data.Prod.Lex
import Mathlib.Tactic.Linarith
import Mathlib.Tactic.Ring

/-!
# Numbers in wholes and parts

A number is rounded to parts, so many to the whole.  Its floor and the parts in its rounded
fraction count as much as the whole number does when it is rounded at once, and counts of
parts are ordered like their wholes and the parts that are left.
-/

namespace SqlxTurso.Library

/-! ## Rounding -/

section Rounding

variable {α : Type} [Field α] [LinearOrder α] [FloorRing α]

/-- The nearest integer, and of two the one that is further from zero. -/
def roundHalfAway (number : α) : ℤ :=
  if 0 ≤ number then round number else -round (-number)

theorem roundHalfAway_of_nonneg {number : α} (nonneg : 0 ≤ number) :
    roundHalfAway number = round number := if_pos nonneg

variable [IsStrictOrderedRing α]

theorem round_mono {lower upper : α} (le : lower ≤ upper) : round lower ≤ round upper := by
  rw [round_eq, round_eq]
  exact Int.floor_mono (add_le_add_left le _)

/-- Rounding keeps a number between integers. -/
theorem round_within {number : α} {low high : ℤ} (low_le : (low : α) ≤ number)
    (le_high : number ≤ high) : low ≤ round number ∧ round number ≤ high := by
  have lower := round_mono low_le
  have upper := round_mono le_high
  rw [round_intCast] at lower upper
  exact ⟨lower, upper⟩

/-- The parts in the wholes and in the fraction are those of the number. -/
theorem floor_mul_add_round (number : α) (scale : ℤ) :
    ⌊number⌋ * scale + round ((number - ⌊number⌋) * scale) = round (number * scale) := by
  rw [← round_intCast_add]
  congr 1
  push_cast
  ring

/-- The fraction is rounded to no more parts than a whole has. -/
theorem round_fraction_within (number : α) {scale : ℤ} (positive : 0 < scale) :
    0 ≤ round ((number - ⌊number⌋) * scale) ∧
      round ((number - ⌊number⌋) * scale) ≤ scale := by
  have scale_nonneg : (0 : α) ≤ scale := Int.cast_nonneg positive.le
  have below : number - ⌊number⌋ ≤ 1 := (Int.fract_lt_one number).le
  apply round_within
  · rw [Int.cast_zero]
    exact mul_nonneg (Int.fract_nonneg number) scale_nonneg
  · exact mul_le_of_le_one_left scale_nonneg below

/-- The rounded parts are within half a part of the number. -/
theorem abs_round_div_sub (number : α) {scale : ℤ} (positive : 0 < scale) :
    |(round (number * scale) : α) / scale - number| ≤ 1 / (2 * scale) := by
  have scale_pos : (0 : α) < scale := Int.cast_pos.mpr positive
  have parts : (round (number * scale) : α) / scale - number =
      (round (number * scale) - number * scale) / scale := by
    rw [sub_div, mul_div_cancel_right₀ number scale_pos.ne']
  rw [parts, abs_div, abs_of_pos scale_pos, abs_sub_comm, ← div_div]
  exact div_le_div_of_nonneg_right (abs_sub_round _) scale_pos.le

end Rounding

/-! ## Wholes -/

variable {scale : ℤ}

/-- The wholes in a count of parts and the parts that are left. -/
def wholes (scale count : ℤ) : ℤ ×ₗ ℤ := toLex (count / scale, count % scale)

/-- Wholes with fewer parts than another whole are not changed. -/
theorem wholes_eq {whole parts : ℤ} (nonneg : 0 ≤ parts) (below : parts < scale) :
    wholes scale (whole * scale + parts) = toLex (whole, parts) := by
  have positive : 0 < scale := nonneg.trans_lt below
  rw [wholes, Int.add_comm, Int.add_mul_ediv_right _ _ positive.ne',
    Int.add_mul_emod_self_right, Int.ediv_eq_zero_of_lt nonneg below,
    Int.emod_eq_of_lt nonneg below, Int.zero_add]

/-- A whole of parts is carried. -/
theorem wholes_carry (positive : 0 < scale) (whole : ℤ) :
    wholes scale (whole * scale + scale) = toLex (whole + 1, 0) := by
  have carried : wholes scale ((whole + 1) * scale + 0) = toLex (whole + 1, 0) :=
    wholes_eq le_rfl positive
  rwa [Int.add_zero, Int.add_mul, Int.one_mul] at carried

/-- A count is the sum of its wholes and of the parts that are left. -/
theorem wholes_sum {α : Type} [Field α] [CharZero α] (count : ℤ)
    (positive : 0 < scale) :
    ((count / scale : ℤ) : α) + ((count % scale : ℤ) : α) / scale = count / scale := by
  have scale_ne : (scale : α) ≠ 0 := Int.cast_ne_zero.mpr positive.ne'
  have parts : (count : α) = (count / scale : ℤ) * scale + (count % scale : ℤ) := by
    rw [← Int.cast_mul, ← Int.cast_add, Int.mul_comm, Int.mul_ediv_add_emod]
  conv_rhs => rw [parts]
  rw [add_div, mul_div_cancel_right₀ _ scale_ne]

theorem wholes_mono (positive : 0 < scale) {lower upper : ℤ} (le : lower ≤ upper) :
    wholes scale lower ≤ wholes scale upper := by
  rw [wholes, wholes, Prod.Lex.toLex_le_toLex]
  rcases (Int.ediv_le_ediv positive le).lt_or_eq with fewer | same
  · exact .inl fewer
  · refine .inr ⟨same, ?_⟩
    have lowerCount := Int.mul_ediv_add_emod lower scale
    have upperCount := Int.mul_ediv_add_emod upper scale
    have sameParts : scale * (lower / scale) = scale * (upper / scale) := congrArg _ same
    dsimp only
    omega

end SqlxTurso.Library
