import LoxTokens.Binary64.Basic
import Mathlib.Algebra.Order.Field.Rat
import Mathlib.Algebra.Order.Field.Power
import Mathlib.Order.Monotone.Basic
import Mathlib.Tactic.Linarith
import Mathlib.Tactic.NormNum
import Mathlib.Tactic.Positivity
import Mathlib.Tactic.Ring

/-! The numbers that the bits of magnitudes stand for, and the grids on which they lie. -/

namespace LoxTokens.Binary64

/-- The significand of a finite magnitude, with the bit that the normal numbers leave out. -/
def significand (magnitude : Nat) : Nat :=
  if magnitude / hiddenBit = 0 then magnitude % hiddenBit else hiddenBit + magnitude % hiddenBit

/-- The finite magnitude with these bits as a rational number. -/
def rational (magnitude : Nat) : ℚ := stepsOf magnitude / 2 ^ depth

/-- The bits of a significand on the grid that has a given number of doublings. -/
def onGrid (doublings significand : Nat) : Nat := doublings * hiddenBit + significand

/-- A significand with all its bits, unless the grid is the finest one. -/
def IsPlaced (doublings significand : Nat) : Prop := doublings = 0 ∨ hiddenBit ≤ significand

/-- Every magnitude has a significand of 53 bits on one of the grids. -/
theorem exists_onGrid (magnitude : Nat) : ∃ doublings significand,
    magnitude = onGrid doublings significand ∧ IsPlaced doublings significand ∧
      significand < 2 * hiddenBit := by
  -- The two lowest fields share the finest grid.
  refine ⟨magnitude / hiddenBit - 1, magnitude - (magnitude / hiddenBit - 1) * hiddenBit, ?_⟩
  unfold onGrid IsPlaced hiddenBit
  omega

/-- The steps of a magnitude are its significand, doubled; the next power of two is no exception. -/
theorem stepsOf_onGrid {doublings significand : Nat} (placed : IsPlaced doublings significand)
    (bounded : significand ≤ 2 * hiddenBit) :
    stepsOf (onGrid doublings significand) = significand * 2 ^ doublings := by
  have positive : 0 < hiddenBit := by decide
  unfold stepsOf onGrid
  rcases Nat.lt_or_ge significand hiddenBit with small | large
  · -- Only the finest grid has significands this small.
    obtain rfl : doublings = 0 := by
      rcases placed with finest | large
      · exact finest
      · omega
    simp [Nat.div_eq_of_lt small, Nat.mod_eq_of_lt small]
  · rcases Nat.lt_or_eq_of_le bounded with inside | top
    · have field : (doublings * hiddenBit + significand) / hiddenBit = doublings + 1 := by
        unfold hiddenBit at *
        omega
      have fraction : (doublings * hiddenBit + significand) % hiddenBit =
          significand - hiddenBit := by
        unfold hiddenBit at *
        omega
      simp only [field, fraction, Nat.shiftLeft_eq, Nat.add_sub_cancel]
      rw [if_neg (by omega), Nat.add_sub_cancel' large]
    · have field : (doublings * hiddenBit + significand) / hiddenBit = doublings + 2 := by
        unfold hiddenBit at *
        omega
      have fraction : (doublings * hiddenBit + significand) % hiddenBit = 0 := by
        unfold hiddenBit at *
        omega
      simp only [field, fraction, Nat.shiftLeft_eq, Nat.add_zero]
      rw [if_neg (by omega), top]
      show hiddenBit * 2 ^ (doublings + 1) = _
      ring

/-- A magnitude on a grid is its significand in units of that grid. -/
theorem rational_onGrid {doublings significand : Nat} (placed : IsPlaced doublings significand)
    (bounded : significand ≤ 2 * hiddenBit) :
    rational (onGrid doublings significand) = significand * 2 ^ doublings / 2 ^ depth := by
  rw [rational, stepsOf_onGrid placed bounded, Nat.cast_mul, Nat.cast_pow, Nat.cast_ofNat]

/-- The bits of magnitudes are in the order of their steps. -/
theorem strictMono_stepsOf : StrictMono stepsOf := by
  -- One more in the bits is one more in the significand, on the same grid.
  apply strictMono_nat_of_lt_succ
  intro magnitude
  obtain ⟨doublings, significand, rfl, placed, bounded⟩ := exists_onGrid magnitude
  have next : IsPlaced doublings (significand + 1) := by
    rcases placed with finest | large
    · exact .inl finest
    · exact .inr (by omega)
  have successor : onGrid doublings significand + 1 = onGrid doublings (significand + 1) := by
    rw [onGrid, onGrid, Nat.add_assoc]
  rw [successor, stepsOf_onGrid placed (by omega), stepsOf_onGrid next (by omega)]
  exact Nat.mul_lt_mul_of_pos_right (by omega) (Nat.two_pow_pos doublings)

/-- The bits of magnitudes are in the order of the numbers they stand for. -/
theorem strictMono_rational : StrictMono rational := by
  intro lower upper less
  apply div_lt_div_of_pos_right _ (by positivity)
  exact Nat.cast_lt.mpr (strictMono_stepsOf less)

/-- The magnitude with no bits set is zero. -/
@[simp] theorem rational_zero : rational 0 = 0 := by
  have none : stepsOf 0 = 0 := by decide
  rw [rational, none, Nat.cast_zero, zero_div]

/-- The significand is even exactly when the bits are. -/
theorem significand_mod_two (magnitude : Nat) : significand magnitude % 2 = magnitude % 2 := by
  unfold significand hiddenBit
  split <;> omega

/-- Each magnitude lies on a given grid, or below all significands of 53 bits on that grid. -/
theorem stepsOf_multiple_or_lt (magnitude doublings : Nat) :
    (∃ multiple, stepsOf magnitude = multiple * 2 ^ doublings) ∨
      (0 < doublings ∧ stepsOf magnitude < hiddenBit * 2 ^ doublings) := by
  obtain ⟨finer, significand, rfl, placed, bounded⟩ := exists_onGrid magnitude
  rw [stepsOf_onGrid placed (by omega)]
  rcases Nat.lt_or_ge finer doublings with below | above
  · -- The grid of the magnitude is finer by one doubling at least.
    refine .inr ⟨by omega, ?_⟩
    calc significand * 2 ^ finer
        < 2 * hiddenBit * 2 ^ finer := Nat.mul_lt_mul_of_pos_right bounded (Nat.two_pow_pos finer)
      _ = hiddenBit * 2 ^ (finer + 1) := by ring
      _ ≤ hiddenBit * 2 ^ doublings :=
        Nat.mul_le_mul_left _ (Nat.pow_le_pow_right (by omega) below)
  · refine .inl ⟨significand * 2 ^ (finer - doublings), ?_⟩
    rw [Nat.mul_assoc, ← Nat.pow_add, Nat.sub_add_cancel above]

end LoxTokens.Binary64
