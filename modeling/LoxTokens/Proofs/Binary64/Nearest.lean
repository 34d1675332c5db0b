import LoxTokens.Proofs.Binary64.Magnitude
import Mathlib.Algebra.Order.Ring.Abs
import Mathlib.Data.Rat.Floor
import Mathlib.Tactic.FieldSimp

/-! Rounding to the nearest magnitude, compared with exact rational numbers. -/

namespace LoxTokens.Binary64

section Quotient

variable {num den : Nat}

/-- A quotient is its whole part and a fraction. -/
theorem div_eq_whole_add_fraction (positive : 0 < den) :
    (num : ℚ) / den = (num / den : Nat) + (num % den : Nat) / (den : ℚ) := by
  have whole : (num : ℚ) = den * (num / den : Nat) + (num % den : Nat) := by
    exact_mod_cast (Nat.div_add_mod num den).symm
  have nonzero : (den : ℚ) ≠ 0 := by positivity
  field_simp
  linarith

/-- Whether the fraction is less than half is a question about twice the remainder. -/
theorem fraction_lt_half_iff (num : Nat) (positive : 0 < den) :
    (num % den : Nat) / (den : ℚ) < 1 / 2 ↔ 2 * (num % den) < den := by
  have above : (0 : ℚ) < den := by positivity
  rw [div_lt_div_iff₀ above (by norm_num), one_mul, mul_comm]
  exact_mod_cast Iff.rfl

/-- Whether the fraction is half is a question about twice the remainder. -/
theorem fraction_eq_half_iff (num : Nat) (positive : 0 < den) :
    (num % den : Nat) / (den : ℚ) = 1 / 2 ↔ 2 * (num % den) = den := by
  have above : (0 : ℚ) < den := by positivity
  rw [div_eq_div_iff above.ne' (by norm_num), one_mul, mul_comm]
  exact_mod_cast Iff.rfl

/-- A rounded quotient is off by half at most, and by half only when it is even. -/
theorem abs_div_sub_roundHalfEven (num : Nat) (positive : 0 < den) :
    |(num : ℚ) / den - roundHalfEven num den| ≤ 1 / 2 ∧
      (|(num : ℚ) / den - roundHalfEven num den| = 1 / 2 → roundHalfEven num den % 2 = 0) := by
  have less := fraction_lt_half_iff num positive
  have half := fraction_eq_half_iff num positive
  have nonneg : (0 : ℚ) ≤ (num % den : Nat) / (den : ℚ) := by positivity
  have proper : (num % den : Nat) / (den : ℚ) < 1 := by
    rw [div_lt_one (by positivity)]
    exact_mod_cast Nat.mod_lt num positive
  rw [div_eq_whole_add_fraction positive]
  unfold roundHalfEven
  generalize (num % den : Nat) / (den : ℚ) = fraction at *
  by_cases down : 2 * (num % den) < den ∨ (2 * (num % den) = den ∧ num / den % 2 = 0)
  · -- Rounding down is off by the fraction, which is half only in a tie.
    have atMost : fraction ≤ 1 / 2 := by
      rcases down with below | ⟨tie, _⟩
      · exact (less.mpr below).le
      · exact (half.mpr tie).le
    simp only [if_pos down, add_sub_cancel_left, abs_of_nonneg nonneg]
    refine ⟨atMost, ?_⟩
    intro tie
    rcases down with below | ⟨_, even⟩
    · have := less.mpr below
      linarith
    · exact even
  · -- Rounding up is off by what the fraction lacks, and a tie comes here from an odd number.
    have atLeast : 1 / 2 ≤ fraction := by
      by_contra below
      exact down (.inl (less.mp (not_le.mp below)))
    have off : |((num / den : Nat) : ℚ) + fraction - ((num / den + 1 : Nat) : ℚ)| =
        1 - fraction := by
      rw [abs_sub_comm, abs_of_nonneg] <;> push_cast <;> linarith
    simp only [if_neg down, off]
    refine ⟨by linarith, ?_⟩
    intro tie
    have isHalf := half.mp (by linarith)
    have odd : ¬(num / den % 2 = 0) := fun even => down (.inr ⟨isHalf, even⟩)
    omega

/-- Rounding does not go up past a whole number. -/
theorem roundHalfEven_le {bound : Nat} (positive : 0 < den) (below : num < bound * den) :
    roundHalfEven num den ≤ bound := by
  have whole : num / den < bound := (Nat.div_lt_iff_lt_mul positive).mpr below
  unfold roundHalfEven
  simp only
  split <;> omega

/-- Rounding does not go down past a whole number. -/
theorem le_roundHalfEven {bound : Nat} (positive : 0 < den) (above : bound * den ≤ num) :
    bound ≤ roundHalfEven num den := by
  have whole : bound ≤ num / den := (Nat.le_div_iff_mul_le positive).mpr above
  unfold roundHalfEven
  simp only
  split <;> omega

/-- No whole number is nearer to a quotient than the rounded one, which is even in a tie. -/
theorem roundHalfEven_nearest (num : Nat) (positive : 0 < den) (other : Nat) :
    |(num : ℚ) / den - roundHalfEven num den| ≤ |(num : ℚ) / den - other| ∧
      (other ≠ roundHalfEven num den →
        |(num : ℚ) / den - roundHalfEven num den| = |(num : ℚ) / den - other| →
          roundHalfEven num den % 2 = 0) := by
  obtain ⟨close, tie⟩ := abs_div_sub_roundHalfEven num positive
  by_cases same : other = roundHalfEven num den
  · subst same
    exact ⟨le_refl _, fun differs => absurd rfl differs⟩
  · -- Two whole numbers are one apart at least, so the other one is half away at least.
    have apart : (1 : ℚ) ≤ |(roundHalfEven num den : ℚ) - other| := by
      have whole : (1 : ℤ) ≤ |(roundHalfEven num den : ℤ) - other| := by
        apply Int.one_le_abs
        omega
      exact_mod_cast whole
    have around := abs_sub_le (roundHalfEven num den : ℚ) ((num : ℚ) / den) other
    rw [abs_sub_comm (roundHalfEven num den : ℚ) ((num : ℚ) / den)] at around
    refine ⟨by linarith, ?_⟩
    intro _ equal
    apply tie
    linarith

end Quotient

/--
A magnitude is nearest to a number, and even in a tie.

It is compared with all magnitudes there would be if nothing bounded their exponents.
-/
structure IsNearest (q : ℚ) (magnitude : Nat) : Prop where
  nearest : ∀ other, |q - rational magnitude| ≤ |q - rational other|
  even : ∀ other, other ≠ magnitude → |q - rational magnitude| = |q - rational other| →
    significand magnitude % 2 = 0

/-- How often the spacing is doubled around a quotient. -/
def doublingsFor (num den : Nat) : Nat := Nat.log2 ((num <<< depth) / den) - 52

/-- The significand of a quotient, rounded on the grid for it. -/
def significandFor (num den : Nat) : Nat :=
  roundHalfEven (num <<< depth) (den <<< doublingsFor num den)

/-- The magnitude for a quotient when nothing bounds its exponent. -/
def unbounded (num den : Nat) : Nat := onGrid (doublingsFor num den) (significandFor num den)

/-- What is above all finite magnitudes is infinity. -/
theorem nearestMagnitude_eq (num den : Nat) :
    nearestMagnitude num den = min (unbounded num den) infinityBits := rfl

section Grid

variable {num den : Nat}

/-- On the grid for it, a quotient has 53 bits in front of the point, or else the finest grid. -/
theorem doublingsFor_spec (num : Nat) (positive : 0 < den) :
    num <<< depth < 2 * hiddenBit * (den <<< doublingsFor num den) ∧
      (doublingsFor num den = 0 ∨
        hiddenBit * (den <<< doublingsFor num den) ≤ num <<< depth) := by
  have width : hiddenBit = 2 ^ 52 := by decide
  simp only [doublingsFor, Nat.shiftLeft_eq den, width]
  generalize num <<< depth = steps
  -- Everything is said of the whole part of the quotient, which has as many bits.
  have above : steps / den < 2 ^ (Nat.log2 (steps / den) + 1) := Nat.lt_log2_self
  generalize grid : Nat.log2 (steps / den) - 52 = doublings
  constructor
  · have bound : 2 * 2 ^ 52 * (den * 2 ^ doublings) = 2 ^ (53 + doublings) * den := by ring
    rw [bound, ← Nat.div_lt_iff_lt_mul positive]
    apply Nat.lt_of_lt_of_le above
    exact Nat.pow_le_pow_right (by omega) (by omega)
  · by_cases finest : doublings = 0
    · exact .inl finest
    · have present : steps / den ≠ 0 := by
        intro none
        simp [none] at grid
        omega
      have below : 2 ^ Nat.log2 (steps / den) ≤ steps / den := Nat.log2_self_le present
      have bound : 2 ^ 52 * (den * 2 ^ doublings) = 2 ^ (52 + doublings) * den := by ring
      have bits : 52 + doublings = Nat.log2 (steps / den) := by omega
      refine .inr ?_
      rwa [bound, ← Nat.le_div_iff_mul_le positive, bits]

/-- The distance of a quotient from a magnitude on a grid, measured in units of that grid. -/
theorem abs_sub_rational (positive : 0 < den) {magnitude multiple doublings : Nat}
    (steps : stepsOf magnitude = multiple * 2 ^ doublings) :
    |(num : ℚ) / den - rational magnitude| =
      |((num <<< depth : Nat) : ℚ) / (den <<< doublings : Nat) - multiple| *
        (2 ^ doublings / 2 ^ depth) := by
  have nonzero : (den : ℚ) ≠ 0 := by positivity
  have unit : (0 : ℚ) < 2 ^ doublings / 2 ^ depth := by positivity
  have scaled : (num : ℚ) / den - rational magnitude =
      (((num <<< depth : Nat) : ℚ) / (den <<< doublings : Nat) - multiple) *
        (2 ^ doublings / 2 ^ depth) := by
    rw [rational, steps, Nat.shiftLeft_eq, Nat.shiftLeft_eq]
    push_cast
    field_simp
  rw [scaled, abs_mul, abs_of_pos unit]

/-- The unit of a grid is positive. -/
theorem shiftLeft_pos (positive : 0 < den) (doublings : Nat) : 0 < den <<< doublings := by
  rw [Nat.shiftLeft_eq]
  exact Nat.mul_pos positive (Nat.two_pow_pos doublings)

/-- The significand found for a quotient has a place on the grid for it. -/
theorem isPlaced_significandFor (num : Nat) (positive : 0 < den) :
    IsPlaced (doublingsFor num den) (significandFor num den) ∧
      significandFor num den ≤ 2 * hiddenBit := by
  obtain ⟨below, above⟩ := doublingsFor_spec num positive
  have unit := shiftLeft_pos positive (doublingsFor num den)
  -- The bounds are whole numbers of units, so rounding keeps to them.
  refine ⟨?_, roundHalfEven_le unit below⟩
  rcases above with finest | large
  · exact .inl finest
  · exact .inr (le_roundHalfEven unit large)

/-- The steps of the magnitude for a quotient. -/
theorem stepsOf_unbounded (num : Nat) (positive : 0 < den) :
    stepsOf (unbounded num den) = significandFor num den * 2 ^ doublingsFor num den := by
  obtain ⟨placed, bounded⟩ := isPlaced_significandFor num positive
  exact stepsOf_onGrid placed bounded

/-- On the grid for a quotient, no magnitude is nearer than the one for it. -/
theorem unbounded_nearest_on_grid (num : Nat) (positive : 0 < den) {other multiple : Nat}
    (steps : stepsOf other = multiple * 2 ^ doublingsFor num den) :
    |(num : ℚ) / den - rational (unbounded num den)| ≤ |(num : ℚ) / den - rational other| ∧
      (multiple ≠ significandFor num den →
        |(num : ℚ) / den - rational (unbounded num den)| = |(num : ℚ) / den - rational other| →
          significandFor num den % 2 = 0) := by
  have scale : (0 : ℚ) < 2 ^ doublingsFor num den / 2 ^ depth := by positivity
  -- Magnitudes on the grid are whole numbers of its units.
  obtain ⟨closest, tie⟩ := roundHalfEven_nearest (num <<< depth)
    (shiftLeft_pos positive (doublingsFor num den)) multiple
  rw [abs_sub_rational positive (stepsOf_unbounded num positive),
    abs_sub_rational positive steps]
  refine ⟨mul_le_mul_of_nonneg_right closest scale.le, ?_⟩
  intro differs equal
  exact tie differs (mul_right_cancel₀ scale.ne' equal)

/-- Below the grid for a quotient, every magnitude is farther away than the one for it. -/
theorem unbounded_nearer_than_below (num : Nat) (positive : 0 < den) {other : Nat}
    (coarse : 0 < doublingsFor num den)
    (below : stepsOf other < hiddenBit * 2 ^ doublingsFor num den) :
    |(num : ℚ) / den - rational (unbounded num den)| < |(num : ℚ) / den - rational other| := by
  -- The first magnitude of 53 bits lies between the other one and the quotient.
  have first : stepsOf (onGrid (doublingsFor num den) hiddenBit) =
      hiddenBit * 2 ^ doublingsFor num den := stepsOf_onGrid (.inr (le_refl _)) (by omega)
  have less : rational other < rational (onGrid (doublingsFor num den) hiddenBit) := by
    apply strictMono_rational
    rw [← strictMono_stepsOf.lt_iff_lt, first]
    exact below
  have reached : rational (onGrid (doublingsFor num den) hiddenBit) ≤ (num : ℚ) / den := by
    have large := (doublingsFor_spec num positive).2.resolve_left (by omega)
    rw [Nat.shiftLeft_eq, Nat.shiftLeft_eq] at large
    rw [rational, first, div_le_div_iff₀ (by positivity) (by positivity)]
    calc ((hiddenBit * 2 ^ doublingsFor num den : Nat) : ℚ) * den
        = ((hiddenBit * (den * 2 ^ doublingsFor num den) : Nat) : ℚ) := by
          push_cast
          ring
      _ ≤ ((num * 2 ^ depth : Nat) : ℚ) := by exact_mod_cast large
      _ = (num : ℚ) * 2 ^ depth := by push_cast; ring
  apply lt_of_le_of_lt (unbounded_nearest_on_grid num positive first).1
  rw [abs_of_nonneg (by linarith), abs_of_nonneg (by linarith)]
  linarith

/-- The magnitude for a quotient is nearest to it. -/
theorem isNearest_unbounded (num : Nat) (positive : 0 < den) :
    IsNearest (num / den) (unbounded num den) := by
  -- Another magnitude is on the grid for the quotient, or below it.
  constructor
  · intro other
    rcases stepsOf_multiple_or_lt other (doublingsFor num den) with ⟨multiple, on⟩ | ⟨coarse, below⟩
    · exact (unbounded_nearest_on_grid num positive on).1
    · exact (unbounded_nearer_than_below num positive coarse below).le
  · intro other differs equal
    rcases stepsOf_multiple_or_lt other (doublingsFor num den) with ⟨multiple, on⟩ | ⟨coarse, below⟩
    · have even : significandFor num den % 2 = 0 := by
        apply (unbounded_nearest_on_grid num positive on).2 _ equal
        rintro rfl
        have same := on.trans (stepsOf_unbounded num positive).symm
        exact differs (strictMono_stepsOf.injective same)
      -- Whole grids add an even number to the bits.
      rw [significand_mod_two, unbounded, onGrid]
      unfold hiddenBit
      omega
    · exact absurd equal (unbounded_nearer_than_below num positive coarse below).ne

end Grid

end LoxTokens.Binary64
