import LoxTokens.Proofs.Binary64.Nearest

/-! Rounding to a magnitude of bounded exponent: which one it is, and that it is only one. -/

namespace LoxTokens.Binary64

/-- Halfway between the greatest finite magnitude and the power of two that would come next. -/
def overflow : ℚ := 2 ^ 1024 - 2 ^ 970

/--
The magnitude that a number rounds to.

It is the finite one nearest to the number, with an even significand in a tie, or infinity.
-/
structure RoundsTo (q : ℚ) (magnitude : Nat) : Prop where
  bounded : magnitude ≤ infinityBits
  overflows : magnitude = infinityBits ↔ overflow ≤ q
  nearest : magnitude < infinityBits → ∀ other < infinityBits,
    |q - rational magnitude| ≤ |q - rational other|
  even : magnitude < infinityBits → ∀ other < infinityBits, other ≠ magnitude →
    |q - rational magnitude| = |q - rational other| → significand magnitude % 2 = 0

section Between

variable {q lower upper : ℚ}

/-- What is no farther from the upper of two numbers is not below the middle of them. -/
theorem add_le_two_mul_of_abs_sub_le (less : lower < upper) (near : |q - upper| ≤ |q - lower|) :
    lower + upper ≤ 2 * q := by
  rcases abs_cases (q - upper) with ⟨same, _⟩ | ⟨same, _⟩ <;>
    rcases abs_cases (q - lower) with ⟨same', _⟩ | ⟨same', _⟩ <;>
      linarith

/-- What is no farther from the lower of two numbers is not above the middle of them. -/
theorem two_mul_le_add_of_abs_sub_le (less : lower < upper) (near : |q - lower| ≤ |q - upper|) :
    2 * q ≤ lower + upper := by
  rcases abs_cases (q - upper) with ⟨same, _⟩ | ⟨same, _⟩ <;>
    rcases abs_cases (q - lower) with ⟨same', _⟩ | ⟨same', _⟩ <;>
      linarith

end Between

/-- A power of two in units of another. -/
theorem two_pow_mul_div {left right below result : Nat} (same : left + right = result + below) :
    (2 : ℚ) ^ left * 2 ^ right / 2 ^ below = 2 ^ result := by
  rw [div_eq_iff (by positivity), ← pow_add, ← pow_add, same]

/-- The bits of infinity come where the next power of two would have its own. -/
theorem rational_infinityBits : rational infinityBits = 2 ^ 1024 := by
  have place : infinityBits = onGrid 2046 hiddenBit := by decide
  have width : (hiddenBit : ℚ) = 2 ^ 52 := by norm_num [hiddenBit]
  rw [place, rational_onGrid (.inr (le_refl _)) (by decide), width]
  exact two_pow_mul_div rfl

/-- The greatest finite magnitude. -/
theorem rational_pred_infinityBits : rational (infinityBits - 1) = 2 ^ 1024 - 2 ^ 971 := by
  have place : infinityBits - 1 = onGrid 2045 (2 * hiddenBit - 1) := by decide
  have width : ((2 * hiddenBit - 1 : Nat) : ℚ) = 2 ^ 53 - 2 ^ 0 := by norm_num [hiddenBit]
  rw [place, rational_onGrid (.inr (by decide)) (by decide), width, sub_mul, sub_div]
  exact congrArg₂ (· - ·) (two_pow_mul_div rfl) (two_pow_mul_div rfl)

/-- The bound is the middle between the greatest finite magnitude and the next power of two. -/
theorem two_mul_overflow :
    2 * overflow = rational (infinityBits - 1) + rational infinityBits := by
  rw [rational_infinityBits, rational_pred_infinityBits, overflow, pow_succ (2 : ℚ) 970]
  generalize (2 : ℚ) ^ 1024 = next
  generalize (2 : ℚ) ^ 970 = half
  ring

/-- Finite magnitudes are below the bound. -/
theorem rational_lt_overflow {magnitude : Nat} (finite : magnitude < infinityBits) :
    rational magnitude < overflow := by
  have positive : 0 < infinityBits := by decide
  have atMost : rational magnitude ≤ rational (infinityBits - 1) :=
    strictMono_rational.monotone (by omega)
  have next : rational (infinityBits - 1) < rational infinityBits :=
    strictMono_rational (by omega)
  have middle := two_mul_overflow
  linarith

/-- With a bound on the exponents, what is nearest becomes infinity if it is above the bound. -/
theorem IsNearest.roundsTo {q : ℚ} {magnitude : Nat} (near : IsNearest q magnitude) :
    RoundsTo q (min magnitude infinityBits) := by
  have positive : 0 < infinityBits := by decide
  have middle := two_mul_overflow
  have top : rational (infinityBits - 1) < rational infinityBits :=
    strictMono_rational (by omega)
  have finite (below : min magnitude infinityBits < infinityBits) :
      min magnitude infinityBits = magnitude := by omega
  constructor
  · exact Nat.min_le_right _ _
  · have isInfinite : min magnitude infinityBits = infinityBits ↔ infinityBits ≤ magnitude := by
      omega
    rw [isInfinite]
    constructor
    · -- The greatest finite magnitude is no nearer than what is beyond it.
      intro beyond
      have atLeast : rational infinityBits ≤ rational magnitude :=
        strictMono_rational.monotone beyond
      have := add_le_two_mul_of_abs_sub_le (by linarith) (near.nearest (infinityBits - 1))
      linarith
    · intro above
      by_contra inside
      have atMost : rational magnitude ≤ rational (infinityBits - 1) :=
        strictMono_rational.monotone (by omega)
      have := two_mul_le_add_of_abs_sub_le (by linarith) (near.nearest infinityBits)
      -- Only the middle itself is left, and there the even neighbour is the power of two.
      have same : rational magnitude = rational (infinityBits - 1) := by linarith
      have greatest : magnitude = infinityBits - 1 := strictMono_rational.injective same
      have tie : |q - rational magnitude| = |q - rational infinityBits| := by
        rw [abs_of_nonneg (by linarith), abs_of_nonpos (by linarith)]
        linarith
      have even := near.even infinityBits (by omega) tie
      rw [significand_mod_two, greatest] at even
      contradiction
  · intro below other _
    rw [finite below]
    exact near.nearest other
  · intro below other _ differs equal
    rw [finite below] at differs equal ⊢
    exact near.even other differs equal

/-- Of two magnitudes that a number rounds to, neither is less than the other. -/
theorem RoundsTo.not_lt {q : ℚ} {lower upper : Nat} (left : RoundsTo q lower)
    (right : RoundsTo q upper) : ¬lower < upper := by
  intro less
  have bounded := right.bounded
  rcases Nat.lt_or_eq_of_le bounded with finite | infinite
  · have lowest : lower < infinityBits := by omega
    have equal := le_antisymm (left.nearest lowest upper finite) (right.nearest finite lower lowest)
    have evenLower := left.even lowest upper finite (by omega) equal
    have evenUpper := right.even finite lower lowest (by omega) equal.symm
    rw [significand_mod_two] at evenLower evenUpper
    -- Between two even ones there is an odd one, which would be nearer than both.
    have inside : lower + 1 < upper := by omega
    have above : rational lower < rational (lower + 1) := strictMono_rational (by omega)
    have below : rational (lower + 1) < rational upper := strictMono_rational inside
    have atMost := two_mul_le_add_of_abs_sub_le above (left.nearest lowest _ (by omega))
    have atLeast := add_le_two_mul_of_abs_sub_le below (right.nearest finite _ (by omega))
    linarith
  · -- Whether a number becomes infinity is up to the number.
    have := left.overflows.mpr (right.overflows.mp infinite)
    omega

/-- A number rounds to one magnitude only. -/
theorem RoundsTo.unique {q : ℚ} {left right : Nat} (one : RoundsTo q left)
    (other : RoundsTo q right) : left = right := by
  have := one.not_lt other
  have := other.not_lt one
  omega

/-- Between a number that rounds up and the magnitude that it rounds to there is no other. -/
theorem RoundsTo.le_rational_iff {q : ℚ} {magnitude : Nat} (rounds : RoundsTo q magnitude)
    (finite : magnitude < infinityBits) (up : q ≤ rational magnitude) (other : Nat) :
    q ≤ rational other ↔ magnitude ≤ other := by
  constructor
  · intro above
    by_contra below
    -- The other one would be nearer.
    have less : rational other < rational magnitude := strictMono_rational (by omega)
    have near := rounds.nearest finite other (by omega)
    rw [abs_of_nonpos (by linarith), abs_of_nonpos (by linarith)] at near
    linarith
  · intro atMost
    have := strictMono_rational.monotone atMost
    linarith

/-- A finite magnitude rounds to itself. -/
theorem roundsTo_rational {magnitude : Nat} (finite : magnitude < infinityBits) :
    RoundsTo (rational magnitude) magnitude := by
  constructor
  · exact finite.le
  · have := rational_lt_overflow finite
    constructor
    · omega
    · intro above
      linarith
  · intro _ other _
    rw [sub_self, abs_zero]
    exact abs_nonneg _
  · intro _ other _ differs equal
    -- Nothing else is at no distance.
    rw [sub_self, abs_zero, eq_comm, abs_eq_zero, sub_eq_zero] at equal
    exact absurd (strictMono_rational.injective equal).symm differs

/-- Dividing rounds the quotient. -/
theorem nearestMagnitude_roundsTo (num : Nat) {den : Nat} (positive : 0 < den) :
    RoundsTo (num / den) (nearestMagnitude num den) := by
  rw [nearestMagnitude_eq]
  exact (isNearest_unbounded num positive).roundsTo

end LoxTokens.Binary64
