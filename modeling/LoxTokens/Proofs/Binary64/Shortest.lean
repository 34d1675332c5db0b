import LoxTokens.Binary64.Shortest
import LoxTokens.Proofs.Binary64.Value

/-! Magnitudes as decimal numbers: exactly, and with as few digits as reading back allows. -/

namespace LoxTokens.Binary64

/-- Halving as often as multiplying by five tenths. -/
theorem five_pow_mul_ten_zpow (halvings : Nat) :
    (5 : ℚ) ^ halvings * 10 ^ (-(halvings : Int)) = (2 ^ halvings)⁻¹ := by
  have tens : (10 : ℚ) ^ halvings = 2 ^ halvings * 5 ^ halvings := by
    rw [← mul_pow]
    norm_num
  rw [zpow_neg, zpow_natCast, tens]
  field_simp

/-- The exact decimal number is the magnitude. -/
theorem toRat_exactDecimal (magnitude : Nat) :
    (exactDecimal magnitude).toRat = rational magnitude := by
  have coefficient : ((exactDecimal magnitude).coefficient : ℚ) =
      stepsOf magnitude * 5 ^ depth := by
    rw [exactDecimal, Nat.pow_eq, Nat.cast_mul, Nat.cast_pow, Nat.cast_ofNat]
  have exponent : (exactDecimal magnitude).exponent = -(depth : Int) := rfl
  rw [Decimal.toRat, coefficient, exponent, mul_assoc, five_pow_mul_ten_zpow, rational,
    div_eq_mul_inv]

/-- A decimal number that is a finite magnitude is read as that magnitude. -/
theorem magnitudeOf_eq {d : Decimal} {magnitude : Nat} (finite : magnitude < infinityBits)
    (same : d.toRat = rational magnitude) : magnitudeOf d = magnitude := by
  apply (magnitudeOf_roundsTo d).unique
  rw [same]
  exact roundsTo_rational finite

/-- The decimal number with the fewest digits reads back, whether or not the search finds one. -/
theorem magnitudeOf_shortest {magnitude : Nat} (finite : magnitude < infinityBits) :
    magnitudeOf (shortest magnitude) = magnitude := by
  -- What the search finds was tried, and what is left without it is exact.
  rw [shortest]
  generalize (Nat.toDigits 10 (exactDecimal magnitude).coefficient).length = width
  cases found : firstNeighbour? magnitude width with
  | none => exact magnitudeOf_eq finite (toRat_exactDecimal magnitude)
  | some d =>
    have fits : readsAs magnitude d = true := readsAs_of_firstNeighbour? found
    exact of_decide_eq_true fits

/-- Only zero is written as zero. -/
theorem coefficient_shortest_eq_zero {magnitude : Nat} (finite : magnitude < infinityBits) :
    (shortest magnitude).coefficient = 0 ↔ magnitude = 0 := by
  constructor
  · -- A coefficient of zero would read as zero.
    intro none
    have zero : (shortest magnitude).toRat = rational 0 := by
      rw [Decimal.toRat, none, Nat.cast_zero, zero_mul, rational_zero]
    rw [← magnitudeOf_shortest finite]
    exact magnitudeOf_eq (by decide) zero
  · rintro rfl
    decide +kernel

/-- A power of ten is compared with the exact decimal number in units of its last digit. -/
theorem ten_pow_le_coefficient {power : Int} (placed : -depth ≤ power) (magnitude : Nat) :
    Nat.pow 10 (power - (exactDecimal magnitude).exponent).toNat ≤
      (exactDecimal magnitude).coefficient ↔ (10 : ℚ) ^ power ≤ rational magnitude := by
  -- The last digit of the exact decimal stands as deep as one step does.
  have exponent : (exactDecimal magnitude).exponent = -(depth : Int) := rfl
  have places : (((power + depth).toNat : Nat) : Int) = power + depth := by omega
  have unit : (0 : ℚ) < 10 ^ (-(depth : Int)) := by positivity
  have shifted : (10 : ℚ) ^ (power + depth).toNat * 10 ^ (-(depth : Int)) = 10 ^ power := by
    rw [← zpow_natCast, places, ← zpow_add₀ (by norm_num), add_neg_cancel_right]
  rw [← toRat_exactDecimal, Decimal.toRat, exponent, sub_neg_eq_add, ← shifted,
    mul_le_mul_iff_of_pos_right unit, Nat.pow_eq, ← Nat.cast_le (α := ℚ), Nat.cast_pow,
    Nat.cast_ofNat]

/-- Between a power of ten that rounds up and the magnitude that it rounds to there is no other. -/
theorem ten_pow_le_iff {power : Int} (placed : -depth ≤ power)
    (finite : magnitudeOf ⟨1, power⟩ < infinityBits)
    (up : Nat.pow 10 (power - (exactDecimal (magnitudeOf ⟨1, power⟩)).exponent).toNat ≤
      (exactDecimal (magnitudeOf ⟨1, power⟩)).coefficient) (magnitude : Nat) :
    (10 : ℚ) ^ power ≤ rational magnitude ↔ magnitudeOf ⟨1, power⟩ ≤ magnitude := by
  have rounds := magnitudeOf_roundsTo ⟨1, power⟩
  have value : Decimal.toRat ⟨1, power⟩ = 10 ^ power := by
    rw [Decimal.toRat, Nat.cast_one, one_mul]
  rw [value] at rounds
  exact rounds.le_rational_iff finite ((ten_pow_le_coefficient placed _).mp up) magnitude

end LoxTokens.Binary64
