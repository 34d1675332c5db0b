import LoxTokens.Decimal
import Mathlib.Algebra.Order.Field.Rat
import Mathlib.Algebra.Order.Field.Power
import Mathlib.Tactic.FieldSimp
import Mathlib.Tactic.Positivity
import Mathlib.Tactic.Ring

/-! Decimal numbers as rational numbers, and the places of the digits that write them. -/

namespace LoxTokens.Decimal

/-- The number as a rational number. -/
def toRat (d : Decimal) : ℚ := d.coefficient * 10 ^ d.exponent

/-- The denominator is a power of ten. -/
theorem denominator_pos (d : Decimal) : 0 < d.denominator := Nat.pow_pos (by decide)

/-- The number is the quotient of its numerator and denominator. -/
theorem numerator_div_denominator (d : Decimal) :
    (d.numerator : ℚ) / d.denominator = d.toRat := by
  -- One of the two powers of ten has the exponent zero.
  have powers : (10 : ℚ) ^ d.exponent.toNat / 10 ^ (-d.exponent).toNat = 10 ^ d.exponent := by
    rcases Int.le_total 0 d.exponent with positive | negative
    · have below : (-d.exponent).toNat = 0 := by omega
      have above : ((d.exponent.toNat : Nat) : Int) = d.exponent := by omega
      rw [below, pow_zero, div_one, ← zpow_natCast, above]
    · have below : ((-d.exponent).toNat : Int) = -d.exponent := by omega
      have above : d.exponent.toNat = 0 := by omega
      rw [above, pow_zero, ← zpow_natCast, below, zpow_neg, one_div, inv_inv]
  show ((d.coefficient * 10 ^ d.exponent.toNat : Nat) : ℚ) / ((10 ^ (-d.exponent).toNat : Nat) : ℚ)
    = d.toRat
  rw [Nat.cast_mul, Nat.cast_pow, Nat.cast_pow, mul_div_assoc, toRat, ← powers]
  rfl

/-- What a digit stands for. -/
def digitValue (c : Char) : Nat := c.toNat - '0'.toNat

/-- What digits stand for in front of a point: each is worth ten times what the next one is. -/
def wholeValue : List Char → ℚ
  | [] => 0
  | c :: later => digitValue c * 10 ^ later.length + wholeValue later

/-- What digits stand for behind a point: the first are tenths. -/
def fractionValue : List Char → ℚ
  | [] => 0
  | c :: later => (digitValue c + fractionValue later) / 10

/-- The number that a numeral writes: digits, and perhaps a point and more digits. -/
def numeralValue (numeral : List Char) : ℚ :=
  wholeValue (numeral.takeWhile Char.isDigit) +
    fractionValue ((numeral.dropWhile Char.isDigit).drop 1)

/-- Reading digits one after the other gives each of them its place. -/
theorem ofDigitChars_eq_wholeValue (digits : List Char) :
    (Nat.ofDigitChars 10 digits 0 : ℚ) = wholeValue digits := by
  induction digits with
  | nil => simp [wholeValue]
  | cons c later ih =>
    rw [Nat.ofDigitChars_cons, Nat.ofDigitChars_eq_ofDigitChars_zero, wholeValue, ← ih, digitValue]
    push_cast
    ring

/-- Digits that stand in front of others are worth more by as many places. -/
theorem wholeValue_append (left right : List Char) :
    wholeValue (left ++ right) = wholeValue left * 10 ^ right.length + wholeValue right := by
  induction left with
  | nil => simp [wholeValue]
  | cons c later ih =>
    rw [List.cons_append, wholeValue, ih, wholeValue, List.length_append, pow_add]
    ring

/-- Zeros are worth nothing. -/
@[simp] theorem wholeValue_replicate_zero (count : Nat) :
    wholeValue (List.replicate count '0') = 0 := by
  rw [← ofDigitChars_eq_wholeValue, Nat.ofDigitChars_replicate_zero, Nat.mul_zero, Nat.cast_zero]

/-- Zeros behind digits make each of those worth ten times as much. -/
theorem wholeValue_append_zeros (digits : List Char) (count : Nat) :
    wholeValue (digits ++ List.replicate count '0') = wholeValue digits * 10 ^ count := by
  rw [wholeValue_append, wholeValue_replicate_zero, List.length_replicate, add_zero]

/-- The digits of a number are worth that number. -/
@[simp] theorem wholeValue_toDigits (n : Nat) : wholeValue (Nat.toDigits 10 n) = n := by
  rw [← ofDigitChars_eq_wholeValue, Nat.ofDigitChars_ten_toDigits]

/-- Behind a point, digits are worth less by as many places as there are of them. -/
theorem fractionValue_eq (digits : List Char) :
    fractionValue digits = wholeValue digits / 10 ^ digits.length := by
  induction digits with
  | nil => simp [fractionValue, wholeValue]
  | cons c later ih =>
    have nonzero : (10 : ℚ) ^ later.length ≠ 0 := by positivity
    rw [fractionValue, ih, wholeValue, List.length_cons, pow_succ]
    field_simp

/-- Digits on both sides of a point are worth what their places say. -/
theorem toRat_ofDigits (whole fraction : List Char) :
    (ofDigits whole fraction).toRat = wholeValue whole + fractionValue fraction := by
  have nonzero : (10 : ℚ) ^ fraction.length ≠ 0 := by positivity
  rw [toRat, ofDigits, ofDigitChars_eq_wholeValue, wholeValue_append, zpow_neg, zpow_natCast,
    fractionValue_eq]
  field_simp

/-- A numeral is read as the number that it writes. -/
theorem toRat_ofNumeral (numeral : List Char) :
    (ofNumeral numeral).toRat = numeralValue numeral :=
  toRat_ofDigits _ _

end LoxTokens.Decimal
