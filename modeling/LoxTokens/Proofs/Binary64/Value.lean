import LoxTokens.Proofs.Binary64.Rounding
import LoxTokens.Proofs.Decimal

/-! What the bits of a number stand for, and when two numbers are equal as numbers. -/

namespace LoxTokens.Binary64

/-- A rational number, or an infinity of either sign. -/
inductive Extended
  | finite (value : ℚ)
  | infinite (negative : Bool)
  deriving DecidableEq

/-- What the bits stand for, unless that is no number; both zeros stand for the same. -/
def value? (x : Binary64) : Option Extended :=
  if x.isNaN then none
  else if x.isInfinite then some (.infinite x.isNegative)
  else some (.finite (if x.isNegative then -rational x.magnitude else rational x.magnitude))

/-- The bits stand for the same number. -/
def SameNumber (x y : Binary64) : Prop := ∃ value, x.value? = some value ∧ y.value? = some value

/-- What is a number has the magnitude of infinity at most. -/
theorem magnitude_le {x : Binary64} (number : x.isNaN = false) : x.magnitude ≤ infinityBits :=
  Nat.le_of_not_lt (of_decide_eq_false number)

/-- What is finite has a magnitude below that of infinity. -/
theorem magnitude_lt {x : Binary64} (number : x.isNaN = false) (finite : x.isInfinite = false) :
    x.magnitude < infinityBits :=
  Nat.lt_of_le_of_ne (magnitude_le number) (of_decide_eq_false finite)

/-- A number is told from others by its magnitude and its sign. -/
theorem eq_of_magnitude_eq {x y : Binary64} (magnitude : x.magnitude = y.magnitude)
    (sign : x.isNegative = y.isNegative) : x = y := by
  obtain ⟨xBits⟩ := x
  obtain ⟨yBits⟩ := y
  have xBound : xBits.toNat < 2 ^ 64 := xBits.toNat_lt
  have yBound : yBits.toNat < 2 ^ 64 := yBits.toNat_lt
  have signs : signBit ≤ xBits.toNat ↔ signBit ≤ yBits.toNat := decide_eq_decide.mp sign
  have same : xBits.toNat = yBits.toNat := by
    simp only [Binary64.magnitude, signBit] at magnitude signs
    omega
  exact congrArg Binary64.mk (UInt64.toNat_inj.mp same)

/-- Numbers without a sign are the same number exactly when they have the same bits. -/
theorem sameNumber_iff_eq {x y : Binary64} (xPositive : x.isNegative = false)
    (xNumber : x.isNaN = false) (yPositive : y.isNegative = false) (yNumber : y.isNaN = false) :
    x.SameNumber y ↔ x = y := by
  constructor
  · intro same
    obtain ⟨value, xValue, yValue⟩ := same
    apply eq_of_magnitude_eq _ (xPositive.trans yPositive.symm)
    simp only [value?, xPositive, xNumber, yPositive, yNumber, Bool.false_eq_true,
      if_false] at xValue yValue
    -- Infinity is one magnitude, and finite magnitudes are in the order of their values.
    cases xInfinite : x.isInfinite <;> cases yInfinite : y.isInfinite <;>
      simp only [xInfinite, yInfinite, Bool.false_eq_true, if_false, if_true, Option.some.injEq]
        at xValue yValue
    · exact strictMono_rational.injective (Extended.finite.inj (xValue.trans yValue.symm))
    · cases xValue.trans yValue.symm
    · cases xValue.trans yValue.symm
    · simp only [isInfinite, decide_eq_true_eq] at xInfinite yInfinite
      exact xInfinite.trans yInfinite.symm
  · rintro rfl
    simp only [SameNumber, value?, xNumber, Bool.false_eq_true, if_false]
    cases x.isInfinite <;> exact ⟨_, rfl, rfl⟩

section OfMagnitude

variable {magnitude : Nat}

/-- Up to infinity, bits are a magnitude without a sign. -/
theorem magnitude_ofNat (bounded : magnitude ≤ infinityBits) :
    (Binary64.mk (UInt64.ofNat magnitude)).magnitude = magnitude := by
  have small : magnitude < 0x8000000000000000 := Nat.lt_of_le_of_lt bounded (by decide)
  simp only [Binary64.magnitude, signBit, UInt64.toNat_ofNat']
  omega

/-- Up to infinity, bits have no sign. -/
theorem isNegative_ofNat (bounded : magnitude ≤ infinityBits) :
    (Binary64.mk (UInt64.ofNat magnitude)).isNegative = false := by
  have small : magnitude < 0x8000000000000000 := Nat.lt_of_le_of_lt bounded (by decide)
  simp only [isNegative, signBit, UInt64.toNat_ofNat', decide_eq_false_iff_not]
  omega

/-- Up to infinity, bits are a number. -/
theorem isNaN_ofNat (bounded : magnitude ≤ infinityBits) :
    (Binary64.mk (UInt64.ofNat magnitude)).isNaN = false := by
  rw [isNaN, magnitude_ofNat bounded, decide_eq_false_iff_not]
  omega

end OfMagnitude

/-- A decimal number is rounded. -/
theorem magnitudeOf_roundsTo (d : Decimal) : RoundsTo d.toRat (magnitudeOf d) := by
  rw [← d.numerator_div_denominator]
  exact nearestMagnitude_roundsTo d.numerator d.denominator_pos

/-- Decimal numbers that are the same number are rounded to the same magnitude. -/
theorem magnitudeOf_congr {left right : Decimal} (same : left.toRat = right.toRat) :
    magnitudeOf left = magnitudeOf right := by
  apply (magnitudeOf_roundsTo left).unique
  rw [same]
  exact magnitudeOf_roundsTo right

/-- A number is read from a decimal number when it is that number, rounded. -/
structure ReadFrom (q : ℚ) (x : Binary64) : Prop where
  positive : x.isNegative = false
  number : x.isNaN = false
  rounds : RoundsTo q x.magnitude

/-- A decimal number is read without a sign, and rounded. -/
theorem ofDecimal_readFrom (d : Decimal) : ReadFrom d.toRat (ofDecimal d) where
  positive := isNegative_ofNat (magnitudeOf_roundsTo d).bounded
  number := isNaN_ofNat (magnitudeOf_roundsTo d).bounded
  rounds := by
    rw [ofDecimal, magnitude_ofNat (magnitudeOf_roundsTo d).bounded]
    exact magnitudeOf_roundsTo d

/-- What is read is infinite exactly from the bound on. -/
theorem ReadFrom.isInfinite_iff {q : ℚ} {x : Binary64} (read : ReadFrom q x) :
    x.isInfinite = true ↔ overflow ≤ q := by
  rw [isInfinite, decide_eq_true_eq]
  exact read.rounds.overflows

end LoxTokens.Binary64
