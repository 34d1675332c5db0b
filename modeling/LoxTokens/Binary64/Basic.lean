import LoxTokens.Decimal

/-! Binary floating-point numbers of 64 bits, and the one nearest to a given quotient. -/

namespace LoxTokens

/-- A number in the 64-bit binary interchange format, told apart from others by its bits alone. -/
structure Binary64 where
  bits : UInt64
  deriving DecidableEq, Hashable, Repr

namespace Binary64

/-- The bit above all others, set in negative numbers. -/
def signBit : Nat := 0x8000000000000000

/-- The bit above the fraction, which the normal numbers leave out. -/
def hiddenBit : Nat := 0x10000000000000

/-- The bits of infinity, which are above those of every finite magnitude. -/
def infinityBits : Nat := 0x7FF0000000000000

/-- The bits without the sign. -/
def magnitude (x : Binary64) : Nat := x.bits.toNat % signBit

/-- Whether the sign bit is set. -/
def isNegative (x : Binary64) : Bool := signBit ≤ x.bits.toNat

/-- Whether the bits stand for no number. -/
def isNaN (x : Binary64) : Bool := infinityBits < x.magnitude

/-- Whether the bits stand for an infinity of either sign. -/
def isInfinite (x : Binary64) : Bool := x.magnitude = infinityBits

/-- The least magnitude above zero is one step, which is two to the minus this power. -/
def depth : Nat := 1074

/-- The finite magnitude with these bits, counted in steps. -/
def stepsOf (magnitude : Nat) : Nat :=
  let field := magnitude / hiddenBit
  let fraction := magnitude % hiddenBit
  -- The lowest field has no hidden bit, and the next one has the same spacing.
  if field = 0 then fraction else (hiddenBit + fraction) <<< (field - 1)

/-- The whole number nearest to a quotient, the even one of two that are equally near. -/
def roundHalfEven (num den : Nat) : Nat :=
  let quotient := num / den
  let twice := 2 * (num % den)
  if twice < den ∨ (twice = den ∧ quotient % 2 = 0) then quotient else quotient + 1

/--
The bits of the magnitude nearest to a quotient, the even one of two that are equally near.

The bits of consecutive magnitudes are consecutive, so a significand that rounds up to the next
power of two needs no case of its own.
-/
def nearestMagnitude (num den : Nat) : Nat :=
  let steps := num <<< depth
  -- A significand has 53 bits, and every bit above those doubles the spacing.
  let doublings := Nat.log2 (steps / den) - 52
  min (doublings * hiddenBit + roundHalfEven steps (den <<< doublings)) infinityBits

/-- The bits of the magnitude nearest to a decimal number. -/
def magnitudeOf (d : Decimal) : Nat := nearestMagnitude d.numerator d.denominator

/-- The number nearest to a decimal number, or infinity above them all. -/
def ofDecimal (d : Decimal) : Binary64 := ⟨UInt64.ofNat (magnitudeOf d)⟩

end Binary64

end LoxTokens
