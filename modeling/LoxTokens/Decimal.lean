/-! Decimal numbers: a coefficient and a power of ten, as numerals write them. -/

namespace LoxTokens

/-- The number `coefficient * 10 ^ exponent`. -/
structure Decimal where
  coefficient : Nat
  exponent : Int
  deriving DecidableEq, Repr

namespace Decimal

/-- The numerator of the number as a quotient of naturals. -/
def numerator (d : Decimal) : Nat := d.coefficient * Nat.pow 10 d.exponent.toNat

/-- The denominator of the number as a quotient of naturals, a power of ten. -/
def denominator (d : Decimal) : Nat := Nat.pow 10 (-d.exponent).toNat

/-- The number with the given decimal digits before and after its point. -/
def ofDigits (whole fraction : List Char) : Decimal where
  coefficient := Nat.ofDigitChars 10 (whole ++ fraction) 0
  exponent := -fraction.length

/-- The number that a numeral writes: digits, and perhaps a point and more digits. -/
def ofNumeral (numeral : List Char) : Decimal :=
  ofDigits (numeral.takeWhile Char.isDigit) ((numeral.dropWhile Char.isDigit).drop 1)

end Decimal

end LoxTokens
