import LoxTokens.Binary64.Shortest

/-! How a number is written out: positional in the middle of the range, scientific beyond it. -/

namespace LoxTokens.Binary64

/-- The choices that a written form makes. -/
structure Layout where
  /-- Magnitudes from this power of ten on are positional. -/
  least : Int
  /-- Magnitudes from this power of ten on are scientific again. -/
  below : Int
  /-- What stands between the digits and the exponent. -/
  mark : Char

/-- A list of digits without the zeros at its end, but with one digit at least. -/
def significant (digits : List Char) : List Char :=
  match (digits.reverse.dropWhile (· = '0')).reverse with
  | [] => ['0']
  | kept => kept

/-- A fraction part has one digit at least. -/
def fractionText (digits : List Char) : List Char := if digits.isEmpty then ['0'] else digits

/-- Digits with the point after the first `point` of them, padded with zeros on either side. -/
def positional (digits : List Char) (point : Int) : List Char :=
  if point ≤ 0 then
    '0' :: '.' :: (List.replicate (-point).toNat '0' ++ digits)
  else
    let whole := digits.take point.toNat
    let padding := List.replicate (point.toNat - digits.length) '0'
    whole ++ padding ++ '.' :: fractionText (digits.drop point.toNat)

/-- A power of ten in digits, with a sign only when it is negative. -/
def exponentText (exponent : Int) : List Char :=
  if exponent < 0 then '-' :: Nat.toDigits 10 (-exponent).toNat
  else Nat.toDigits 10 exponent.toNat

/-- Digits with the point after the first of them, and the power of ten that puts it right. -/
def scientific (mark : Char) (digits : List Char) (point : Int) : List Char :=
  digits.take 1 ++ '.' :: fractionText (digits.drop 1) ++ mark :: exponentText (point - 1)

/-- Whether a finite magnitude lies where a layout is positional. -/
def Layout.isPositional (layout : Layout) (magnitude : Nat) : Bool :=
  let exact := exactDecimal magnitude
  magnitude = 0 ||
    Nat.pow 10 (layout.least - exact.exponent).toNat ≤ exact.coefficient &&
      exact.coefficient < Nat.pow 10 (layout.below - exact.exponent).toNat

/-- A finite magnitude written out. -/
def Layout.magnitudeText (layout : Layout) (magnitude : Nat) : List Char :=
  let short := shortest magnitude
  let digits := Nat.toDigits 10 short.coefficient
  -- The point stands this many digits after the start of the number.
  let point : Int := if magnitude = 0 then 1 else digits.length + short.exponent
  if layout.isPositional magnitude then positional (significant digits) point
  else scientific layout.mark (significant digits) point

/-- A number written out, with a minus sign when its sign bit is set. -/
def Layout.text (layout : Layout) (x : Binary64) : String :=
  if x.isNaN then "NaN"
  else
    let body := if x.isInfinite then "Infinity".toList else layout.magnitudeText x.magnitude
    String.ofList (if x.isNegative then '-' :: body else body)

end LoxTokens.Binary64
