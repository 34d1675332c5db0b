import LoxTokens.Proofs.Binary64.Written
import LoxTokens.Token.Literal

/-! How numbers are displayed: as texts that tell them apart, and which of them have exponents. -/

namespace LoxTokens

open Binary64 (WrittenAs infinityBits magnitudeOf rational)

/-- The sign in front of a number. -/
def signText (x : Binary64) : List Char := if x.isNegative then ['-'] else []

/--
What the text of a finite number looks like.

Its digits stand on both sides of a point, and behind them there may be a power of ten.
-/
structure Displayed (x : Binary64) (text : String) (whole fraction : List Char)
    (power : Option Int) : Prop where
  written : ∃ body, text.toList = signText x ++ body ∧ WrittenAs 'E' body whole fraction power
  /-- There is a power of ten below a thousandth and from ten million on, but not for zero. -/
  scientific : power.isSome ↔ x.magnitude ≠ 0 ∧
    (rational x.magnitude < 1 / 1000 ∨ 10000000 ≤ rational x.magnitude)
  /-- The bounds may as well be the numbers that a thousandth and ten million round to. -/
  rounded : power.isSome ↔ x.magnitude ≠ 0 ∧
    (x.magnitude < magnitudeOf ⟨1, -3⟩ ∨ magnitudeOf ⟨1, 7⟩ ≤ x.magnitude)
  /-- In front of a power of ten there is one digit before the point, and it is not zero. -/
  normalized : power.isSome → ∃ c, whole = [c] ∧ c ≠ '0'

namespace Literal

/-- Zero is positional, and so is what lies between a thousandth and ten million. -/
theorem isPositional_eq_false {magnitude : Nat} :
    numberLayout.isPositional magnitude = false ↔ magnitude ≠ 0 ∧
      (rational magnitude < 1 / 1000 ∨ 10000000 ≤ rational magnitude) := by
  have inside : numberLayout.isPositional magnitude = true ↔ magnitude = 0 ∨
      (10 : ℚ) ^ numberLayout.least ≤ rational magnitude ∧
        rational magnitude < 10 ^ numberLayout.below :=
    Binary64.Layout.isPositional_iff (by decide) (by decide)
  have least : (10 : ℚ) ^ numberLayout.least = 1 / 1000 := by norm_num [numberLayout]
  have below : (10 : ℚ) ^ numberLayout.below = 10000000 := by norm_num [numberLayout]
  rw [least, below] at inside
  rw [← Bool.not_eq_true, inside, not_or, not_and_or, not_le, not_lt]

/-- Between a bound of the layout and the number that it rounds to there is no other. -/
theorem bounds_round (magnitude : Nat) :
    (1 / 1000 ≤ rational magnitude ↔ magnitudeOf ⟨1, -3⟩ ≤ magnitude) ∧
      (10000000 ≤ rational magnitude ↔ magnitudeOf ⟨1, 7⟩ ≤ magnitude) := by
  have thousandth : (10 : ℚ) ^ (-3 : Int) = 1 / 1000 := by norm_num
  have million : (10 : ℚ) ^ (7 : Int) = 10000000 := by norm_num
  rw [← thousandth, ← million]
  -- The binary number nearest to a thousandth is above it, and ten million is one itself.
  exact ⟨Binary64.ten_pow_le_iff (by decide) (by decide +kernel) (by decide +kernel) magnitude,
    Binary64.ten_pow_le_iff (by decide) (by decide +kernel) (by decide +kernel) magnitude⟩

/-- A finite number is displayed that way. -/
theorem exists_displayed {x : Binary64} (finite : x.magnitude < infinityBits) :
    ∃ whole fraction power, Displayed x (number x).text whole fraction power := by
  obtain ⟨whole, fraction, power, written, form, normalized, _⟩ :=
    Binary64.exists_writtenAs numberLayout finite
  -- The layout decides by exact decimal numbers, which is the same as deciding by the bits.
  have scientific := form.trans isPositional_eq_false
  obtain ⟨least, below⟩ := bounds_round x.magnitude
  refine ⟨whole, fraction, power, ⟨_, ?_, written⟩, scientific, ?_, ?_⟩
  · rw [text, Binary64.text_of_finite numberLayout finite, String.toList_ofList, signText]
    cases x.isNegative <;> rfl
  · rw [scientific, below, ← not_le, least, not_le]
  · intro present
    obtain ⟨c, same, first⟩ := normalized present
    exact ⟨c, same, first (scientific.mp present).1⟩

end Literal

/--
Every number is displayed as a text that reads back as the same bits, so that no two look alike.

A finite number has digits on both sides of a point, and behind them a power of ten if it is not
zero and out of the range where one can do without.
-/
theorem numbers_displayed :
    (∀ x : Binary64, x.isNaN = false → Binary64.read? (Literal.number x).text = some x) ∧
    (∀ x y : Binary64, x.isNaN = false → y.isNaN = false →
      (Literal.number x).text = (Literal.number y).text → x = y) ∧
    ∀ x : Binary64, x.isNaN = false → x.isInfinite = false →
      ∃ whole fraction power, Displayed x (Literal.number x).text whole fraction power := by
  have reads {x : Binary64} (number : x.isNaN = false) :
      Binary64.read? (Literal.number x).text = some x := Binary64.read?_text rfl number
  refine ⟨fun x => reads, ?_, ?_⟩
  · -- One text is read in one way only.
    intro x y xNumber yNumber alike
    have same := reads xNumber
    rw [alike, reads yNumber] at same
    exact (Option.some.inj same).symm
  · intro x number finite
    exact Literal.exists_displayed (Binary64.magnitude_lt number finite)

/-- The least number above zero is displayed with an exponent, and both zeros are told apart. -/
theorem numbers_displayed_least :
    (Literal.number ⟨1⟩).text = "5.0E-324" ∧
      Binary64.read? (Literal.number ⟨1⟩).text = some ⟨1⟩ ∧
      (∃ whole fraction power, Displayed ⟨1⟩ (Literal.number ⟨1⟩).text whole fraction power) ∧
      (Literal.number ⟨0⟩).text ≠ (Literal.number ⟨0x8000000000000000⟩).text := by
  refine ⟨by decide +kernel, numbers_displayed.1 _ (by decide),
    numbers_displayed.2.2 _ (by decide) (by decide), ?_⟩
  intro alike
  have same := numbers_displayed.2.1 _ _ (by decide) (by decide) alike
  exact absurd same (by decide)

end LoxTokens
