import LoxTokens.Binary64.Basic

/-! The decimal number with the fewest digits among those that read back as a given magnitude. -/

namespace LoxTokens.Binary64

/-- A finite magnitude as a decimal number, exactly: halving is multiplying by five tenths. -/
def exactDecimal (magnitude : Nat) : Decimal where
  coefficient := stepsOf magnitude * Nat.pow 5 depth
  exponent := -depth

/-- A decimal number with its last `places` digits cut off. -/
def cutBelow (d : Decimal) (places : Nat) : Decimal where
  coefficient := d.coefficient / Nat.pow 10 places
  exponent := d.exponent + places

/-- The same as cutting off, and one more in the last digit kept. -/
def cutAbove (d : Decimal) (places : Nat) : Decimal where
  coefficient := d.coefficient / Nat.pow 10 places + 1
  exponent := d.exponent + places

/-- Whether a decimal number reads as the magnitude with these bits. -/
def readsAs (magnitude : Nat) (d : Decimal) : Bool := magnitudeOf d = magnitude

/-- The one of two candidates that will do; if both will, the lower one only when it is nearer. -/
def choose (belowFits aboveFits belowNearer : Bool) (below above : Decimal) : Option Decimal :=
  match belowFits, aboveFits with
  | true, true => some (if belowNearer then below else above)
  | true, false => some below
  | false, true => some above
  | false, false => none

/--
The nearer of the two neighbours of a magnitude that have `places` digits less than it, among
those that read back; of two that are equally near, the upper one.
-/
def neighbour? (magnitude places : Nat) : Option Decimal :=
  let exact := exactDecimal magnitude
  let below := cutBelow exact places
  let above := cutAbove exact places
  choose (readsAs magnitude below) (readsAs magnitude above)
    (2 * (exact.coefficient % Nat.pow 10 places) < Nat.pow 10 places) below above

/-- The first neighbour found as a number of `width` digits keeps one of them, two, and so on. -/
def firstNeighbour? (magnitude width : Nat) : Option Decimal :=
  (List.range 17).findSome? fun further => neighbour? magnitude (width - 1 - further)

/--
A decimal number with as few digits as reading back allows, and of those the nearest.

Seventeen digits are enough for every magnitude; the exact number ends the search in any case.
-/
def shortest (magnitude : Nat) : Decimal :=
  let exact := exactDecimal magnitude
  (firstNeighbour? magnitude (Nat.toDigits 10 exact.coefficient).length).getD exact

/-- What is chosen is one of the candidates, and it will do. -/
theorem choose_eq_some {belowFits aboveFits belowNearer : Bool} {below above d : Decimal}
    (chosen : choose belowFits aboveFits belowNearer below above = some d) :
    (belowFits = true ∧ d = below) ∨ (aboveFits = true ∧ d = above) := by
  cases belowFits <;> cases aboveFits <;> cases belowNearer <;> simp_all [choose]

/-- A neighbour that is found reads back. -/
theorem readsAs_of_neighbour? {magnitude places : Nat} {d : Decimal}
    (found : neighbour? magnitude places = some d) : readsAs magnitude d = true := by
  rcases choose_eq_some found with ⟨fits, rfl⟩ | ⟨fits, rfl⟩ <;> exact fits

/-- A neighbour that the search finds reads back. -/
theorem readsAs_of_firstNeighbour? {magnitude width : Nat} {d : Decimal}
    (found : firstNeighbour? magnitude width = some d) : readsAs magnitude d = true := by
  obtain ⟨_, _, is⟩ := List.exists_of_findSome?_eq_some found
  exact readsAs_of_neighbour? is

end LoxTokens.Binary64
