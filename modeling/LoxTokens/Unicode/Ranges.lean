/-! Sets of code points, held as ascending ranges. -/

namespace LoxTokens.Unicode

/-- Ranges of code points, both ends included, in ascending order and apart from each other. -/
abbrev Ranges := List (Nat × Nat)

/-- Whether a code point lies in one of the ranges. -/
def Ranges.has : Ranges → Nat → Bool
  | [], _ => false
  -- The ranges ascend, so a code point below the first range lies in none of them.
  | (first, last) :: later, code => first ≤ code && (code ≤ last || has later code)

/-- A code point below the first range lies in none of them. -/
theorem Ranges.has_below {first last code : Nat} {later : Ranges} (below : code < first) :
    Ranges.has ((first, last) :: later) code = false := by
  simp [Ranges.has, Nat.not_le.mpr below]

end LoxTokens.Unicode
