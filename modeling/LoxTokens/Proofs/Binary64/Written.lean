import LoxTokens.Proofs.Binary64.Layout
import LoxTokens.Proofs.Binary64.Reader
import LoxTokens.Proofs.Binary64.Shortest

/-! Magnitudes written out: which digits stand where, and that they are read as the same bits. -/

namespace LoxTokens.Binary64

/-- What stands behind the digits of a number: nothing, or a mark and a power of ten. -/
def powerText (mark : Char) : Option Int → List Char
  | none => []
  | some power => mark :: exponentText power

/-- A text with digits on both sides of a point, and perhaps a power of ten behind them. -/
structure WrittenAs (mark : Char) (text whole fraction : List Char) (power : Option Int) :
    Prop where
  spelled : text = whole ++ '.' :: (fraction ++ powerText mark power)
  whole : IsDigits whole
  fraction : IsDigits fraction

/-- The digits that a magnitude is written with. -/
def keptDigits (magnitude : Nat) : List Char :=
  significant (Nat.toDigits 10 (shortest magnitude).coefficient)

/-- How many of those digits stand in front of the point in the positional form. -/
def pointPlace (magnitude : Nat) : Int :=
  if magnitude = 0 then 1
  else (Nat.toDigits 10 (shortest magnitude).coefficient).length + (shortest magnitude).exponent

section Magnitude

variable {layout : Layout} {magnitude : Nat}

/-- There are digits to write. -/
theorem isDigits_keptDigits (magnitude : Nat) : IsDigits (keptDigits magnitude) :=
  isDigits_significant (isDigits_toDigits _)

/-- The first of them is zero only if the number is. -/
theorem head?_keptDigits_ne (finite : magnitude < infinityBits) (nonzero : magnitude ≠ 0) :
    (keptDigits magnitude).head? ≠ some '0' := by
  rw [keptDigits, head?_significant Nat.toDigits_ne_nil]
  apply head?_toDigits_ne
  have := (coefficient_shortest_eq_zero finite).not.mpr nonzero
  omega

/-- With the point in its place, the digits are worth the shortest decimal number. -/
theorem wholeValue_keptDigits (finite : magnitude < infinityBits) :
    Decimal.wholeValue (keptDigits magnitude) *
      10 ^ (pointPlace magnitude - (keptDigits magnitude).length) = (shortest magnitude).toRat := by
  have present : Nat.toDigits 10 (shortest magnitude).coefficient ≠ [] := Nat.toDigits_ne_nil
  obtain ⟨count, digits⟩ := exists_eq_significant_append present
  -- The zeros that are not kept are a power of ten.
  have coefficient : Decimal.wholeValue (keptDigits magnitude) * 10 ^ count =
      (shortest magnitude).coefficient := by
    rw [keptDigits, ← Decimal.wholeValue_append_zeros, ← digits, Decimal.wholeValue_toDigits]
  have length : (Nat.toDigits 10 (shortest magnitude).coefficient).length =
      (keptDigits magnitude).length + count := by
    have lengths := congrArg List.length digits
    rwa [List.length_append, List.length_replicate] at lengths
  rw [Decimal.toRat, ← coefficient]
  by_cases zero : magnitude = 0
  · -- Wherever its point is, zero is zero.
    rw [(coefficient_shortest_eq_zero finite).mpr zero, Nat.cast_zero] at coefficient
    have nonzero : (10 : ℚ) ^ count ≠ 0 := by positivity
    rw [(mul_eq_zero.mp coefficient).resolve_right nonzero, zero_mul, zero_mul, zero_mul]
  · have places : pointPlace magnitude - (keptDigits magnitude).length =
        count + (shortest magnitude).exponent := by
      rw [pointPlace, if_neg zero, length]
      omega
    rw [places, zpow_add₀ (by norm_num), zpow_natCast, mul_assoc]

/-- Zero is positional, and so is what lies between the two powers of ten of a layout. -/
theorem Layout.isPositional_iff (least : -depth ≤ layout.least) (below : -depth ≤ layout.below) :
    layout.isPositional magnitude = true ↔ magnitude = 0 ∨
      (10 : ℚ) ^ layout.least ≤ rational magnitude ∧ rational magnitude < 10 ^ layout.below := by
  -- Both bounds are powers of ten that are compared with the exact decimal number.
  have lower := ten_pow_le_coefficient least magnitude
  have upper := (ten_pow_le_coefficient below magnitude).not
  rw [not_le, not_le] at upper
  simp only [Layout.isPositional, Bool.or_eq_true, Bool.and_eq_true, decide_eq_true_eq]
  rw [lower, upper]

/-- Wherever the point is put, a power of ten can make up for it. -/
theorem toRat_scaled_keptDigits (finite : magnitude < infinityBits) {point power : Int}
    (moved : point + power = pointPlace magnitude) :
    (scaled (.ofDigits (wholeDigits (keptDigits magnitude) point)
      (fractionDigits (keptDigits magnitude) point)) power).toRat = (shortest magnitude).toRat := by
  have places : point - (keptDigits magnitude).length + power =
      pointPlace magnitude - (keptDigits magnitude).length := by
    omega
  rw [toRat_scaled, Decimal.toRat_ofDigits, wholeValue_add_fractionValue, mul_assoc,
    ← zpow_add₀ (by norm_num), places, wholeValue_keptDigits finite]

/-- In the positional form the point is in its place, and there is no power of ten. -/
theorem writtenAs_positional (positional : layout.isPositional magnitude = true) :
    WrittenAs layout.mark (layout.magnitudeText magnitude)
      (wholeDigits (keptDigits magnitude) (pointPlace magnitude))
      (fractionDigits (keptDigits magnitude) (pointPlace magnitude)) none := by
  obtain ⟨whole, fraction⟩ :=
    isDigits_whole_fraction (isDigits_keptDigits magnitude) (pointPlace magnitude)
  refine ⟨?_, whole, fraction⟩
  rw [powerText, List.append_nil, ← positional_eq]
  exact if_pos positional

/-- In the scientific form the point is behind the first digit, and a power of ten puts it right. -/
theorem writtenAs_scientific (scientific : layout.isPositional magnitude = false) :
    WrittenAs layout.mark (layout.magnitudeText magnitude)
      (wholeDigits (keptDigits magnitude) 1) (fractionDigits (keptDigits magnitude) 1)
      (some (pointPlace magnitude - 1)) := by
  obtain ⟨whole, fraction⟩ := isDigits_whole_fraction (isDigits_keptDigits magnitude) 1
  refine ⟨?_, whole, fraction⟩
  rw [powerText, ← scientific_eq layout.mark (isDigits_keptDigits magnitude).1]
  exact if_neg (by simp [scientific])

/-- The one digit in front of the point is zero only if the number is. -/
theorem wholeDigits_one (finite : magnitude < infinityBits) :
    ∃ c, wholeDigits (keptDigits magnitude) 1 = [c] ∧ (magnitude ≠ 0 → c ≠ '0') := by
  obtain ⟨c, more, kept, _⟩ := (isDigits_keptDigits magnitude).exists_cons
  refine ⟨c, by simp [wholeDigits, kept], fun nonzero zero => ?_⟩
  apply head?_keptDigits_ne finite nonzero
  rw [kept, zero, List.head?_cons]

/-- Either form has digits on both sides of a point, and they are worth the shortest decimal. -/
theorem exists_writtenAs (layout : Layout) (finite : magnitude < infinityBits) :
    ∃ whole fraction power,
      WrittenAs layout.mark (layout.magnitudeText magnitude) whole fraction power ∧
      (power.isSome ↔ layout.isPositional magnitude = false) ∧
      (power.isSome → ∃ c, whole = [c] ∧ (magnitude ≠ 0 → c ≠ '0')) ∧
      (scaled (.ofDigits whole fraction) (power.getD 0)).toRat = (shortest magnitude).toRat := by
  cases positional : layout.isPositional magnitude with
  | true =>
    exact ⟨_, _, none, writtenAs_positional positional, by simp, by simp,
      toRat_scaled_keptDigits finite (by simp)⟩
  | false =>
    exact ⟨_, _, some _, writtenAs_scientific positional, by simp,
      fun _ => wholeDigits_one finite, toRat_scaled_keptDigits finite (by simp)⟩

end Magnitude

/-- A power of ten is read, and so is the lack of one. -/
theorem readPower?_powerText {mark : Char} (marked : isMark mark) (power : Option Int) :
    readPower? (powerText mark power) = some (power.getD 0) := by
  cases power with
  | none => rfl
  | some power =>
    rw [powerText, exponentText, Option.getD_some]
    split
    · obtain ⟨_, negative⟩ := readPower?_cons marked (isDigits_toDigits (-power).toNat)
      rw [negative, Nat.ofDigitChars_ten_toDigits]
      exact congrArg some (by omega)
    · obtain ⟨positive, _⟩ := readPower?_cons marked (isDigits_toDigits power.toNat)
      rw [positive, Nat.ofDigitChars_ten_toDigits]
      exact congrArg some (by omega)

/-- A mark is no digit. -/
theorem stopsAt_powerText {mark : Char} (marked : isMark mark) (power : Option Int) :
    Piece.StopsAt Char.isDigit (powerText mark power) := by
  cases power with
  | none => simp [powerText, Piece.StopsAt]
  | some power =>
    intro next head
    obtain rfl : mark = next := Option.some.inj head
    simp only [isMark, Bool.or_eq_true, decide_eq_true_eq] at marked
    rcases marked with rfl | rfl <;> rfl

/-- A number that is written is read as the decimal number that its digits are. -/
theorem WrittenAs.readDecimal? {mark : Char} {text whole fraction : List Char}
    {power : Option Int} (marked : isMark mark)
    (written : WrittenAs mark text whole fraction power) :
    Binary64.readDecimal? text = some (scaled (.ofDigits whole fraction) (power.getD 0)) := by
  rw [written.spelled]
  exact readDecimal?_point written.whole written.fraction (stopsAt_powerText marked power)
    (readPower?_powerText marked power)

/-- A finite magnitude that is written is read as the same bits. -/
theorem readMagnitude?_magnitudeText {layout : Layout} (marked : isMark layout.mark)
    {magnitude : Nat} (finite : magnitude < infinityBits) :
    readMagnitude? (layout.magnitudeText magnitude) = some magnitude := by
  -- The decimal number that is read is the shortest one, in other digits at most.
  obtain ⟨whole, fraction, power, written, _, _, worth⟩ := exists_writtenAs layout finite
  rw [readMagnitude?, written.readDecimal? marked, Option.map_some, Option.some_or,
    magnitudeOf_congr worth, magnitudeOf_shortest finite]

/-- An infinity has a name, with a minus in front of it or without. -/
theorem text_of_infinite (layout : Layout) {x : Binary64} (infinite : x.isInfinite = true) :
    layout.text x = String.ofList
      (if x.isNegative then '-' :: "Infinity".toList else "Infinity".toList) := by
  have top : x.magnitude = infinityBits := of_decide_eq_true infinite
  have number : x.isNaN = false := decide_eq_false (by omega)
  simp only [Layout.text, number, infinite, Bool.false_eq_true, if_false, if_true]

/-- Any other number is its magnitude, with a minus in front of it or without. -/
theorem text_of_finite (layout : Layout) {x : Binary64} (finite : x.magnitude < infinityBits) :
    layout.text x = String.ofList (if x.isNegative then '-' :: layout.magnitudeText x.magnitude
      else layout.magnitudeText x.magnitude) := by
  have number : x.isNaN = false := decide_eq_false (by omega)
  have below : x.isInfinite = false := decide_eq_false (by omega)
  simp only [Layout.text, number, below, Bool.false_eq_true, if_false]

/-- The name of infinity is read, in letters of either case. -/
theorem readMagnitude?_infinity : readMagnitude? "Infinity".toList = some infinityBits := by
  have none : readDecimal? "Infinity".toList = none := by decide
  rw [readMagnitude?, none]
  decide

/-- A number that is written is read as the same bits, sign and all. -/
theorem read?_text {layout : Layout} (marked : isMark layout.mark)
    {x : Binary64} (number : x.isNaN = false) : read? (layout.text x) = some x := by
  rcases Nat.lt_or_eq_of_le (magnitude_le number) with finite | top
  · -- What is finite starts with a digit, so no sign but its own is taken off.
    have read := readMagnitude?_magnitudeText marked finite
    have unsigned : splitSign (layout.magnitudeText x.magnitude) =
        (false, layout.magnitudeText x.magnitude) := by
      obtain ⟨_, _, _, written, _⟩ := exists_writtenAs layout finite
      obtain ⟨c, more, rfl, digit⟩ := written.whole.exists_cons
      rw [written.spelled]
      exact splitSign_cons_digit digit _
    rw [text_of_finite layout finite]
    exact read?_signed unsigned read
  · have read := readMagnitude?_infinity
    rw [← top] at read
    rw [text_of_infinite layout (decide_eq_true top)]
    exact read?_signed rfl read

end LoxTokens.Binary64
