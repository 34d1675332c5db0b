import LoxTokens.Binary64.Layout
import LoxTokens.Proofs.Decimal
import LoxTokens.Proofs.Piece.Lexeme

/-! The two ways to write a decimal number: where its digits stand, and what they are worth. -/

namespace LoxTokens.Binary64

open Decimal (wholeValue fractionValue fractionValue_eq wholeValue_replicate_zero)

/-- A number in digits has digits, and one at least. -/
theorem isDigits_toDigits (n : Nat) : IsDigits (Nat.toDigits 10 n) :=
  ⟨Nat.toDigits_ne_nil, fun _ => Nat.isDigit_of_mem_toDigits (by decide) (by decide)⟩

/-- Only zero starts with a zero. -/
theorem head?_toDigits_ne {n : Nat} (positive : 0 < n) : (Nat.toDigits 10 n).head? ≠ some '0' := by
  -- All digits but the last are those of the tenth part, which is not zero if there are any.
  induction n using Nat.strongRecOn with
  | ind n ih =>
    rcases Nat.lt_or_ge n 10 with small | large
    · have nonzero : ∀ digit < 10, 0 < digit → Nat.digitChar digit ≠ '0' := by decide
      rw [Nat.toDigits_of_lt_base small]
      simpa using nonzero n small positive
    · rw [Nat.toDigits_of_base_le (by decide) large,
        List.head?_append_of_ne_nil _ Nat.toDigits_ne_nil]
      exact ih (n / 10) (by omega) (by omega)

/-- Digits are those up to the last one that is not zero, and then zeros. -/
theorem eq_append_zeros (digits : List Char) : digits =
    (digits.reverse.dropWhile (· = '0')).reverse ++
      List.replicate (digits.reverse.takeWhile (· = '0')).length '0' := by
  have zeros : (digits.reverse.takeWhile (· = '0')).reverse =
      List.replicate (digits.reverse.takeWhile (· = '0')).length '0' := by
    rw [List.eq_replicate_iff, List.length_reverse]
    refine ⟨rfl, fun c member => ?_⟩
    have passes := List.all_eq_true.mp List.all_takeWhile c (List.mem_reverse.mp member)
    simpa using passes
  rw [← zeros, ← List.reverse_append, List.takeWhile_append_dropWhile, List.reverse_reverse]

/-- The digits that are kept are those in front of the zeros at the end. -/
theorem exists_eq_significant_append {digits : List Char} (present : digits ≠ []) :
    ∃ count, digits = significant digits ++ List.replicate count '0' := by
  have halves := eq_append_zeros digits
  generalize (digits.reverse.takeWhile (· = '0')).length = count at halves
  unfold significant
  split
  next none =>
    -- All digits are zeros, and the first of them is kept.
    rw [none, List.nil_append] at halves
    cases count with
    | zero => exact absurd halves present
    | succ count => exact ⟨count, halves⟩
  next => exact ⟨count, halves⟩

/-- At least one digit is kept. -/
theorem significant_ne_nil (digits : List Char) : significant digits ≠ [] := by
  unfold significant
  split
  · simp
  next kept some => exact some

/-- What is kept of digits are digits. -/
theorem isDigits_significant {digits : List Char} (isDigits : IsDigits digits) :
    IsDigits (significant digits) := by
  -- They all come from the digits that were given.
  obtain ⟨count, same⟩ := exists_eq_significant_append isDigits.1
  refine ⟨significant_ne_nil digits, fun c member => isDigits.2 c ?_⟩
  rw [same]
  exact List.mem_append_left _ member

/-- The first digit is kept. -/
theorem head?_significant {digits : List Char} (present : digits ≠ []) :
    (significant digits).head? = digits.head? := by
  obtain ⟨count, same⟩ := exists_eq_significant_append present
  conv_rhs => rw [same]
  rw [List.head?_append_of_ne_nil _ (significant_ne_nil digits)]

/-- The digits in front of the point when it stands after the first `point` of some digits. -/
def wholeDigits (digits : List Char) (point : Int) : List Char :=
  if point ≤ 0 then ['0']
  else digits.take point.toNat ++ List.replicate (point.toNat - digits.length) '0'

/-- The digits behind the point when it stands after the first `point` of some digits. -/
def fractionDigits (digits : List Char) (point : Int) : List Char :=
  if point ≤ 0 then List.replicate (-point).toNat '0' ++ digits
  else fractionText (digits.drop point.toNat)

/-- The positional form has digits on both sides of the point. -/
theorem positional_eq (digits : List Char) (point : Int) :
    positional digits point = wholeDigits digits point ++ '.' :: fractionDigits digits point := by
  unfold positional wholeDigits fractionDigits
  split <;> rfl

/-- The scientific form has the point after the first digit, and then the power of ten. -/
theorem scientific_eq (mark : Char) {digits : List Char} (present : digits ≠ []) (point : Int) :
    scientific mark digits point = wholeDigits digits 1 ++
      '.' :: (fractionDigits digits 1 ++ mark :: exponentText (point - 1)) := by
  obtain ⟨c, more, rfl⟩ := List.exists_cons_of_ne_nil present
  simp [scientific, wholeDigits, fractionDigits]

/-- A fraction part has digits, and one at least. -/
theorem isDigits_fractionText {digits : List Char} (all : ∀ c ∈ digits, c.isDigit = true) :
    IsDigits (fractionText digits) := by
  cases digits with
  | nil => exact ⟨by simp [fractionText], by simp [fractionText]⟩
  | cons c more => exact ⟨by simp [fractionText], by simpa [fractionText] using all⟩

/-- A digit that stands for nothing changes nothing behind the point. -/
theorem fractionValue_fractionText (digits : List Char) :
    fractionValue (fractionText digits) = fractionValue digits := by
  cases digits with
  | nil => simp [fractionText, fractionValue, Decimal.digitValue]
  | cons c more => rfl

/-- There are digits on both sides of the point. -/
theorem isDigits_whole_fraction {digits : List Char} (isDigits : IsDigits digits) (point : Int) :
    IsDigits (wholeDigits digits point) ∧ IsDigits (fractionDigits digits point) := by
  obtain ⟨present, all⟩ := isDigits
  have zero : ∀ count, ∀ c ∈ List.replicate count '0', c.isDigit = true := by
    intro count c member
    rw [List.eq_of_mem_replicate member]
    rfl
  unfold wholeDigits fractionDigits
  -- Either side is made of given digits and zeros, and neither is empty.
  split
  · refine ⟨⟨by simp, by simp⟩, by simp [present], fun c member => ?_⟩
    rcases List.mem_append.mp member with padding | kept
    · exact zero _ c padding
    · exact all c kept
  · refine ⟨⟨?_, fun c member => ?_⟩, ?_⟩
    · obtain ⟨c, more, rfl⟩ := List.exists_cons_of_ne_nil present
      have some : point.toNat ≠ 0 := by omega
      simp [some]
    · rcases List.mem_append.mp member with kept | padding
      · exact all c (List.mem_of_mem_take kept)
      · exact zero _ c padding
    · exact isDigits_fractionText fun c member => all c (List.mem_of_mem_drop member)

/-- The digits on both sides of the point are worth what they say, with the point in its place. -/
theorem wholeValue_add_fractionValue (digits : List Char) (point : Int) :
    wholeValue (wholeDigits digits point) + fractionValue (fractionDigits digits point) =
      wholeValue digits * 10 ^ (point - digits.length) := by
  unfold wholeDigits fractionDigits
  split
  next before =>
    -- The zeros in front move the digits behind the point.
    have places : point - digits.length = -(((-point).toNat + digits.length : Nat) : Int) := by
      omega
    have none : wholeValue ['0'] = 0 := wholeValue_replicate_zero 1
    rw [none, zero_add, fractionValue_eq, Decimal.wholeValue_append, wholeValue_replicate_zero,
      zero_mul, zero_add, List.length_append, List.length_replicate, places, zpow_neg,
      zpow_natCast, div_eq_mul_inv]
  next after =>
    rw [fractionValue_fractionText]
    rcases Nat.le_total digits.length point.toNat with beyond | inside
    · -- The zeros behind fill the places up to the point.
      have places : point - digits.length = ((point.toNat - digits.length : Nat) : Int) := by
        omega
      rw [List.take_of_length_le beyond, List.drop_of_length_le beyond,
        Decimal.wholeValue_append_zeros, places, zpow_natCast]
      simp [fractionValue]
    · -- Inside the digits, the point cuts them in two.
      have places : point - digits.length = -((digits.length - point.toNat : Nat) : Int) := by
        omega
      have nonzero : (10 : ℚ) ^ (digits.length - point.toNat) ≠ 0 := by positivity
      have halves := Decimal.wholeValue_append (digits.take point.toNat) (digits.drop point.toNat)
      rw [List.take_append_drop, List.length_drop] at halves
      rw [Nat.sub_eq_zero_of_le inside, List.replicate_zero, List.append_nil,
        fractionValue_eq, List.length_drop, places, zpow_neg, zpow_natCast, halves]
      field_simp

end LoxTokens.Binary64
