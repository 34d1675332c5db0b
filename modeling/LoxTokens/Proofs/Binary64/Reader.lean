import LoxTokens.Proofs.Binary64.Value
import LoxTokens.Proofs.Piece.Lexeme
import Mathlib.Data.List.TakeWhile

/-! Reading a number: a sign, then digits with a point among them and a power of ten, or a name. -/

namespace LoxTokens.Binary64

/-- Whether a text starts with a minus, and what it is without the sign that it may start with. -/
def splitSign : List Char → Bool × List Char
  | '-' :: rest => (true, rest)
  | '+' :: rest => (false, rest)
  | text => (false, text)

/-- Whether a character announces a power of ten. -/
def isMark (c : Char) : Bool := c = 'e' || c = 'E'

/-- The power of ten behind digits: none at all, or a mark, perhaps a sign, and digits again. -/
def readPower? : List Char → Option Int
  | [] => some 0
  | mark :: rest =>
    let (negative, digits) := splitSign rest
    let power : Int := Nat.ofDigitChars 10 digits 0
    if isMark mark ∧ digits ≠ [] ∧ digits.all Char.isDigit then
      some (if negative then -power else power)
    else none

/-- The digits behind a point, if a text starts with one, and what comes after them. -/
def splitFraction : List Char → List Char × List Char
  | '.' :: rest => (rest.takeWhile Char.isDigit, rest.dropWhile Char.isDigit)
  | rest => ([], rest)

/-- A decimal number times a power of ten. -/
def scaled (d : Decimal) (power : Int) : Decimal := ⟨d.coefficient, d.exponent + power⟩

/-- A decimal number, which has digits on one side of its point at least. -/
def readDecimal? (text : List Char) : Option Decimal :=
  let whole := text.takeWhile Char.isDigit
  let (fraction, rest) := splitFraction (text.dropWhile Char.isDigit)
  if whole = [] ∧ fraction = [] then none
  else (readPower? rest).map (scaled (.ofDigits whole fraction))

/-- The bits that are read for what is no number. -/
def quietBits : Nat := infinityBits + hiddenBit / 2

/-- A magnitude with a name, which may be of either case. -/
def namedMagnitude? (text : List Char) : Option Nat :=
  let name := String.ofList (text.map Char.toLower)
  if name = "inf" ∨ name = "infinity" then some infinityBits
  else if name = "nan" then some quietBits
  else none

/-- A magnitude: that of a decimal number, or one with a name. -/
def readMagnitude? (text : List Char) : Option Nat :=
  ((readDecimal? text).map magnitudeOf).or (namedMagnitude? text)

/-- The number with a given sign and magnitude. -/
def ofParts (negative : Bool) (magnitude : Nat) : Binary64 :=
  ⟨UInt64.ofNat (if negative then signBit + magnitude else magnitude)⟩

/-- A number: a sign or none, and a magnitude. -/
def read? (text : String) : Option Binary64 :=
  let (negative, rest) := splitSign text.toList
  (readMagnitude? rest).map (ofParts negative)

/-- Without a sign in front, all of a text is kept. -/
theorem splitSign_eq {text : List Char} (unsigned : ∀ c, text.head? = some c → c ≠ '-' ∧ c ≠ '+') :
    splitSign text = (false, text) := by
  unfold splitSign
  split
  · exact absurd rfl (unsigned '-' rfl).1
  · exact absurd rfl (unsigned '+' rfl).2
  · rfl

/-- A digit is no sign. -/
theorem splitSign_cons_digit {c : Char} (digit : c.isDigit = true) (rest : List Char) :
    splitSign (c :: rest) = (false, c :: rest) := by
  apply splitSign_eq
  intro first head
  obtain rfl := Option.some.inj head
  constructor
  · rintro rfl
    contradiction
  · rintro rfl
    contradiction

/-- The digits of a power of ten are read, with a minus in front of them or without. -/
theorem readPower?_cons {mark : Char} (marked : isMark mark) {digits : List Char}
    (isDigits : IsDigits digits) :
    readPower? (mark :: digits) = some (Nat.ofDigitChars 10 digits 0 : Int) ∧
      readPower? (mark :: '-' :: digits) = some (-(Nat.ofDigitChars 10 digits 0 : Int)) := by
  -- A minus is taken off, and a digit is not.
  have unsigned : splitSign digits = (false, digits) := by
    obtain ⟨c, more, rfl, digit⟩ := isDigits.exists_cons
    exact splitSign_cons_digit digit more
  have all : digits.all Char.isDigit = true := List.all_eq_true.mpr isDigits.2
  constructor
  · simp [readPower?, unsigned, marked, isDigits.1, all]
  · simp [readPower?, splitSign, marked, isDigits.1, all]

/-- Digits on both sides of a point are read, and the power of ten behind them. -/
theorem readDecimal?_point {whole fraction rest : List Char} {power : Int}
    (wholeDigits : IsDigits whole) (fractionDigits : IsDigits fraction)
    (stops : Piece.StopsAt Char.isDigit rest) (read : readPower? rest = some power) :
    readDecimal? (whole ++ '.' :: (fraction ++ rest)) =
      some (scaled (.ofDigits whole fraction) power) := by
  -- One run of digits ends at the point, and the other one where the rest begins.
  have point := stopsAt_point (fraction ++ rest)
  simp only [readDecimal?, Piece.takeWhile_append_of_stopsAt wholeDigits.2 point,
    Piece.dropWhile_append_of_stopsAt wholeDigits.2 point, splitFraction,
    Piece.takeWhile_append_of_stopsAt fractionDigits.2 stops,
    Piece.dropWhile_append_of_stopsAt fractionDigits.2 stops, read]
  rw [if_neg (fun none => wholeDigits.1 none.1)]
  rfl

/-- A power of ten is a factor. -/
theorem toRat_scaled (d : Decimal) (power : Int) :
    (scaled d power).toRat = d.toRat * 10 ^ power := by
  rw [scaled, Decimal.toRat, Decimal.toRat, zpow_add₀ (by norm_num), mul_assoc]

/-- A number has nothing but its sign and its magnitude. -/
theorem ofParts_parts (x : Binary64) : ofParts x.isNegative x.magnitude = x := by
  -- The sign bit is the highest, so that it and the bits below it add up.
  have bound : x.bits.toNat < 2 * signBit := x.bits.toNat_lt
  have same : (if x.isNegative then signBit + x.magnitude else x.magnitude) = x.bits.toNat := by
    simp only [isNegative, Binary64.magnitude, decide_eq_true_eq]
    unfold signBit at *
    split <;> omega
  rw [ofParts, same, UInt64.ofNat_toNat]

/-- Without a sign, a number has the bits of its magnitude. -/
@[simp] theorem ofParts_false (magnitude : Nat) :
    ofParts false magnitude = ⟨UInt64.ofNat magnitude⟩ := rfl

/-- A magnitude that is read where no sign is in front is the number with the sign before it. -/
theorem read?_signed {x : Binary64} {body : List Char}
    (unsigned : splitSign body = (false, body)) (read : readMagnitude? body = some x.magnitude) :
    read? (String.ofList (if x.isNegative then '-' :: body else body)) = some x := by
  have whole := ofParts_parts x
  cases sign : x.isNegative <;> rw [sign] at whole
  · simp [read?, unsigned, read, whole]
  · simp [read?, splitSign, read, whole]

/-- A numeral of a source is read as the number of its token. -/
theorem read?_numeral {text : List Char} {value : Decimal} (numeral : Numeral text value) :
    read? (String.ofList text) = some (ofDecimal value) := by
  have ended : Piece.StopsAt Char.isDigit [] := by simp [Piece.StopsAt]
  have decimal : readDecimal? text = some value := by
    cases numeral with
    | whole digits =>
      have taken := List.takeWhile_eq_self_iff.mpr digits.2
      have dropped := List.dropWhile_eq_nil_iff.mpr digits.2
      simp [readDecimal?, taken, dropped, splitFraction, digits.1, readPower?, scaled]
    | decimal digits fraction =>
      have read := readDecimal?_point digits fraction ended rfl
      simpa [scaled] using read
  -- A numeral has no sign, so that all of it is read as a magnitude.
  obtain ⟨c, more, rfl, digit⟩ := numeral.exists_cons
  have magnitude : readMagnitude? (c :: more) = some (magnitudeOf value) := by
    rw [readMagnitude?, decimal, Option.map_some, Option.some_or]
  rw [read?, String.toList_ofList, splitSign_cons_digit digit]
  show (readMagnitude? (c :: more)).map (ofParts false) = _
  rw [magnitude, Option.map_some, ofParts_false, ofDecimal]

-- Digits may be missing on one side of the point, and an exponent may have a sign of its own.
example : read? "-.5e+1" = some ⟨0xC014000000000000⟩ := by decide +kernel

end LoxTokens.Binary64
