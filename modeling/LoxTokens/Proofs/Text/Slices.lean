import LoxTokens.Proofs.Text.Utf8

/-! Slices of a text by the bytes they start and end at, which must be boundaries of characters. -/

namespace LoxTokens.Utf8

/-- How many bytes a text takes. -/
def byteLength (text : List Char) : Nat := (encode text).length

/-- Whether a place in some bytes is at either end of them, or where a character can start. -/
def isBoundary (bytes : List UInt8) (place : Nat) : Bool :=
  match bytes[place]? with
  | some byte => place = 0 || !isTail byte
  | none => place = bytes.length

/--
The part of a text from one place in its bytes up to another.

There is none when the places are out of order or out of bounds, or when one is inside a character.
-/
def slice? (text : List Char) (first last : Nat) : Option (List Char) :=
  let bytes := encode text
  if first ≤ last && isBoundary bytes first && isBoundary bytes last then
    decode? ((bytes.take last).drop first)
  else none

@[simp] theorem byteLength_nil : byteLength [] = 0 := rfl

/-- Two texts in a row take the bytes of both. -/
@[simp] theorem byteLength_append (left right : List Char) :
    byteLength (left ++ right) = byteLength left + byteLength right := by
  simp [byteLength]

/-- An ASCII character takes one byte. -/
theorem utf8EncodeChar_ascii {c : Char} (ascii : c.toNat < 0x80) :
    String.utf8EncodeChar c = [UInt8.ofNat c.toNat] := by
  have small : c.val.toNat ≤ 127 := Nat.le_of_lt_succ ascii
  rw [String.utf8EncodeChar, if_pos small]
  rfl

/-- An ASCII character adds one byte to what follows it. -/
theorem byteLength_cons_ascii {c : Char} (ascii : c.toNat < 0x80) (text : List Char) :
    byteLength (c :: text) = 1 + byteLength text := by
  simp [byteLength, encode_cons, utf8EncodeChar_ascii ascii, Nat.add_comm]

/-- The first byte of a character is not one that stands inside a character. -/
theorem exists_cons_utf8EncodeChar (c : Char) : ∃ byte tails,
    String.utf8EncodeChar c = byte :: tails ∧ isTail byte = false ∧
      (byte.toNat < 0x80 ↔ c.toNat < 0x80) := by
  -- Bytes that start a longer character lie above those that stand inside one.
  by_cases ascii : c.toNat < 0x80
  · refine ⟨_, [], utf8EncodeChar_ascii ascii, ?_, ?_⟩
    · simp only [isTail, UInt8.le_iff_toNat_le, UInt8.toNat_ofNat', UInt8.reduceToNat]
      simp
      omega
    · rw [UInt8.toNat_ofNat']
      omega
  · have long : ¬c.val.toNat ≤ 127 := fun small => ascii (Nat.lt_succ_of_le small)
    have opened {byte : UInt8} (high : 0xC0 ≤ byte.toNat) :
        isTail byte = false ∧ (byte.toNat < 0x80 ↔ c.toNat < 0x80) := by
      simp only [isTail, UInt8.le_iff_toNat_le, UInt8.reduceToNat]
      simp
      omega
    rw [String.utf8EncodeChar, if_neg long]
    split
    · exact ⟨_, _, rfl, opened (by rw [UInt8.toNat_ofNat']; omega)⟩
    · split <;> exact ⟨_, _, rfl, opened (by rw [UInt8.toNat_ofNat']; omega)⟩

/-- A text has no more characters than bytes. -/
theorem length_le_byteLength (text : List Char) : text.length ≤ byteLength text := by
  induction text with
  | nil => exact Nat.le_refl _
  | cons c text ih =>
    obtain ⟨byte, tails, encoded, _, _⟩ := exists_cons_utf8EncodeChar c
    simp only [byteLength] at ih
    simp only [byteLength, encode_cons, encoded, List.length_append, List.length_cons]
    omega

/-- Where one text ends and another one starts is a boundary. -/
theorem isBoundary_append (before after : List Char) :
    isBoundary (encode (before ++ after)) (byteLength before) = true := by
  -- The next byte is the first one of a character, if there is a next byte at all.
  cases after with
  | nil => simp [isBoundary, byteLength]
  | cons c after =>
    obtain ⟨byte, tails, encoded, starts, _⟩ := exists_cons_utf8EncodeChar c
    simp [isBoundary, byteLength, encode_cons, encoded, starts]

/-- The slice between the ends of two texts in a row is the second one. -/
theorem slice?_append (before middle after : List Char) :
    slice? (before ++ (middle ++ after)) (byteLength before)
      (byteLength before + byteLength middle) = some middle := by
  have first := isBoundary_append before (middle ++ after)
  have last := isBoundary_append (before ++ middle) after
  rw [List.append_assoc, byteLength_append] at last
  have bytes : ((encode (before ++ (middle ++ after))).take
      (byteLength before + byteLength middle)).drop (byteLength before) = encode middle := by
    simp [byteLength, List.take_append]
  rw [slice?, bytes, first, last]
  simp [decode?_eq_some_iff]

end LoxTokens.Utf8
