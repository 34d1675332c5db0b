/-! UTF-8: characters as bytes, and bytes as characters with the stretches that are none. -/

namespace LoxTokens.Utf8

/-- The bytes of a text. -/
def encode (text : List Char) : List UInt8 := text.flatMap String.utf8EncodeChar

/-- What the first byte of a character says about the bytes after it. -/
structure Lead where
  /-- How many bytes follow. -/
  length : Nat
  /-- The least value of the byte right after the first one. -/
  low : UInt8
  /-- The greatest value of the byte right after the first one. -/
  high : UInt8
  /-- What the first byte contributes to the code point. -/
  bits : Nat

/-- The lead that a byte is, unless no character starts with it. -/
def Lead.ofByte? (byte : UInt8) : Option Lead :=
  let code := byte.toNat
  if code < 0x80 then some ⟨0, 0x80, 0xBF, code⟩
  else if code < 0xC2 then none
  else if code < 0xE0 then some ⟨1, 0x80, 0xBF, code - 0xC0⟩
  -- The bounds on the second byte keep out longer forms of short characters and surrogates.
  else if code = 0xE0 then some ⟨2, 0xA0, 0xBF, 0⟩
  else if code = 0xED then some ⟨2, 0x80, 0x9F, 0xD⟩
  else if code < 0xF0 then some ⟨2, 0x80, 0xBF, code - 0xE0⟩
  else if code = 0xF0 then some ⟨3, 0x90, 0xBF, 0⟩
  else if code < 0xF4 then some ⟨3, 0x80, 0xBF, code - 0xF0⟩
  -- Nor does any character lie beyond the last plane.
  else if code = 0xF4 then some ⟨3, 0x80, 0x8F, 4⟩
  else none

/-- Whether a byte can stand inside a character after its second byte. -/
def isTail (byte : UInt8) : Bool := 0x80 ≤ byte && byte ≤ 0xBF

/-- How many of the following bytes go on with a character, up to all that its lead asks for. -/
def Lead.follow (lead : Lead) : List UInt8 → Nat
  | [] => 0
  | second :: rest =>
    if lead.low ≤ second && second ≤ lead.high then
      ((second :: (rest.takeWhile isTail)).take lead.length).length
    else 0

/-- The character that a lead and the bytes after it make. -/
def Lead.charWith (lead : Lead) (tails : List UInt8) : Char :=
  Char.ofNat (tails.foldl (fun code tail => code * 64 + (tail.toNat - 0x80)) lead.bits)

/-- A stretch of bytes: one character, or the start of a character that does not go on. -/
inductive Stretch
  | char (c : Char)
  | broken (bytes : List UInt8)
  deriving DecidableEq, Repr

/-- The stretch that starts with a byte, and how many of the bytes after it belong to it. -/
def starting (byte : UInt8) (rest : List UInt8) : Stretch × Nat :=
  match Lead.ofByte? byte with
  | none => (.broken [byte], 0)
  | some lead =>
    let length := lead.follow rest
    let tails := rest.take length
    if length = lead.length then (.char (lead.charWith tails), length)
    else (.broken (byte :: tails), length)

/-- The stretches of a sequence of bytes, in order. -/
def stretches : List UInt8 → List Stretch
  | [] => []
  | byte :: rest =>
    let (stretch, length) := starting byte rest
    stretch :: stretches (rest.drop length)
termination_by bytes => bytes.length
decreasing_by simp only [List.length_drop, List.length_cons]; omega

/-- The text of bytes that are all characters. -/
def decode? (bytes : List UInt8) : Option (List Char) :=
  (stretches bytes).mapM fun
    | .char c => some c
    | .broken _ => none

/-- The text of any bytes, with one replacement character for each broken stretch. -/
def decodeLossy (bytes : List UInt8) : List Char :=
  (stretches bytes).map fun
    | .char c => c
    | .broken _ => '\uFFFD'

end LoxTokens.Utf8
