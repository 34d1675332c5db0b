import LoxTokens.Text.Utf8
import Mathlib.Data.List.Basic

/-! Decoding undoes encoding, and nothing else decodes. -/

namespace LoxTokens.Utf8

/-- The bytes that make up a character together with a lead. -/
structure Lead.Takes (lead : Lead) (tails : List UInt8) : Prop where
  length : tails.length = lead.length
  /-- The byte right after the lead has bounds of its own. -/
  second : ∀ byte more, tails = byte :: more → lead.low ≤ byte ∧ byte ≤ lead.high
  later : ∀ byte ∈ tails.tail, isTail byte

/-- A lead goes on with all the bytes it asks for, and with no others. -/
theorem follow_append {lead : Lead} {tails : List UInt8} (takes : lead.Takes tails)
    (rest : List UInt8) : lead.follow (tails ++ rest) = tails.length := by
  cases tails with
  | nil =>
    have none : lead.length = 0 := takes.length.symm
    cases rest <;> simp [Lead.follow, none]
  | cons byte more =>
    obtain ⟨low, high⟩ := takes.second byte more rfl
    have run : (more ++ rest).takeWhile isTail = more ++ rest.takeWhile isTail :=
      List.takeWhile_append_of_pos takes.later
    have length : lead.length = more.length + 1 := takes.length.symm
    simp [Lead.follow, low, high, run, length]

/-- A lead with the bytes it asks for is read as one character. -/
theorem starting_append {byte : UInt8} {lead : Lead} {tails : List UInt8}
    (found : Lead.ofByte? byte = some lead) (takes : lead.Takes tails) (rest : List UInt8) :
    starting byte (tails ++ rest) = (.char (lead.charWith tails), tails.length) := by
  simp [starting, found, follow_append takes, takes.length]

/-- A lead that asks for no bytes is content with none. -/
theorem takes_nil {lead : Lead} (none : lead.length = 0) : lead.Takes [] :=
  ⟨none.symm, by simp, by simp⟩

/-- A lead that finds as many bytes as it asks for finds the right ones. -/
theorem takes_of_follow {lead : Lead} {rest : List UInt8}
    (whole : lead.follow rest = lead.length) : lead.Takes (rest.take lead.length) := by
  cases rest with
  | nil => simpa using takes_nil whole.symm
  | cons byte more =>
    by_cases bounds : lead.low ≤ byte ∧ byte ≤ lead.high
    · simp only [Lead.follow, bounds, decide_true, Bool.and_self, if_true, List.length_take,
        List.length_cons] at whole
      cases length : lead.length with
      | zero => exact takes_nil length
      | succ count =>
        -- All that is taken after the second byte is part of the run of tails.
        have enough : count ≤ (more.takeWhile isTail).length := by omega
        have run : more.take count = (more.takeWhile isTail).take count := by
          rw [List.prefix_iff_eq_take.mp (List.takeWhile_prefix isTail), List.take_take,
            Nat.min_eq_left enough]
        refine ⟨?_, ?_, ?_⟩
        · rw [List.take_succ_cons, run, length, List.length_cons, List.length_take,
            Nat.min_eq_left enough]
        · intro second later same
          obtain rfl : byte = second := by simpa using congrArg List.head? same
          exact bounds
        · intro tail member
          rw [List.take_succ_cons, List.tail_cons, run] at member
          exact List.all_eq_true.mp List.all_takeWhile tail (List.mem_of_mem_take member)
    · have none : lead.length = 0 := by simpa [Lead.follow, bounds] using whole.symm
      rw [none]
      exact takes_nil none

/-- What is read as one character is a lead with the bytes it asks for. -/
theorem exists_lead_of_starting {byte : UInt8} {rest : List UInt8} {c : Char} {length : Nat}
    (read : starting byte rest = (.char c, length)) :
    ∃ lead, Lead.ofByte? byte = some lead ∧ lead.Takes (rest.take length) ∧
      lead.charWith (rest.take length) = c := by
  unfold starting at read
  split at read
  · cases read
  · rename_i lead found
    simp only at read
    split at read
    · rename_i whole
      obtain ⟨same, rfl⟩ : lead.charWith (rest.take (lead.follow rest)) = c ∧
        lead.follow rest = length := by simpa using read
      rw [whole] at same ⊢
      exact ⟨lead, found, takes_of_follow whole, same⟩
    · cases read

/-- The code point of a character that is built from one. -/
theorem val_toNat_ofNat {code : Nat} (valid : code.isValidChar) :
    (Char.ofNat code).val.toNat = code := by
  rw [Char.ofNat, dif_pos valid]
  rfl

/-- The lead of a character in three bytes. -/
def Lead.three (bits : Nat) : Lead :=
  -- The second byte must not make a shorter form, nor half of a surrogate pair.
  ⟨2, if bits = 0 then 0xA0 else 0x80, if bits = 0xD then 0x9F else 0xBF, bits⟩

/-- The lead of a character in four bytes. -/
def Lead.four (bits : Nat) : Lead :=
  -- The second byte must not make a shorter form, nor leave the last plane.
  ⟨3, if bits = 0 then 0x90 else 0x80, if bits = 4 then 0x8F else 0xBF, bits⟩

/-- Which bytes are leads, by the number of bytes that come with them. -/
inductive Lead.Opens : UInt8 → Lead → Prop
  | one {bits} : bits < 0x80 → Opens (.ofNat bits) ⟨0, 0x80, 0xBF, bits⟩
  | two {bits} : 2 ≤ bits → bits < 0x20 → Opens (.ofNat (0xC0 + bits)) ⟨1, 0x80, 0xBF, bits⟩
  | three {bits} : bits < 0x10 → Opens (.ofNat (0xE0 + bits)) (.three bits)
  | four {bits} : bits ≤ 4 → Opens (.ofNat (0xF0 + bits)) (.four bits)

/-- Each of these is a lead. -/
theorem ofByte?_of_opens {byte : UInt8} {lead : Lead} (opens : Lead.Opens byte lead) :
    Lead.ofByte? byte = some lead := by
  cases opens with
  | @one bits small =>
    have code : (UInt8.ofNat bits).toNat = bits := by
      rw [UInt8.toNat_ofNat']
      omega
    simp [Lead.ofByte?, code, small]
  | @two bits positive small =>
    have code : (UInt8.ofNat (0xC0 + bits)).toNat = 0xC0 + bits := by
      rw [UInt8.toNat_ofNat']
      omega
    simp only [Lead.ofByte?, code]
    rw [if_neg (by omega), if_neg (by omega), if_pos (by omega), Nat.add_sub_cancel_left]
  | @three bits small =>
    rcases bits with _ | _ | _ | _ | _ | _ | _ | _ | _ | _ | _ | _ | _ | _ | _ | _ | bits
    all_goals first | rfl | omega
  | @four bits small =>
    rcases bits with _ | _ | _ | _ | _ | bits
    all_goals first | rfl | omega

/-- There are no other leads. -/
theorem opens_of_ofByte? {byte : UInt8} {lead : Lead} (found : Lead.ofByte? byte = some lead) :
    Lead.Opens byte lead := by
  have only {other : Lead} (opens : Lead.Opens byte other) : Lead.Opens byte lead := by
    obtain rfl : other = lead := by simpa [ofByte?_of_opens opens] using found
    exact opens
  have above {base : Nat} (enough : base ≤ byte.toNat) :
      UInt8.ofNat (base + (byte.toNat - base)) = byte := by
    rw [Nat.add_sub_of_le enough, UInt8.ofNat_toNat]
  -- The ranges of leads come one after the other, with two gaps that hold no lead.
  by_cases single : byte.toNat < 0x80
  · have opens := Lead.Opens.one single
    rw [UInt8.ofNat_toNat] at opens
    exact only opens
  by_cases gap : byte.toNat < 0xC2
  · simp [Lead.ofByte?, single, gap] at found
  by_cases double : byte.toNat < 0xE0
  · have opens : Lead.Opens (.ofNat (0xC0 + (byte.toNat - 0xC0))) _ := .two (by omega) (by omega)
    rw [above (by omega)] at opens
    exact only opens
  by_cases triple : byte.toNat < 0xF0
  · have opens : Lead.Opens (.ofNat (0xE0 + (byte.toNat - 0xE0))) _ := .three (by omega)
    rw [above (by omega)] at opens
    exact only opens
  by_cases quadruple : byte.toNat < 0xF5
  · have opens : Lead.Opens (.ofNat (0xF0 + (byte.toNat - 0xF0))) _ := .four (by omega)
    rw [above (by omega)] at opens
    exact only opens
  · simp only [Lead.ofByte?] at found
    rw [if_neg single, if_neg gap, if_neg double, if_neg (by omega), if_neg (by omega),
      if_neg triple, if_neg (by omega), if_neg (by omega), if_neg (by omega)] at found
    cases found

/-- The bounds on the byte right after a lead of three bytes. -/
theorem bounds_three {bits : Nat} {byte : UInt8}
    (within : (Lead.three bits).low ≤ byte ∧ byte ≤ (Lead.three bits).high) :
    0x80 ≤ byte.toNat ∧ byte.toNat ≤ 0xBF ∧ (bits = 0 → 0xA0 ≤ byte.toNat) ∧
      (bits = 0xD → byte.toNat ≤ 0x9F) := by
  obtain ⟨low, high⟩ := within
  simp only [Lead.three, UInt8.le_iff_toNat_le] at low high
  split at low <;> split at high <;> simp only [UInt8.reduceToNat] at low high <;> omega

/-- The bounds on the byte right after a lead of four bytes. -/
theorem bounds_four {bits : Nat} {byte : UInt8}
    (within : (Lead.four bits).low ≤ byte ∧ byte ≤ (Lead.four bits).high) :
    0x80 ≤ byte.toNat ∧ byte.toNat ≤ 0xBF ∧ (bits = 0 → 0x90 ≤ byte.toNat) ∧
      (bits = 4 → byte.toNat ≤ 0x8F) := by
  obtain ⟨low, high⟩ := within
  simp only [Lead.four, UInt8.le_iff_toNat_le] at low high
  split at low <;> split at high <;> simp only [UInt8.reduceToNat] at low high <;> omega

/-- The bounds on the bytes after the second one. -/
theorem bounds_tail {byte : UInt8} (tail : isTail byte) :
    0x80 ≤ byte.toNat ∧ byte.toNat ≤ 0xBF := by
  simpa [isTail, UInt8.le_iff_toNat_le] using tail

/-- The character of a lead and its bytes is encoded as just these. -/
theorem utf8EncodeChar_charWith {byte : UInt8} {lead : Lead} {tails : List UInt8}
    (opens : Lead.Opens byte lead) (takes : lead.Takes tails) :
    String.utf8EncodeChar (lead.charWith tails) = byte :: tails := by
  -- The bounds on the second byte keep the code point valid, and in the range of its length.
  have same {code : Nat} {byte : UInt8} (value : code % 256 = byte.toNat) :
      UInt8.ofNat code = byte := UInt8.toNat_inj.mp (by simpa using value)
  cases opens with
  | @one bits small =>
    obtain rfl := List.eq_nil_of_length_eq_zero takes.length
    have valid : bits.isValidChar := .inl (by omega)
    simp only [String.utf8EncodeChar, Lead.charWith, List.foldl_nil, val_toNat_ofNat valid]
    rw [if_pos (by omega)]
  | @two bits positive small =>
    obtain ⟨second, rfl⟩ := List.length_eq_one_iff.mp takes.length
    obtain ⟨low, high⟩ := takes.second second [] rfl
    simp only [UInt8.le_iff_toNat_le, UInt8.reduceToNat] at low high
    have valid : (bits * 64 + (second.toNat - 0x80)).isValidChar := .inl (by omega)
    simp only [String.utf8EncodeChar, Lead.charWith, List.foldl_cons, List.foldl_nil,
      val_toNat_ofNat valid]
    rw [if_neg (by omega), if_pos (by omega)]
    simp only [List.cons.injEq, and_true]
    exact ⟨congrArg UInt8.ofNat (by omega), same (by omega)⟩
  | @three bits small =>
    obtain ⟨second, third, rfl⟩ := List.length_eq_two.mp takes.length
    obtain ⟨low, high, notShorter, notHalf⟩ := bounds_three (takes.second second [third] rfl)
    obtain ⟨_, _⟩ := bounds_tail (takes.later third (by simp))
    have valid : ((bits * 64 + (second.toNat - 0x80)) * 64 +
        (third.toNat - 0x80)).isValidChar := by
      unfold Nat.isValidChar
      omega
    simp only [String.utf8EncodeChar, Lead.charWith, Lead.three, List.foldl_cons, List.foldl_nil,
      val_toNat_ofNat valid]
    rw [if_neg (by omega), if_neg (by omega), if_pos (by omega)]
    simp only [List.cons.injEq, and_true]
    exact ⟨congrArg UInt8.ofNat (by omega), same (by omega), same (by omega)⟩
  | @four bits small =>
    obtain ⟨second, third, fourth, rfl⟩ := List.length_eq_three.mp takes.length
    obtain ⟨low, high, notShorter, notBeyond⟩ :=
      bounds_four (takes.second second [third, fourth] rfl)
    obtain ⟨_, _⟩ := bounds_tail (takes.later third (by simp))
    obtain ⟨_, _⟩ := bounds_tail (takes.later fourth (by simp))
    have valid : (((bits * 64 + (second.toNat - 0x80)) * 64 + (third.toNat - 0x80)) * 64 +
        (fourth.toNat - 0x80)).isValidChar := by
      unfold Nat.isValidChar
      omega
    simp only [String.utf8EncodeChar, Lead.charWith, Lead.four, List.foldl_cons, List.foldl_nil,
      val_toNat_ofNat valid]
    rw [if_neg (by omega), if_neg (by omega), if_neg (by omega)]
    simp only [List.cons.injEq, and_true]
    exact ⟨congrArg UInt8.ofNat (by omega), same (by omega), same (by omega), same (by omega)⟩

/-- A byte after the first one that carries six bits. -/
def tailWith (bits : Nat) : UInt8 := .ofNat (0x80 + bits % 64)

/-- What such a byte carries. -/
theorem toNat_tailWith (bits : Nat) : (tailWith bits).toNat = 0x80 + bits % 64 := by
  rw [tailWith, UInt8.toNat_ofNat']
  omega

/-- Such a byte can stand after the second one. -/
theorem isTail_tailWith (bits : Nat) : isTail (tailWith bits) := by
  simp only [isTail, UInt8.le_iff_toNat_le, toNat_tailWith, UInt8.reduceToNat]
  have small := Nat.mod_lt bits (show 0 < 64 by decide)
  simp
  omega

/-- Every character is that of a lead and the bytes that the lead asks for. -/
theorem exists_lead_of_char (c : Char) : ∃ byte lead tails, Lead.Opens byte lead ∧
    lead.Takes tails ∧ lead.charWith tails = c := by
  -- How many bytes it takes depends on the code point alone.
  let code := c.toNat
  have bound : code < 0xD800 ∨ 0xDFFF < code ∧ code < 0x110000 := c.valid
  have rebuilt {other : Nat} (same : other = code) : Char.ofNat other = c := by
    rw [same, Char.ofNat_toNat]
  by_cases one : code < 0x80
  · exact ⟨_, _, [], .one one, takes_nil rfl, rebuilt rfl⟩
  by_cases two : code < 0x800
  · have opens : Lead.Opens _ ⟨1, 0x80, 0xBF, code / 64⟩ := .two (by omega) (by omega)
    refine ⟨_, _, [tailWith code], opens, ⟨rfl, ?_, by simp⟩, rebuilt ?_⟩
    · rintro second more ⟨rfl, rfl⟩
      simp only [UInt8.le_iff_toNat_le, toNat_tailWith, UInt8.reduceToNat]
      omega
    · simp only [List.foldl_cons, List.foldl_nil, toNat_tailWith]
      omega
  by_cases three : code < 0x10000
  · have opens : Lead.Opens _ (.three (code / 4096)) := .three (by omega)
    refine ⟨_, _, [tailWith (code / 64), tailWith code], opens,
      ⟨rfl, ?_, by simp [isTail_tailWith]⟩, rebuilt ?_⟩
    · rintro second more ⟨rfl, rfl⟩
      simp only [Lead.three, UInt8.le_iff_toNat_le, toNat_tailWith]
      split <;> split <;> simp only [UInt8.reduceToNat] <;> omega
    · simp only [Lead.three, List.foldl_cons, List.foldl_nil, toNat_tailWith]
      omega
  · have opens : Lead.Opens _ (.four (code / 262144)) := .four (by omega)
    refine ⟨_, _, [tailWith (code / 4096), tailWith (code / 64), tailWith code], opens,
      ⟨rfl, ?_, by simp [isTail_tailWith]⟩, rebuilt ?_⟩
    · rintro second more ⟨rfl, rfl⟩
      simp only [Lead.four, UInt8.le_iff_toNat_le, toNat_tailWith]
      split <;> split <;> simp only [UInt8.reduceToNat] <;> omega
    · simp only [Lead.four, List.foldl_cons, List.foldl_nil, toNat_tailWith]
      omega

/-- The bytes of a text are those of its first character, and then the others. -/
theorem encode_cons (c : Char) (text : List Char) :
    encode (c :: text) = String.utf8EncodeChar c ++ encode text := rfl

/-- The bytes of two texts in a row are those of the one, and then those of the other. -/
@[simp] theorem encode_append (left right : List Char) :
    encode (left ++ right) = encode left ++ encode right :=
  List.flatMap_append

/-- Texts one after the other are encoded as one text. -/
theorem flatten_map_encode (texts : List (List Char)) :
    (texts.map encode).flatten = encode texts.flatten := by
  induction texts with
  | nil => rfl
  | cons text later ih =>
    rw [List.map_cons, List.flatten_cons, List.flatten_cons, encode_append, ih]

/-- Only the empty text has no bytes. -/
theorem isEmpty_encode (text : List Char) : (encode text).isEmpty = text.isEmpty := by
  cases text with
  | nil => rfl
  | cons c text =>
    obtain ⟨byte, lead, tails, opens, takes, rfl⟩ := exists_lead_of_char c
    rw [encode_cons, utf8EncodeChar_charWith opens takes]
    rfl

/-- Only a newline is encoded with the byte of a newline in it. -/
theorem eq_newline_of_mem {c : Char} (member : 0x0A ∈ String.utf8EncodeChar c) : c = '\n' := by
  -- Every byte of a longer character is greater.
  simp only [String.utf8EncodeChar] at member
  split at member
  · have code : c.val.toNat = 0x0A := by
      simp only [List.mem_singleton, ← UInt8.toNat_inj, UInt8.toNat_ofNat', UInt8.reduceToNat]
        at member
      omega
    exact Char.ext (UInt32.toNat_inj.mp code)
  · exfalso
    split at member
    · simp only [List.mem_cons, List.not_mem_nil, or_false, ← UInt8.toNat_inj, UInt8.toNat_ofNat',
        UInt8.reduceToNat] at member
      omega
    · split at member <;>
        · simp only [List.mem_cons, List.not_mem_nil, or_false, ← UInt8.toNat_inj,
            UInt8.toNat_ofNat', UInt8.reduceToNat] at member
          omega

/-- The bytes of a text have the byte of a newline exactly when the text has a newline. -/
theorem newline_mem_encode {text : List Char} : 0x0A ∈ encode text ↔ '\n' ∈ text := by
  rw [encode, List.mem_flatMap]
  constructor
  · rintro ⟨c, inside, member⟩
    rwa [← eq_newline_of_mem member]
  · intro inside
    exact ⟨'\n', inside, by decide⟩

/-- The bytes of a text are read as its characters. -/
theorem stretches_encode (text : List Char) : stretches (encode text) = text.map .char := by
  -- The first character is read off the front, and its lead says where the next one starts.
  induction text with
  | nil => simp [encode, stretches]
  | cons c text ih =>
    obtain ⟨byte, lead, tails, opens, takes, rfl⟩ := exists_lead_of_char c
    have start := starting_append (ofByte?_of_opens opens) takes (encode text)
    simp only [encode_cons, utf8EncodeChar_charWith opens takes, List.cons_append, stretches, start,
      List.drop_left, ih, List.map_cons]

/-- Bytes that are read as characters only are those of these characters. -/
theorem encode_of_stretches {bytes : List UInt8} {text : List Char}
    (read : stretches bytes = text.map .char) : encode text = bytes := by
  -- Every character that is read is encoded as the bytes it was read from.
  induction text generalizing bytes with
  | nil =>
    cases bytes with
    | nil => rfl
    | cons byte rest => simp [stretches] at read
  | cons c text ih =>
    cases bytes with
    | nil => simp [stretches] at read
    | cons byte rest =>
      rcases start : starting byte rest with ⟨stretch, length⟩
      simp only [stretches, start, List.map_cons, List.cons.injEq] at read
      obtain ⟨rfl, later⟩ := read
      obtain ⟨lead, found, takes, rfl⟩ := exists_lead_of_starting start
      rw [encode_cons, utf8EncodeChar_charWith (opens_of_ofByte? found) takes, ih later,
        List.cons_append, List.take_append_drop]

/-- Bytes are decoded to the text whose characters they are read as. -/
theorem decode?_eq_some_iff_stretches {bytes : List UInt8} {text : List Char} :
    decode? bytes = some text ↔ stretches bytes = text.map .char := by
  unfold decode?
  generalize stretches bytes = all
  induction all generalizing text with
  | nil => cases text <;> simp
  | cons stretch later ih =>
    cases stretch with
    | broken bytes => cases text <;> simp
    | char c => cases text <;> simp [Option.bind_eq_some_iff, ih, and_comm]

/-- Exactly the bytes of a text are decoded to it. -/
theorem decode?_eq_some_iff {bytes : List UInt8} {text : List Char} :
    decode? bytes = some text ↔ encode text = bytes := by
  rw [decode?_eq_some_iff_stretches]
  constructor
  · exact encode_of_stretches
  · rintro rfl
    exact stretches_encode text

/-- Bytes that cannot be decoded are those of no text. -/
theorem ne_encode_of_decode? {bytes : List UInt8} (none : decode? bytes = none) (text : List Char) :
    bytes ≠ encode text := by
  intro same
  rw [decode?_eq_some_iff.mpr same.symm] at none
  contradiction

/-- Text is decoded to itself, as if nothing could be broken. -/
theorem decodeLossy_encode (text : List Char) : decodeLossy (encode text) = text := by
  rw [decodeLossy, stretches_encode, List.map_map]
  exact List.map_id text

end LoxTokens.Utf8
