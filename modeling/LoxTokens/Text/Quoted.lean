import LoxTokens.Text.Utf8
import LoxTokens.Unicode.BreakRanges
import LoxTokens.Unicode.UnprintableRanges

/-! Quoted text: bytes between quotes, with an escape for whatever would not show as itself. -/

namespace LoxTokens.Quoted

/-- Emoji modifiers and halfwidth sound marks extend what they follow, and yet show alone. -/
def isStandaloneMark (code : Nat) : Bool :=
  (0x1F3FB ≤ code && code ≤ 0x1F3FF) || code = 0xFF9E || code = 0xFF9F

/-- Whether a character shows as itself and alone. -/
def isVisible (c : Char) : Bool :=
  let code := c.toNat
  if code < 0x80 then 0x20 ≤ code && code < 0x7F
  else !Unicode.unprintableRanges.has code &&
    -- Any other mark would show on the character before it.
    (!Unicode.extendRanges.has code || isStandaloneMark code)

/-- A character between quotes: short escapes first, then the code point in lower-case digits. -/
def escapeChar (c : Char) : List Char :=
  match c with
  | '\x00' => ['\\', '0']
  | '\t' => ['\\', 't']
  | '\n' => ['\\', 'n']
  | '\r' => ['\\', 'r']
  | '"' => ['\\', '"']
  | '\\' => ['\\', '\\']
  | c => if isVisible c then [c] else '\\' :: 'u' :: '{' :: Nat.toDigits 16 c.toNat ++ ['}']

/-- A byte between quotes: two upper-case digits. -/
def escapeByte (byte : UInt8) : List Char :=
  let digits := (Nat.toDigits 16 byte.toNat).map Char.toUpper
  '\\' :: 'x' :: List.replicate (2 - digits.length) '0' ++ digits

/-- Bytes as quoted text; what is not UTF-8 is shown byte by byte. -/
def ofBytes (bytes : List UInt8) : List Char :=
  '"' :: (Utf8.stretches bytes).flatMap (fun
    | .char c => escapeChar c
    | .broken bytes => bytes.flatMap escapeByte) ++ ['"']

/-- A list of quoted texts, in brackets and separated by commas. -/
def ofList (items : List (List UInt8)) : List Char :=
  '[' :: ((items.map ofBytes).intersperse [',', ' ']).flatten ++ [']']

end LoxTokens.Quoted
