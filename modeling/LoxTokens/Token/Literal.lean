import LoxTokens.Binary64.Layout

/-! The value that a token carries, and what it feeds to a hasher. -/

namespace LoxTokens

/-- A value, or the lack of one; numbers are told apart by their bits. -/
inductive Literal
  | absent
  | number (value : Binary64)
  | string (contents : String)
  deriving DecidableEq, Repr

/-- What a hasher is fed with, write by write. -/
inductive Fed
  /-- The position of a case among all cases of its type. -/
  | position (index : Nat)
  | text (contents : String)
  | word (bits : UInt64)
  deriving DecidableEq, Hashable, Repr

namespace Literal

/-- A value feeds its case, and then what it holds. -/
def fed : Literal → List Fed
  | absent => [.position 0]
  | number value => [.position 1, .word value.bits]
  | string contents => [.position 2, .text contents]

/-- Numbers are positional from a thousandth up to ten million, and scientific beyond. -/
def numberLayout : Binary64.Layout := ⟨-3, 7, 'E'⟩

/-- A value written out: a number by its layout, a string as it is. -/
def text : Literal → String
  | absent => "null"
  | number value => numberLayout.text value
  | string contents => contents

/-- Whether there is no value. -/
def isAbsent : Literal → Bool
  | absent => true
  | _ => false

/-- The value of a numeral. -/
def ofNumeral (numeral : List Char) : Literal := .number (.ofDecimal (.ofNumeral numeral))

/-- The value of a string lexeme is what stands between its quotes. -/
def ofQuoted (lexeme : List Char) : Literal := .string (String.ofList (lexeme.drop 1).dropLast)

end Literal

end LoxTokens
