import LoxTokens.Unicode.BreakRanges
import LoxTokens.Unicode.ConjunctRanges
import LoxTokens.Unicode.PictographRanges

/-! What a character contributes to the boundaries between user-perceived characters. -/

namespace LoxTokens.Unicode

/-- How a character behaves where two characters meet. -/
inductive BreakClass
  | carriageReturn
  | lineFeed
  | control
  | extend
  | joiner
  | spacingMark
  | prepend
  | regional
  | hangulLead
  | hangulVowel
  | hangulTail
  | hangulOpen
  | hangulClosed
  | other
  deriving DecidableEq, Repr

/-- The class of an ASCII character: the two line ends, the other controls, and the rest. -/
def BreakClass.ofAscii (c : Char) : BreakClass :=
  if c = '\r' then .carriageReturn
  else if c = '\n' then .lineFeed
  else if c.toNat < 0x20 ∨ c.toNat = 0x7F then .control
  else .other

/-- The class of a character beyond ASCII. -/
def BreakClass.ofCode (code : Nat) : BreakClass :=
  if code = 0x200D then .joiner
  else if 0x1F1E6 ≤ code ∧ code ≤ 0x1F1FF then .regional
  else if 0xAC00 ≤ code ∧ code ≤ 0xD7A3 then
    -- Syllables come in runs of 28 with one vowel, of which the first has no final consonant.
    if (code - 0xAC00) % 28 = 0 then .hangulOpen else .hangulClosed
  else if extendRanges.has code then .extend
  else if spacingMarkRanges.has code then .spacingMark
  else if controlRanges.has code then .control
  else if prependRanges.has code then .prepend
  else if hangulLeadRanges.has code then .hangulLead
  else if hangulVowelRanges.has code then .hangulVowel
  else if hangulTailRanges.has code then .hangulTail
  else .other

/-- The class of any character. -/
def BreakClass.ofChar (c : Char) : BreakClass :=
  if c.toNat < 0x80 then .ofAscii c else .ofCode c.toNat

/-- Whether a character can be joined into an emoji. -/
def isPictograph (c : Char) : Bool := pictographRanges.has c.toNat

/-- Whether a character is a consonant that takes part in conjuncts. -/
def isConsonant (c : Char) : Bool := consonantRanges.has c.toNat

/-- Whether a character links the consonants around it. -/
def isLinker (c : Char) : Bool := linkerRanges.has c.toNat

/-- Whether a character may stand between the consonants of a conjunct. -/
def isConjunctMark (c : Char) : Bool :=
  -- The non-joiner extends a cluster and yet keeps its neighbours from forming a conjunct.
  c.toNat ≠ 0x200C && match BreakClass.ofChar c with
    | .extend | .joiner => true
    | _ => false

end LoxTokens.Unicode
