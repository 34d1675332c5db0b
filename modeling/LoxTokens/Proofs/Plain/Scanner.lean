import LoxTokens.Scan

/-! The lexical rules read one character at a time, with no graphemes and no pieces. -/

namespace LoxTokens.Plain

/-- The operators and the punctuation, with each operator of two characters before its first. -/
def symbols : List (List Char × Kind) :=
  [(['!', '='], .bangEqual), (['=', '='], .equalEqual), (['<', '='], .lessEqual),
    (['>', '='], .greaterEqual), (['!'], .bang), (['='], .equal), (['<'], .less),
    (['>'], .greater), (['('], .leftParen), ([')'], .rightParen), (['{'], .leftBrace),
    (['}'], .rightBrace), ([','], .comma), (['.'], .dot), (['-'], .minus), (['+'], .plus),
    ([';'], .semicolon), (['/'], .slash), (['*'], .star)]

/-- The symbol at the front of a text, the longest one that fits. -/
def symbol? (text : List Char) : Option (List Char × Kind) :=
  symbols.find? (·.1.isPrefixOf text)

/-- The digits at the front of a text, and the fraction that follows them if there is one. -/
def numeral (text : List Char) : List Char :=
  let whole := text.takeWhile Char.isDigit
  match text.dropWhile Char.isDigit with
  | '.' :: fraction =>
    -- A point without a digit after it is not part of the number.
    if fraction.head?.any Char.isDigit then whole ++ '.' :: fraction.takeWhile Char.isDigit
    else whole
  | _ => whole

/-- Whether a character can start a name or a reserved word. -/
def isLetter (c : Char) : Bool := c.isAlpha || c = '_'

/-- Whether a character can go on in a name or a reserved word. -/
def isWordCharacter (c : Char) : Bool := c.isAlphanum || c = '_'

/-- What can start a word can go on in one, too. -/
theorem isWordCharacter_of_isLetter {c : Char} (letter : isLetter c = true) :
    isWordCharacter c = true := by
  simp only [isLetter, isWordCharacter, Char.isAlphanum, Bool.or_eq_true] at letter ⊢
  rcases letter with alphabetic | underscore
  · exact .inl (.inl alphabetic)
  · exact .inr underscore

/-- Tokens and diagnostics of a text whose first character is on a given line. -/
def scan (line : Nat) : List Char → Scan
  | [] => ⟨[.endOfInput line], []⟩
  | c :: rest =>
    if c = '\n' then scan (line + 1) rest
    else if c = ' ' ∨ c = '\t' ∨ c = '\r' then scan line rest
    else if c = '/' ∧ rest.head? = some '/' then scan line (rest.dropWhile (· != '\n'))
    else if c = '"' then
      let contents := rest.takeWhile (· != '"')
      let last := line + contents.count '\n'
      match rest.drop contents.length with
      | [] => ⟨[.endOfInput last], [⟨last, .unterminatedString⟩]⟩
      | _ :: _ =>
        let lexeme := '"' :: contents ++ ['"']
        (scan last (rest.drop (contents.length + 1))).addToken
          ⟨.string, String.ofList lexeme, .string (String.ofList contents), line⟩
    else if c.isDigit then
      let lexeme := numeral (c :: rest)
      (scan line (rest.drop (lexeme.length - 1))).addToken
        ⟨.number, String.ofList lexeme, .number (.ofDecimal (.ofNumeral lexeme)), line⟩
    else if isLetter c then
      let lexeme := c :: rest.takeWhile isWordCharacter
      (scan line (rest.dropWhile isWordCharacter)).addToken
        ⟨.ofWord (String.ofList lexeme), String.ofList lexeme, .absent, line⟩
    else
      match symbol? (c :: rest) with
      | some (lexeme, kind) =>
        (scan line (rest.drop (lexeme.length - 1))).addToken
          ⟨kind, String.ofList lexeme, .absent, line⟩
      | none => (scan line rest).addDiagnostic line (.unexpectedCharacter (String.singleton c))
termination_by text => text.length
decreasing_by
  all_goals simp only [List.length_drop, List.length_cons]
  all_goals first | omega | exact Nat.lt_succ_of_le (List.dropWhile_suffix _).length_le

/-- The tokens and diagnostics of a source text, read one character at a time. -/
def tokenize (source : String) : Scan := scan 1 source.toList

end LoxTokens.Plain
