import LoxTokens.Proofs.Piece.Characters
import LoxTokens.Proofs.Piece.Divide
import LoxTokens.Proofs.Plain.Scanner

/-! The grammar of lexemes: how each kind of token is written, and what its first character tells. -/

namespace LoxTokens

/-- Digits, and at least one of them. -/
def IsDigits (text : List Char) : Prop := text ≠ [] ∧ ∀ c ∈ text, c.isDigit = true

/-- A numeral and the number it writes: digits, or digits on both sides of a point. -/
inductive Numeral : List Char → Decimal → Prop
  | whole {digits} : IsDigits digits → Numeral digits (.ofDigits digits [])
  | decimal {digits fraction} : IsDigits digits → IsDigits fraction →
      Numeral (digits ++ '.' :: fraction) (.ofDigits digits fraction)

/-- A letter or an underscore, and after it letters, digits and underscores. -/
def IsWord (text : List Char) : Prop :=
  ∃ first more, text = first :: more ∧ Plain.isLetter first = true ∧
    ∀ c ∈ more, Plain.isWordCharacter c = true

/-- How the lexemes of each kind are written. -/
inductive Lexeme : Kind → List Char → Prop
  | symbol {text kind} : (text, kind) ∈ Plain.symbols → Lexeme kind text
  | numeral {text value} : Numeral text value → Lexeme .number text
  -- Anything at all may stand between the quotes.
  | quoted (contents) : Lexeme .string ('"' :: (contents ++ ['"']))
  | word {text} : IsWord text → Lexeme (.ofWord (String.ofList text)) text

/-- Digits start with one. -/
theorem IsDigits.exists_cons {text : List Char} (digits : IsDigits text) :
    ∃ c rest, text = c :: rest ∧ c.isDigit = true := by
  obtain ⟨present, all⟩ := digits
  obtain ⟨c, rest, rfl⟩ := List.exists_cons_of_ne_nil present
  exact ⟨c, rest, rfl, all c (by simp)⟩

/-- A numeral starts with a digit. -/
theorem Numeral.exists_cons {text : List Char} {value : Decimal} (numeral : Numeral text value) :
    ∃ c rest, text = c :: rest ∧ c.isDigit = true := by
  cases numeral with
  | whole digits => exact digits.exists_cons
  | decimal digits _ =>
    obtain ⟨c, rest, rfl, digit⟩ := digits.exists_cons
    exact ⟨c, _, rfl, digit⟩

/-- Digits stop at a point. -/
theorem stopsAt_point (text : List Char) : Piece.StopsAt Char.isDigit ('.' :: text) := by
  simp [Piece.StopsAt]

/-- Reading a numeral gives the number it writes. -/
theorem Numeral.ofNumeral_eq {text : List Char} {value : Decimal} (numeral : Numeral text value) :
    Decimal.ofNumeral text = value := by
  -- The first run of digits ends at the point, or where the text does.
  cases numeral with
  | whole digits =>
    have stops : Piece.StopsAt Char.isDigit [] := by simp [Piece.StopsAt]
    have taken := Piece.takeWhile_append_of_stopsAt digits.2 stops
    have dropped := Piece.dropWhile_append_of_stopsAt digits.2 stops
    rw [List.append_nil] at taken dropped
    rw [Decimal.ofNumeral, taken, dropped]
    rfl
  | @decimal _ fraction digits _ =>
    have stops := stopsAt_point fraction
    rw [Decimal.ofNumeral, Piece.takeWhile_append_of_stopsAt digits.2 stops,
      Piece.dropWhile_append_of_stopsAt digits.2 stops]
    rfl

/-- No symbol starts as a number, a word or a string does. -/
theorem exists_cons_of_mem_symbols {text : List Char} {kind : Kind}
    (listed : (text, kind) ∈ Plain.symbols) : ∃ c rest, text = c :: rest ∧
      c.isDigit = false ∧ Plain.isLetter c = false ∧ c ≠ '"' := by
  have heads : ∀ entry ∈ Plain.symbols, entry.1.head?.any
      (fun c => !c.isDigit && !Plain.isLetter c && c != '"') = true := by decide
  have head := heads _ listed
  cases text with
  | nil => contradiction
  | cons c rest => exact ⟨c, rest, rfl, by simpa [and_assoc] using head⟩

/-- A lexeme that starts with a digit is a numeral. -/
theorem Lexeme.of_digit {kind : Kind} {c : Char} {rest : List Char}
    (lexeme : Lexeme kind (c :: rest)) (digit : c.isDigit = true) :
    kind = .number ∧ ∃ value, Numeral (c :: rest) value := by
  cases lexeme with
  | symbol listed =>
    obtain ⟨_, _, ⟨rfl, _⟩, notDigit, _⟩ := exists_cons_of_mem_symbols listed
    simp [digit] at notDigit
  | numeral numeral => exact ⟨rfl, _, numeral⟩
  | quoted => contradiction
  | word word =>
    obtain ⟨_, _, ⟨rfl, _⟩, letter, _⟩ := word
    simp [Piece.isDigit_of_startsWord letter] at digit

/-- A lexeme that starts with a letter is a word. -/
theorem Lexeme.of_letter {kind : Kind} {c : Char} {rest : List Char}
    (lexeme : Lexeme kind (c :: rest)) (letter : Plain.isLetter c = true) :
    kind = .ofWord (String.ofList (c :: rest)) ∧ IsWord (c :: rest) := by
  cases lexeme with
  | symbol listed =>
    obtain ⟨_, _, ⟨rfl, _⟩, _, notLetter, _⟩ := exists_cons_of_mem_symbols listed
    simp [letter] at notLetter
  | numeral numeral =>
    obtain ⟨_, _, ⟨rfl, _⟩, digit⟩ := numeral.exists_cons
    simp [Piece.isDigit_of_startsWord letter] at digit
  | quoted => contradiction
  | word word => exact ⟨rfl, word⟩

/-- A lexeme that starts neither as a number, nor as a word, nor with a quote is a symbol. -/
theorem Lexeme.of_other {kind : Kind} {c : Char} {rest : List Char}
    (lexeme : Lexeme kind (c :: rest)) (notDigit : c.isDigit = false)
    (notLetter : Plain.isLetter c = false) (notQuote : c ≠ '"') :
    (c :: rest, kind) ∈ Plain.symbols := by
  cases lexeme with
  | symbol listed => exact listed
  | numeral numeral =>
    obtain ⟨_, _, ⟨rfl, _⟩, digit⟩ := numeral.exists_cons
    simp [notDigit] at digit
  | quoted => contradiction
  | word word =>
    obtain ⟨_, _, ⟨rfl, _⟩, letter, _⟩ := word
    simp [notLetter] at letter

namespace Piece

/-- Punctuation is among the symbols. -/
theorem mem_symbols_of_punctuation :
    ∀ entry ∈ punctuation, ([entry.1], entry.2) ∈ Plain.symbols := by decide

/-- So are the operators, both alone and with an equals sign. -/
theorem mem_symbols_of_operators : ∀ entry ∈ operators,
    ([entry.1], entry.2.1) ∈ Plain.symbols ∧ ([entry.1, '='], entry.2.2) ∈ Plain.symbols := by
  decide

/-- Graphemes that are digits are digits when they are put together. -/
theorem isDigit_of_mem_flatten {digits : List Grapheme}
    (all : ∀ grapheme ∈ digits, isDigit grapheme = true) :
    ∀ c ∈ digits.flatten, c.isDigit = true :=
  all_flatten (fun _ => eq_singleton_of_isDigit) all

/-- What a rule cuts off as a token is a lexeme of its kind. -/
theorem lexeme_of_cuts {kind : Kind} {taken later : List Grapheme}
    (cut : Cuts (.token kind) taken later) : Lexeme kind taken.flatten := by
  -- Numbers and words are read grapheme by grapheme, each of which is a single character.
  cases cut with
  | @string body _ _ =>
    show Lexeme .string (['"'] ++ (body ++ [['"']]).flatten)
    simpa using Lexeme.quoted body.flatten
  | @whole c digits _ digit all _ _ =>
    have isDigits : IsDigits (c :: digits.flatten) :=
      ⟨by simp, List.forall_mem_cons.mpr ⟨digit, isDigit_of_mem_flatten all⟩⟩
    exact .numeral (.whole isDigits)
  | @decimal c digits fraction _ digit all present rest _ =>
    have isDigits : IsDigits (c :: digits.flatten) :=
      ⟨by simp, List.forall_mem_cons.mpr ⟨digit, isDigit_of_mem_flatten all⟩⟩
    have isFraction : IsDigits fraction.flatten := by
      refine ⟨?_, isDigit_of_mem_flatten rest⟩
      intro empty
      obtain ⟨first, more, rfl⟩ := List.exists_cons_of_ne_nil present
      have nothing := List.flatten_eq_nil_iff.mp empty first (by simp)
      obtain ⟨d, rfl, _⟩ := eq_singleton_of_isDigit (rest first (by simp))
      contradiction
    simpa using Lexeme.numeral (.decimal isDigits isFraction)
  | @word c more _ letter all _ =>
    exact .word ⟨c, more.flatten, rfl, letter, all_flatten (fun _ => eq_singleton_of_isWordPart) all⟩
  | slash => exact .symbol (by decide)
  | punctuation listed => exact .symbol (mem_symbols_of_punctuation _ listed)
  | alone listed => exact .symbol (mem_symbols_of_operators _ listed).1
  | paired listed => exact .symbol (mem_symbols_of_operators _ listed).2

/-- The pieces of a text that are tokens are lexemes. -/
theorem lexeme_of_mem {text lexeme : List Char} {kind : Kind}
    (member : ⟨.token kind, lexeme⟩ ∈ ofText text) : Lexeme kind lexeme := by
  obtain ⟨before, after, divided⟩ := List.append_of_mem member
  obtain ⟨earlier, taken, later, _, cut, rfl, _⟩ := exists_cuts_of_divide divided
  exact lexeme_of_cuts cut

end Piece

end LoxTokens
