import LoxTokens.Proofs.Piece.Lexeme
import LoxTokens.Proofs.Scan.Located

/-! Every token is what its kind says: its lexeme, its value, and the word it is reserved for. -/

namespace LoxTokens

namespace Kind

/-- A word has the kind of a reserved word exactly when it is looked up as that one. -/
theorem ofWord_eq_iff {word : String} {kind : Kind} :
    (ofWord word = kind ∧ kind.isKeyword = true) ↔ ofKeyword? word = some kind := by
  -- A word that is not found is a name, and a name is not reserved.
  cases found : ofKeyword? word with
  | none =>
    have isName : ofWord word = .identifier := by simp [ofWord, found]
    rw [isName]
    simp only [reduceCtorEq, iff_false, not_and, Bool.not_eq_true]
    intro same
    subst same
    rfl
  | some other =>
    have isOther : ofWord word = other := by simp [ofWord, found]
    rw [isOther, Option.some.injEq]
    constructor
    · intro both
      exact both.1
    · intro same
      subst same
      exact ⟨rfl, isKeyword_of_ofKeyword? found⟩

/-- A word that has the kind of names is not looked up. -/
theorem ofKeyword?_eq_none {word : String} (isName : ofWord word = .identifier) :
    ofKeyword? word = none := by
  cases found : ofKeyword? word with
  | none => rfl
  | some kind =>
    obtain ⟨same, reserved⟩ := ofWord_eq_iff.mpr found
    rw [← same, isName] at reserved
    contradiction

/-- The spelling of a reserved word starts with a letter. -/
theorem isLetter_of_ofKeyword? {word : String} {kind : Kind}
    (found : ofKeyword? word = some kind) : word.toList.head?.any Plain.isLetter = true := by
  -- Each spelling in the table does.
  unfold ofKeyword? at found
  split at found
  all_goals first | decide | contradiction

/-- What starts with no letter is not looked up, and so has none of those kinds. -/
theorem reserved_of_head {kind : Kind} {word : String} (plain : kind.isKeyword = false)
    (head : word.toList.head?.any Plain.isLetter = false) (other : Kind) :
    (kind = other ∧ other.isKeyword = true) ↔ ofKeyword? word = some other := by
  constructor
  · intro both
    obtain ⟨rfl, reserved⟩ := both
    simp [plain] at reserved
  · intro found
    simp [isLetter_of_ofKeyword? found] at head

/-- Symbols have kinds of their own, which carry no value. -/
theorem of_mem_symbols : ∀ entry ∈ Plain.symbols,
    entry.2 ∉ [.identifier, .number, .string, .endOfInput] ∧
      entry.2.isKeyword = false ∧ entry.2.hasLiteral = false := by decide

/-- Every symbol is the only spelling of its kind. -/
theorem spelling_unique : ∀ entry ∈ Plain.symbols, ∀ other ∈ Plain.symbols,
    entry.2 = other.2 → entry.1 = other.1 := by decide

end Kind

namespace Token

/-- A token is what its kind says. -/
structure WellFormed (token : Token) : Prop where
  /-- Only the mark at the end has no text. -/
  empty : token.lexeme = "" ↔ token.kind = .endOfInput
  /-- The kind is that of a reserved word exactly when the lexeme is looked up as that word. -/
  reserved : ∀ kind, (token.kind = kind ∧ kind.isKeyword = true) ↔
    Kind.ofKeyword? token.lexeme = some kind
  name : token.kind = .identifier →
    IsWord token.lexeme.toList ∧ Kind.ofKeyword? token.lexeme = none
  number : token.kind = .number → ∃ value, Numeral token.lexeme.toList value ∧
    token.literal = .number (.ofDecimal value)
  string : token.kind = .string → ∃ contents, token.literal = .string contents ∧
    token.lexeme = "\"" ++ contents ++ "\""
  /-- The other kinds, punctuation and operators, have the one spelling that is listed. -/
  symbol : token.kind ∉ [.identifier, .number, .string, .endOfInput] →
    token.kind.isKeyword = false →
      ∀ spelling, (spelling, token.kind) ∈ Plain.symbols ↔ spelling = token.lexeme.toList
  /-- There is a value exactly when the kind carries one. -/
  valued : token.literal.isAbsent = !token.kind.hasLiteral

/-- The mark at the end has no text, and no value. -/
theorem wellFormed_endOfInput (line : Nat) : (endOfInput line).WellFormed where
  empty := by simp [endOfInput]
  reserved := Kind.reserved_of_head rfl rfl
  name := by simp [endOfInput]
  number := by simp [endOfInput]
  string := by simp [endOfInput]
  symbol := fun other => absurd other (by simp [endOfInput])
  valued := rfl

/-- A symbol has the spelling of its kind, and no value. -/
theorem wellFormed_symbol {kind : Kind} {text : List Char}
    (listed : (text, kind) ∈ Plain.symbols) (line : Nat) :
    (ofLexeme kind text line).WellFormed := by
  obtain ⟨other, plain, valueless⟩ := Kind.of_mem_symbols _ listed
  simp only [List.mem_cons, List.not_mem_nil, or_false, not_or] at other
  obtain ⟨c, rest, rfl, _, notLetter, _⟩ := exists_cons_of_mem_symbols listed
  have only : ∀ spelling, (spelling, kind) ∈ Plain.symbols ↔ spelling = c :: rest := by
    intro spelling
    constructor
    · intro same
      exact Kind.spelling_unique _ same _ listed rfl
    · intro same
      rwa [same]
  rw [ofLexeme_absent valueless]
  exact {
    empty := by simp [other]
    reserved := Kind.reserved_of_head plain (by simpa using notLetter)
    name := fun isName => absurd isName other.1
    number := fun isNumber => absurd isNumber other.2.1
    string := fun isString => absurd isString other.2.2.1
    symbol := fun _ _ => by simpa using only
    valued := by simp [Literal.isAbsent, valueless] }

/-- A numeral has the number that it writes for its value. -/
theorem wellFormed_numeral {text : List Char} {value : Decimal} (numeral : Numeral text value)
    (line : Nat) : (ofLexeme .number text line).WellFormed := by
  obtain ⟨c, rest, starts, digit⟩ := numeral.exists_cons
  have notLetter : Plain.isLetter c = false := by
    by_cases letter : Plain.isLetter c = true
    · simp [Piece.isDigit_of_startsWord letter] at digit
    · simpa using letter
  have literal : (ofLexeme .number text line).literal = .number (.ofDecimal value) := by
    rw [← numeral.ofNumeral_eq]
    rfl
  exact {
    empty := by simp [ofLexeme, starts]
    reserved := Kind.reserved_of_head rfl (by simp [ofLexeme, starts, notLetter])
    name := by simp [ofLexeme]
    number := fun _ => ⟨value, by simpa [ofLexeme] using numeral, literal⟩
    string := by simp [ofLexeme]
    symbol := fun other => absurd other (by simp [ofLexeme])
    valued := rfl }

/-- A string has what stands between its quotes for its value. -/
theorem wellFormed_quoted (contents : List Char) (line : Nat) :
    (ofLexeme .string ('"' :: (contents ++ ['"'])) line).WellFormed where
  empty := by simp [ofLexeme]
  reserved := Kind.reserved_of_head rfl (by simp [ofLexeme, Plain.isLetter])
  name := by simp [ofLexeme]
  number := by simp [ofLexeme]
  string := by
    intro _
    refine ⟨String.ofList contents, by simp [ofLexeme, Literal.ofQuoted], ?_⟩
    apply String.toList_injective
    simp [ofLexeme]
  symbol := fun other => absurd other (by simp [ofLexeme])
  valued := rfl

/-- A word is a name or a reserved word, and has no value. -/
theorem wellFormed_word {text : List Char} (word : IsWord text) (line : Nat) :
    (ofLexeme (.ofWord (String.ofList text)) text line).WellFormed := by
  have present : String.ofList text ≠ "" := by
    obtain ⟨first, more, rfl, _⟩ := word
    simp
  have notEnd : Kind.ofWord (String.ofList text) ≠ .endOfInput :=
    Kind.ofWord_ne (by decide) rfl _
  have valueless := Kind.hasLiteral_ofWord (String.ofList text)
  rw [ofLexeme_absent valueless]
  exact {
    empty := by simp [present, notEnd]
    reserved := fun kind => Kind.ofWord_eq_iff
    name := fun isName => ⟨by simpa using word, Kind.ofKeyword?_eq_none isName⟩
    number := fun isNumber => absurd isNumber (Kind.ofWord_ne (by decide) rfl _)
    string := fun isString => absurd isString (Kind.ofWord_ne (by decide) rfl _)
    symbol := by
      intro notName plain
      rcases Kind.ofWord_cases (String.ofList text) with isName | reserved
      · simp [isName] at notName
      · simp [reserved] at plain
    valued := by simp [Literal.isAbsent, valueless] }

end Token

/-- The token of a lexeme is what its kind says. -/
theorem Lexeme.wellFormed {kind : Kind} {text : List Char} (lexeme : Lexeme kind text)
    (line : Nat) : (Token.ofLexeme kind text line).WellFormed := by
  cases lexeme with
  | symbol listed => exact Token.wellFormed_symbol listed line
  | numeral numeral => exact Token.wellFormed_numeral numeral line
  | quoted contents => exact Token.wellFormed_quoted contents line
  | word word => exact Token.wellFormed_word word line

/-- Lexemes are not the mark at the end. -/
theorem Lexeme.kind_ne_endOfInput {kind : Kind} {text : List Char} (lexeme : Lexeme kind text) :
    kind ≠ .endOfInput := by
  cases lexeme with
  | symbol listed =>
    intro isEnd
    exact (Kind.of_mem_symbols _ listed).1 (by simp [isEnd])
  | numeral | quoted => decide
  | word word => exact Kind.ofWord_ne (by decide) rfl _

/-- The tokens of a text in front of the mark at its end are those of lexemes. -/
theorem Scan.exists_lexeme {text : List Char} {token : Token}
    (member : token ∈ (located 1 (Piece.ofText text)).filterMap tokenOf?) :
    ∃ kind lexeme line, Lexeme kind lexeme ∧ token = .ofLexeme kind lexeme line := by
  obtain ⟨kind, lexeme, line, piece, made⟩ := exists_piece_of_token member
  exact ⟨kind, lexeme, line, Piece.lexeme_of_mem piece, made⟩

/--
Every token of every source is what its kind says.

The last one is the mark at the end, which is no other token and has neither text nor value.
-/
theorem wellFormed_tokens (source : String) :
    (∃ front line, (tokenize source).tokens = front ++ [⟨.endOfInput, "", .absent, line⟩] ∧
      ∀ token ∈ front, token.kind ≠ .endOfInput) ∧
    ∀ token ∈ (tokenize source).tokens, token.WellFormed := by
  -- In front of the mark, every token is read off a piece, and the piece is a lexeme.
  have tokens := Scan.tokens_ofText source.toList
  constructor
  · refine ⟨_, _, tokens, ?_⟩
    intro token member
    obtain ⟨kind, lexeme, line, isLexeme, rfl⟩ := Scan.exists_lexeme member
    exact isLexeme.kind_ne_endOfInput
  · intro token member
    rw [tokenize, tokens, List.mem_append, List.mem_singleton] at member
    rcases member with inFront | isMark
    · obtain ⟨kind, lexeme, line, isLexeme, rfl⟩ := Scan.exists_lexeme inFront
      exact isLexeme.wellFormed line
    · subst isMark
      exact Token.wellFormed_endOfInput _

end LoxTokens
