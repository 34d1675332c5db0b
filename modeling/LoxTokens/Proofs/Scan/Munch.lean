import LoxTokens.Proofs.Piece.Lexeme
import LoxTokens.Proofs.Piece.Standing
import LoxTokens.Proofs.Scan.Segments

/-! Maximal munch: no lexeme could have gone on with the characters right after it. -/

namespace LoxTokens

/-- What comes right after a lexeme of some kind does not go on with it. -/
structure Munched (kind : Kind) (lexeme rest : List Char) : Prop where
  word : kind = .identifier ∨ kind.isKeyword = true → Piece.StopsAt Plain.isWordCharacter rest
  digits : kind = .number → Piece.StopsAt Char.isDigit rest
  /-- A number that has no fraction yet has none after it either. -/
  fraction : kind = .number → '.' ∉ lexeme →
    ∀ digit more, rest = '.' :: digit :: more → digit.isDigit = false
  operator : kind ∈ [.bang, .equal, .less, .greater] → rest.head? ≠ some '='
  /-- Two slashes would have been a comment. -/
  slash : kind = .slash → rest.head? ≠ some '/'

namespace Piece

/-- What does not go on with the graphemes of a text does not go on with its characters. -/
theorem stopsAt_of_graphemes {test : Grapheme → Bool} {charTest : Char → Bool} {rest : List Char}
    (ascii : ∀ c, charTest c = true → isAscii c = true)
    (agree : ∀ c, charTest c = true → test [c] = true) (stops : StopsAt test (graphemes rest)) :
    StopsAt charTest rest := by
  -- A character that goes on is ASCII, and no mark behind it hides it from the graphemes.
  intro c found
  by_cases passes : charTest c = true
  · -- An ASCII character in front of a text is the first grapheme.
    obtain ⟨more, rfl⟩ := List.head?_eq_some_iff.mp found
    rw [graphemes_cons_ascii (ascii c passes)] at stops
    simpa [agree c passes] using stops [c] rfl
  · simpa using passes

/-- An ASCII character that is not the next grapheme is not the next character. -/
theorem head?_ne_of_graphemes {c : Char} {rest : List Char} (ascii : isAscii c = true)
    (stops : StopsAt (isJust c) (graphemes rest)) : rest.head? ≠ some c := by
  intro found
  have fails : StopsAt (· = c) rest :=
    stopsAt_of_graphemes (by simpa using ascii) (by simp [isJust]) stops
  simpa using fails c found

/-- A token ends with an ASCII character that is a grapheme of its own. -/
theorem exists_concat_of_cuts {kind : Kind} {taken later : List Grapheme}
    (cut : Cuts (.token kind) taken later) : ∃ init c, taken = init ++ [[c]] ∧ isAscii c = true := by
  -- A string may hold any characters, but it ends with a quote.
  by_cases isString : kind = .string
  · subst isString
    obtain ⟨body, rfl, _⟩ := eq_of_cuts_string cut
    exact ⟨['"'] :: body, '"', rfl, rfl⟩
  · have ascii := ascii_of_cuts cut isString
    have present : taken ≠ [] := by
      intro empty
      subst empty
      cases cut
    obtain ⟨init, last, rfl⟩ := List.eq_nil_or_concat taken |>.resolve_left present
    obtain ⟨c, rfl, isOne⟩ := ascii last (by simp)
    exact ⟨init, c, by simp, isOne⟩

/-- What follows a token is read as it would be on its own. -/
theorem graphemes_after_cuts {kind : Kind} {text : List Char} {earlier taken later : List Grapheme}
    (cut : Cuts (.token kind) taken later) (read : graphemes text = earlier ++ taken ++ later) :
    graphemes later.flatten = later := by
  -- Nothing reaches across the character that the token ends with.
  obtain ⟨init, c, rfl, ascii⟩ := exists_concat_of_cuts cut
  have around : graphemes text = (earlier ++ init) ++ [c] :: later := by simpa using read
  exact (graphemes_around_ascii ascii around).2.2

end Piece

/-- Lexemes of most kinds end where they do whatever comes after them. -/
theorem munched_of_fixed {kind : Kind} (plain : kind.isKeyword = false)
    (fixed : kind ∉ [.identifier, .number, .bang, .equal, .less, .greater, .slash])
    (lexeme rest : List Char) : Munched kind lexeme rest := by
  -- Nothing is asked of what follows a lexeme of such a kind.
  simp only [List.mem_cons, List.not_mem_nil, or_false, not_or] at fixed
  constructor <;> simp [plain, fixed]

/-- A number ends where neither more digits nor a fraction follow. -/
theorem munched_number {lexeme rest : List Char} (digits : Piece.StopsAt Char.isDigit rest)
    (fraction : '.' ∉ lexeme → ∀ digit more, rest = '.' :: digit :: more → digit.isDigit = false) :
    Munched .number lexeme rest where
  word := by simp [Kind.isKeyword]
  digits := fun _ => digits
  fraction := fun _ => fraction
  operator := by simp
  slash := by simp

/-- A name or a reserved word ends where no character of a word follows. -/
theorem munched_word (word : String) (lexeme : List Char) {rest : List Char}
    (stops : Piece.StopsAt Plain.isWordCharacter rest) :
    Munched (.ofWord word) lexeme rest where
  word := fun _ => stops
  digits := fun isNumber => absurd isNumber (Kind.ofWord_ne (by decide) rfl word)
  fraction := fun isNumber => absurd isNumber (Kind.ofWord_ne (by decide) rfl word)
  operator := by
    intro listed
    rcases Kind.ofWord_cases word with isName | reserved
    · simp [isName] at listed
    · have plain : ∀ kind ∈ [Kind.bang, .equal, .less, .greater], kind.isKeyword = false := by
        decide
      simp [plain _ listed] at reserved
  slash := fun isSlash => absurd isSlash (Kind.ofWord_ne (by decide) rfl word)

/-- An operator that stands alone ends where no equals sign follows. -/
theorem munched_operator {kind : Kind} (listed : kind ∈ [Kind.bang, .equal, .less, .greater])
    (lexeme : List Char) {rest : List Char} (apart : rest.head? ≠ some '=') :
    Munched kind lexeme rest := by
  have plain : kind.isKeyword = false ∧ kind ∉ [.identifier, .number, .slash] := by
    revert kind
    decide
  obtain ⟨notKeyword, other⟩ := plain
  simp only [List.mem_cons, List.not_mem_nil, or_false, not_or] at other
  constructor <;> simp [notKeyword, other, apart]

namespace Piece

/-- Punctuation never goes on, and neither does an operator of two characters. -/
theorem fixed_of_punctuation : ∀ entry ∈ punctuation, entry.2.isKeyword = false ∧
    entry.2 ∉ [.identifier, .number, .bang, .equal, .less, .greater, .slash] := by decide

/-- An operator of two characters never goes on, and alone it is one of the four that do. -/
theorem kinds_of_operators : ∀ entry ∈ operators,
    entry.2.1 ∈ [Kind.bang, .equal, .less, .greater] ∧ entry.2.2.isKeyword = false ∧
      entry.2.2 ∉ [.identifier, .number, .bang, .equal, .less, .greater, .slash] := by decide

/-- A digit after a point makes a fraction of the two, whatever marks follow the digit. -/
theorem fractionFollows_of_digit {digit : Char} (isOne : digit.isDigit = true) (more : List Char) :
    FractionFollows (graphemes ('.' :: digit :: more)) := by
  -- Both characters are ASCII, and so stand at the head of their clusters.
  refine ⟨[digit], graphemes more, ?_, isOne⟩
  rw [graphemes_cons_ascii rfl, graphemes_cons_ascii (isAscii_of_isDigit isOne)]

/-- What a rule cuts off as a token could not have gone on. -/
theorem munched_of_cuts {kind : Kind} {taken : List Grapheme} {rest : List Char}
    (cut : Cuts (.token kind) taken (graphemes rest)) : Munched kind taken.flatten rest := by
  generalize behind : graphemes rest = later at cut
  -- Each rule that looks at the next grapheme has asked for just what is claimed here.
  cases cut with
  | string => exact munched_of_fixed rfl (by decide) _ _
  | punctuation listed =>
    obtain ⟨plain, fixed⟩ := fixed_of_punctuation _ listed
    exact munched_of_fixed plain fixed _ _
  | paired listed =>
    obtain ⟨_, plain, fixed⟩ := kinds_of_operators _ listed
    exact munched_of_fixed plain fixed _ _
  | whole digit all stops ends =>
    subst behind
    have digits : StopsAt Char.isDigit rest :=
      stopsAt_of_graphemes (fun _ => isAscii_of_isDigit) (fun _ => id) stops
    apply munched_number digits
    intro _ next more same
    by_cases isOne : next.isDigit = true
    · rw [same] at ends
      exact absurd (fractionFollows_of_digit isOne more) ends
    · simpa using isOne
  | decimal digit all present more stops =>
    subst behind
    have digits : StopsAt Char.isDigit rest :=
      stopsAt_of_graphemes (fun _ => isAscii_of_isDigit) (fun _ => id) stops
    -- There is a point in it already.
    exact munched_number digits (fun noPoint => absurd noPoint (by simp))
  | word letter all stops =>
    subst behind
    exact munched_word _ _
      (stopsAt_of_graphemes (fun _ => isAscii_of_inWord) (fun _ => id) stops)
  | slash stops =>
    subst behind
    have apart : rest.head? ≠ some '/' := head?_ne_of_graphemes rfl stops
    constructor <;> simp [Kind.isKeyword, apart]
  | alone listed stops =>
    subst behind
    exact munched_operator (kinds_of_operators _ listed).1 _ (head?_ne_of_graphemes rfl stops)

/-- A piece of a text that is a token could not have gone on into the pieces after it. -/
theorem munched_of_divided {text lexeme : List Char} {kind : Kind} {earlier later : List Piece}
    (divided : ofText text = earlier ++ ⟨.token kind, lexeme⟩ :: later) :
    Munched kind lexeme (later.flatMap Piece.text) := by
  -- The rule saw the graphemes of the whole text, which are those of the text behind as well.
  obtain ⟨before, taken, after, read, cut, rfl, _, rfl⟩ := exists_cuts_of_divide divided
  rw [flatMap_text_divide]
  apply munched_of_cuts
  rwa [graphemes_after_cuts cut read]

end Piece

/-- A longer prefix of a text goes on where a shorter one stops. -/
theorem exists_more_of_longer {short long rest : List Char} (starts : long <+: short ++ rest)
    (longer : short.length < long.length) :
    ∃ c more, long = short ++ c :: more ∧ c :: more <+: rest := by
  -- Of two prefixes of one text, the shorter is a prefix of the longer.
  have inside : short <+: long :=
    List.prefix_of_prefix_length_le (List.prefix_append short rest) starts (Nat.le_of_lt longer)
  obtain ⟨more, rfl⟩ := inside
  have follows : more <+: rest := by simpa using starts
  cases more with
  | nil => simp at longer
  | cons c more => exact ⟨c, more, rfl, follows⟩

/-- A point is not a digit. -/
theorem IsDigits.point_not_mem {digits : List Char} (isDigits : IsDigits digits) :
    '.' ∉ digits :=
  not_mem_of_all isDigits.2 rfl

/-- A numeral goes on as a longer one with a digit, or with a point and a digit. -/
theorem Numeral.next_of_longer {short more : List Char} {value other : Decimal} {c : Char}
    (numeral : Numeral short value) (longer : Numeral (short ++ c :: more) other) :
    c.isDigit = true ∨ (c = '.' ∧ '.' ∉ short ∧
      ∃ digit rest, more = digit :: rest ∧ digit.isDigit = true) := by
  generalize written : short ++ c :: more = long at longer
  cases longer with
  | whole all =>
    subst written
    exact .inl (all.2 c (by simp))
  | @decimal digits fraction all ends =>
    by_cases isDigit : c.isDigit = true
    · exact .inl isDigit
    · -- Then the first digits of both end at the same place, and a point stands there.
      have behind := Piece.dropWhile_append_of_stopsAt all.2 (stopsAt_point fraction)
      rw [← written] at behind
      cases numeral with
      | whole same =>
        have stops : Piece.StopsAt Char.isDigit (c :: more) := by
          simpa [Piece.StopsAt] using isDigit
        rw [Piece.dropWhile_append_of_stopsAt same.2 stops] at behind
        obtain ⟨rfl, rfl⟩ := List.cons.inj behind
        exact .inr ⟨rfl, same.point_not_mem, ends.exists_cons⟩
      | decimal same _ =>
        -- The one after the point is a digit like all of the fraction.
        rw [List.append_assoc, List.cons_append,
          Piece.dropWhile_append_of_stopsAt same.2 (stopsAt_point _)] at behind
        obtain ⟨_, rfl⟩ := List.cons.inj behind
        exact absurd (ends.2 c (by simp)) isDigit

/-- A symbol goes on as a longer one with an equals sign, and only four of them do. -/
theorem next_of_longer_symbol {short more : List Char} {kind other : Kind} {c : Char}
    (symbol : (short, kind) ∈ Plain.symbols) (longer : (short ++ c :: more, other) ∈ Plain.symbols) :
    c = '=' ∧ kind ∈ [Kind.bang, .equal, .less, .greater] := by
  -- There are few enough symbols to compare each with every other one.
  have table : ∀ entry ∈ Plain.symbols, ∀ next ∈ Plain.symbols, entry.1 <+: next.1 →
      next.1.length ≤ entry.1.length ∨
        (next.1 = entry.1 ++ ['='] ∧ entry.2 ∈ [Kind.bang, .equal, .less, .greater]) := by decide
  rcases table _ symbol _ longer (List.prefix_append _ _) with shorter | ⟨goesOn, listed⟩
  · simp only [List.length_append, List.length_cons] at shorter
    omega
  · obtain ⟨rfl, _⟩ : c = '=' ∧ more = [] := by simpa using goesOn
    exact ⟨rfl, listed⟩

/-- Every character of a word can go on in one. -/
theorem IsWord.all {text : List Char} (word : IsWord text) :
    ∀ c ∈ text, Plain.isWordCharacter c = true := by
  obtain ⟨first, more, rfl, letter, rest⟩ := word
  exact List.forall_mem_cons.mpr ⟨Plain.isWordCharacter_of_isLetter letter, rest⟩

/-- No lexeme that starts at the same place is longer than one that could not have gone on. -/
theorem Lexeme.longest {kind : Kind} {lexeme rest : List Char} (isLexeme : Lexeme kind lexeme)
    (munched : Munched kind lexeme rest) (notString : kind ≠ .string) {other : Kind}
    {candidate : List Char} (isOther : Lexeme other candidate)
    (starts : candidate <+: lexeme ++ rest) : candidate.length ≤ lexeme.length := by
  apply Nat.le_of_not_lt
  intro longer
  obtain ⟨c, more, rfl, tail, rfl⟩ := exists_more_of_longer starts longer
  -- Both start with the same character, which tells that they are written the same way.
  cases isLexeme with
  | symbol listed =>
    obtain ⟨first, others, rfl, notDigit, notLetter, notQuote⟩ := exists_cons_of_mem_symbols listed
    have symbol := isOther.of_other notDigit notLetter notQuote
    obtain ⟨rfl, goesOn⟩ := next_of_longer_symbol listed symbol
    exact munched.operator goesOn rfl
  | numeral numeral =>
    obtain ⟨first, others, rfl, digit⟩ := numeral.exists_cons
    obtain ⟨_, _, longerNumeral⟩ := isOther.of_digit digit
    rcases numeral.next_of_longer longerNumeral with isOne | ⟨rfl, whole, next, behind, rfl, isOne⟩
    · simp [munched.digits rfl c rfl] at isOne
    · simp [munched.fraction rfl whole next _ rfl] at isOne
  | quoted => contradiction
  | word word =>
    obtain ⟨first, others, rfl, letter, _⟩ := word
    obtain ⟨_, longerWord⟩ := isOther.of_letter letter
    have stops := munched.word (Kind.ofWord_cases _) c rfl
    have part := longerWord.all c (by simp)
    simp [stops] at part

/-- The tokens of a source are as long as they can be at the places they were taken from. -/
structure MaximallyMunched (source : String) : Prop where
  /-- The pieces of the source, one after another, are the source. -/
  covers : (Piece.ofText source.toList).flatMap Piece.text = source.toList
  /-- The tokens in front of the mark at the end are the pieces that are lexemes, in order. -/
  lexemes : (tokenize source).tokens.dropLast.map (fun token => (token.kind, token.lexeme)) =
    (Piece.ofText source.toList).filterMap Piece.lexeme?
  /-- What comes right after a token does not go on with it. -/
  munched : ∀ earlier kind lexeme later,
    Piece.ofText source.toList = earlier ++ ⟨.token kind, lexeme⟩ :: later →
      Munched kind lexeme (later.flatMap Piece.text)
  /-- Any other lexeme that starts at the place of a token, save a string, is no longer than it. -/
  longest : ∀ earlier kind lexeme later,
    Piece.ofText source.toList = earlier ++ ⟨.token kind, lexeme⟩ :: later → kind ≠ .string →
      ∀ other candidate, Lexeme other candidate →
        candidate <+: lexeme ++ later.flatMap Piece.text → candidate.length ≤ lexeme.length

/-- Every token of every source is as long as it can be where it was taken from. -/
theorem maximallyMunched (source : String) : MaximallyMunched source where
  covers := Piece.flatMap_text_ofText source.toList
  lexemes := by
    rw [tokenize, Scan.ofText, Scan.tokens_ofPieces, List.dropLast_concat, Scan.map_tokenOf?]
  munched := fun _ _ _ _ divided => Piece.munched_of_divided divided
  longest := by
    intro earlier kind lexeme later divided notString other candidate isOther starts
    have isLexeme : Lexeme kind lexeme := Piece.lexeme_of_mem (by rw [divided]; simp)
    exact isLexeme.longest (Piece.munched_of_divided divided) notString isOther starts

end LoxTokens
