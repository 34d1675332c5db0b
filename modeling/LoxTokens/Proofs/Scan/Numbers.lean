import LoxTokens.Proofs.Binary64.Value
import LoxTokens.Proofs.Piece.Standing
import LoxTokens.Proofs.Token.WellFormed

/-! The values of number tokens: which number each of them is, and when all of them are finite. -/

namespace LoxTokens

/-- A token of a text is that of a lexeme or the mark at the end, and what its kind says. -/
theorem Scan.wellFormed_of_mem {text : List Char} {token : Token}
    (member : token ∈ (ofText text).tokens) : token.WellFormed := by
  rw [tokens_ofText, List.mem_append, List.mem_singleton] at member
  rcases member with inFront | rfl
  · obtain ⟨_, _, line, isLexeme, rfl⟩ := exists_lexeme inFront
    exact isLexeme.wellFormed line
  · exact Token.wellFormed_endOfInput _

open Binary64 in
/-- Only the tokens of numbers carry a number, which is what their lexeme writes, rounded. -/
theorem Token.WellFormed.readFrom {token : Token} (formed : token.WellFormed) {x : Binary64}
    (literal : token.literal = .number x) :
    token.kind = .number ∧ ReadFrom (Decimal.numeralValue token.lexeme.toList) x := by
  have valued : token.kind.hasLiteral = true := by
    have present := formed.valued
    rw [literal] at present
    simpa [Literal.isAbsent] using present.symm
  have isNumber : token.kind = .number := by
    cases kind : token.kind with
    | number => rfl
    | string =>
      obtain ⟨contents, string, _⟩ := formed.string kind
      rw [literal] at string
      contradiction
    | _ => simp [kind, Kind.hasLiteral] at valued
  obtain ⟨value, numeral, read⟩ := formed.number isNumber
  obtain rfl : x = ofDecimal value := Literal.number.inj (literal.symm.trans read)
  rw [← Decimal.toRat_ofNumeral, numeral.ofNumeral_eq]
  exact ⟨isNumber, ofDecimal_readFrom value⟩

/--
Every number token has the number nearest to what its lexeme writes, however many digits those are.

The number has no sign, so that two of them have the same bits exactly when they are equal.
-/
theorem numbers_rounded :
    (∀ source, ∀ token ∈ (tokenize source).tokens, token.kind = .number →
      ∃ x, token.literal = .number x ∧
        Binary64.ReadFrom (Decimal.numeralValue token.lexeme.toList) x) ∧
    ∀ source other, ∀ left ∈ (tokenize source).tokens, ∀ right ∈ (tokenize other).tokens,
      ∀ x y, left.literal = .number x → right.literal = .number y →
        (left.literal = right.literal ↔ x.SameNumber y) := by
  constructor
  · intro source token member isNumber
    have formed := Scan.wellFormed_of_mem member
    obtain ⟨value, _, literal⟩ := formed.number isNumber
    exact ⟨_, literal, (formed.readFrom literal).2⟩
  · intro source other left leftMember right rightMember x y leftLiteral rightLiteral
    have leftRead := ((Scan.wellFormed_of_mem leftMember).readFrom leftLiteral).2
    have rightRead := ((Scan.wellFormed_of_mem rightMember).readFrom rightLiteral).2
    rw [leftLiteral, rightLiteral, Literal.number.injEq]
    exact (Binary64.sameNumber_iff_eq leftRead.positive leftRead.number rightRead.positive
      rightRead.number).symm

/-- Halfway between two numbers, it is the one with the even significand. -/
theorem numbers_rounded_halfway :
    ∃ token ∈ (tokenize "9007199254740993.0").tokens, token.kind = .number ∧
      token.literal = .number ⟨0x4340000000000000⟩ ∧ ∃ x, token.literal = .number x ∧
        Binary64.ReadFrom (Decimal.numeralValue token.lexeme.toList) x := by
  have first : (tokenize "9007199254740993.0").tokens.head?.map Token.identity =
      some (.number, "9007199254740993.0", .number ⟨0x4340000000000000⟩) := by decide +kernel
  obtain ⟨token, head, identity⟩ := Option.map_eq_some_iff.mp first
  have member := List.mem_of_head? head
  have isNumber : token.kind = .number := congrArg (·.1) identity
  have literal : token.literal = .number ⟨0x4340000000000000⟩ := congrArg (·.2.2) identity
  exact ⟨token, member, isNumber, literal, numbers_rounded.1 _ token member isNumber⟩

/-- Digits are a lexeme, wherever a separator or nothing follows them. -/
theorem Piece.standing_of_isDigits {text : List Char} (digits : IsDigits text) :
    Standing ⟨.token .number, text⟩ := by
  -- Each digit is a grapheme of its own.
  obtain ⟨c, more, rfl, digit⟩ := digits.exists_cons
  have all : ∀ d ∈ c :: more, d.isDigit = true := digits.2
  have same : ((c :: more).map ([·])).flatten = c :: more := List.flatMap_singleton' _
  refine ⟨.number, (c :: more).map ([·]), by rw [same], selfContained_of_ascii ?_, ?_⟩
  · intro grapheme member
    obtain ⟨d, inside, rfl⟩ := List.mem_map.mp member
    exact ⟨d, rfl, isAscii_of_isDigit (all d inside)⟩
  · apply Cuts.whole digit _ (by simp [StopsAt]) (by simp [FractionFollows])
    intro grapheme member
    obtain ⟨d, inside, rfl⟩ := List.mem_map.mp member
    exact all d (List.mem_cons_of_mem _ inside)

/-- A source of digits has the token of the number they write. -/
theorem mem_tokens_of_isDigits {text : List Char} (digits : IsDigits text) :
    Token.ofLexeme .number text 1 ∈ (tokenize (String.ofList text)).tokens := by
  have ended : ∀ c, ([] : List Char).head? = some c → Piece.isBlank c ∨ c = '\n' := by simp
  have divided := (Piece.standing_of_isDigits digits).ofText_append ended
  rw [List.append_nil] at divided
  rw [tokenize, String.toList_ofList, Scan.ofText, divided]
  exact List.mem_cons_self

/-- Zeros behind another digit are digits. -/
theorem isDigits_cons_zeros {c : Char} (digit : c.isDigit) (count : Nat) :
    IsDigits (c :: List.replicate count '0') := by
  refine ⟨by simp, ?_⟩
  intro d member
  rcases List.mem_cons.mp member with rfl | zero
  · exact digit
  · rw [List.eq_of_mem_replicate zero]
    rfl

/-- Every number among the tokens of a source is finite, and none has a sign. -/
def NumbersFinite (source : String) : Prop :=
  ∀ token ∈ (tokenize source).tokens, ∀ x, token.literal = .number x →
    x.isNegative = false ∧ x.isInfinite = false ∧ x.isNaN = false

/-- The numbers of a source are finite exactly when all its numerals write less than the bound. -/
theorem numbersFinite_iff (source : String) : NumbersFinite source ↔
    ∀ token ∈ (tokenize source).tokens, token.kind = .number →
      Decimal.numeralValue token.lexeme.toList < Binary64.overflow := by
  constructor
  · intro finite token member isNumber
    have formed := Scan.wellFormed_of_mem member
    obtain ⟨value, _, literal⟩ := formed.number isNumber
    have read := (formed.readFrom literal).2
    obtain ⟨_, notInfinite, _⟩ := finite token member _ literal
    -- What is not infinite is below the bound.
    by_contra atLeast
    rw [read.isInfinite_iff.mpr (not_lt.mp atLeast)] at notInfinite
    contradiction
  · intro below token member x literal
    obtain ⟨isNumber, read⟩ := (Scan.wellFormed_of_mem member).readFrom literal
    refine ⟨read.positive, ?_, read.number⟩
    rw [← Bool.not_eq_true, read.isInfinite_iff, not_le]
    exact below token member isNumber

/-- A one and three hundred and nine zeros behind it are more than any finite number. -/
theorem not_numbersFinite_zeros :
    ¬NumbersFinite (String.ofList ('1' :: List.replicate 309 '0')) := by
  intro finite
  have member := mem_tokens_of_isDigits (isDigits_cons_zeros (c := '1') rfl 309)
  have infinite : Literal.ofNumeral ('1' :: List.replicate 309 '0') =
      .number ⟨0x7FF0000000000000⟩ := by decide +kernel
  have notInfinite := (finite _ member _ infinite).2.1
  have isInfinite : (Binary64.mk 0x7FF0000000000000).isInfinite = true := by decide
  exact absurd (isInfinite.symm.trans notInfinite) (by decide)

end LoxTokens
