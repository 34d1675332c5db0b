import LoxTokens.Proofs.Output.Sink
import LoxTokens.Proofs.Piece.Standing
import LoxTokens.Proofs.Scan.Shown
import LoxTokens.Proofs.Text.Utf8
import LoxTokens.Proofs.Token.WellFormed
import LoxTokens.Session.Basic

/-! A listing tells which tokens it shows, whatever the strings among them hold. -/

namespace LoxTokens

/-- What stands in front of the first mark of a sequence, and what comes after it. -/
theorem eq_of_append_cons_eq {α : Type} {mark : α} {left right rest others : List α}
    (unmarked : mark ∉ left) (unmarkedToo : mark ∉ right)
    (same : left ++ mark :: rest = right ++ mark :: others) : left = right ∧ rest = others := by
  -- Item by item, the two sides must come to their first marks at the same time.
  induction left generalizing right with
  | nil =>
    cases right with
    | nil => exact ⟨rfl, (List.cons.inj same).2⟩
    | cons first right =>
      -- The right side would start with a mark.
      obtain ⟨rfl, _⟩ := List.cons.inj same
      simp at unmarkedToo
  | cons first left ih =>
    obtain ⟨_, unmarked⟩ := not_or.mp (List.mem_cons.not.mp unmarked)
    cases right with
    | nil =>
      obtain ⟨rfl, _⟩ := List.cons.inj same
      contradiction
    | cons other right =>
      obtain ⟨rfl, later⟩ := List.cons.inj same
      obtain ⟨rfl, after⟩ := ih unmarked (fun found => unmarkedToo (.tail _ found)) later
      exact ⟨rfl, after⟩

namespace Kind

/-- A kind is found again by its name. -/
theorem ofName?_name (kind : Kind) : ofName? kind.name = some kind := by
  -- No other kind with that name stands in front of it in the list of all kinds.
  cases kind <;> decide

/-- No two kinds share a name. -/
theorem eq_of_name_eq {kind other : Kind} (same : kind.name = other.name) : kind = other := by
  have found := ofName?_name kind
  rw [same, ofName?_name] at found
  exact (Option.some.inj found).symm

/-- Names are single words. -/
theorem space_not_mem_name (kind : Kind) : ' ' ∉ kind.name.toList := by
  cases kind <;> decide

end Kind

namespace Token

/-- The token of a lexeme that is cut off as it is wherever a separator follows it. -/
def Standing (token : Token) : Prop :=
  ∃ kind lexeme line, token = .ofLexeme kind lexeme line ∧ Piece.Standing ⟨.token kind, lexeme⟩

/-- The mark at the end is no such token. -/
theorem Standing.kind_ne_endOfInput {token : Token} (standing : token.Standing) :
    token.kind ≠ .endOfInput := by
  -- It has the kind of a lexeme, and the mark at the end is none.
  obtain ⟨kind, lexeme, line, rfl, other, taken, same, _, cut⟩ := standing
  obtain ⟨rfl, rfl⟩ : kind = other ∧ lexeme = taken.flatten := by simpa using same
  exact (Piece.lexeme_of_cuts cut).kind_ne_endOfInput

/-- Lines that are the same up to some point are about tokens of one kind. -/
theorem kind_eq_of_listed {left right : Token} {rest others : List Char}
    (same : left.listingLine.toList ++ rest = right.listingLine.toList ++ others) :
    left.kind = right.kind ∧
      left.lexeme.toList ++ ' ' :: (left.literal.text.toList ++ '\n' :: rest) =
        right.lexeme.toList ++ ' ' :: (right.literal.text.toList ++ '\n' :: others) := by
  -- The name of the kind ends at the first blank.
  have named : left.kind.name.toList ++
        ' ' :: (left.lexeme.toList ++ ' ' :: (left.literal.text.toList ++ '\n' :: rest)) =
      right.kind.name.toList ++
        ' ' :: (right.lexeme.toList ++ ' ' :: (right.literal.text.toList ++ '\n' :: others)) := by
    simpa [listingLine, text] using same
  obtain ⟨name, after⟩ :=
    eq_of_append_cons_eq left.kind.space_not_mem_name right.kind.space_not_mem_name named
  exact ⟨Kind.eq_of_name_eq (String.toList_inj.mp name), after⟩

/-- The line that lists such a token tells which one it is, and where the line ends. -/
theorem Standing.eq_of_listed {left right : Token} (standing : left.Standing)
    (standingToo : right.Standing) {rest others : List Char}
    (same : left.listingLine.toList ++ rest = right.listingLine.toList ++ others) :
    left.identity = right.identity ∧ rest = others := by
  obtain ⟨sameKind, after⟩ := kind_eq_of_listed same
  obtain ⟨kind, lexeme, line, rfl, stands⟩ := standing
  obtain ⟨other, lexemeToo, lineToo, rfl, standsToo⟩ := standingToo
  obtain rfl : kind = other := sameKind
  have lexemes (text : List Char) (line : Nat) :
      (ofLexeme kind text line).lexeme.toList = text := String.toList_ofList
  rw [lexemes, lexemes] at after
  -- A string may hold anything, but a scan of what is left of the line finds its last quote.
  obtain ⟨_, rfl⟩ := Piece.mk.inj (stands.eq_of_append standsToo (.inl rfl) after)
  -- The value is read off the lexeme, so that both lines end at the same place.
  have value : (ofLexeme kind lexeme line).literal = (ofLexeme kind lexeme lineToo).literal := rfl
  rw [value, List.append_cancel_left_eq, List.cons.injEq, List.append_cancel_left_eq,
    List.cons.injEq] at after
  exact ⟨rfl, after.2.2⟩

/-- The lines of a listing, one after the other. -/
def lines (tokens : List Token) : List Char := tokens.flatMap (·.listingLine.toList)

/-- A list of such tokens is told by their lines, which the line of the mark at the end closes. -/
theorem map_identity_eq_of_lines {left right : List Token}
    (standing : ∀ token ∈ left, token.Standing) (standingToo : ∀ token ∈ right, token.Standing)
    {line other : Nat}
    (same : lines (left ++ [.endOfInput line]) = lines (right ++ [.endOfInput other])) :
    left.map identity = right.map identity := by
  -- The first lines are cut off both sides, and the mark is the line of no other token.
  induction left generalizing right with
  | nil =>
    cases right with
    | nil => rfl
    | cons token right =>
      -- The line of the mark would be the line of a lexeme.
      obtain ⟨isEnd, _⟩ := kind_eq_of_listed same
      exact absurd isEnd.symm (standingToo token List.mem_cons_self).kind_ne_endOfInput
  | cons token left ih =>
    obtain ⟨stands, later⟩ := List.forall_mem_cons.mp standing
    cases right with
    | nil =>
      obtain ⟨isEnd, _⟩ := kind_eq_of_listed same
      exact absurd isEnd stands.kind_ne_endOfInput
    | cons next right =>
      -- Both first lines end at the same place, and the others go on from there.
      obtain ⟨standsToo, laterToo⟩ := List.forall_mem_cons.mp standingToo
      obtain ⟨first, rest⟩ := stands.eq_of_listed standsToo same
      rw [List.map_cons, List.map_cons, first, ih later laterToo rest]

/-- Tokens that count as the same have the same lines. -/
theorem lines_eq_of_map_identity {left right : List Token}
    (same : left.map identity = right.map identity) : lines left = lines right := by
  -- A line shows nothing of a token but what tells it from others.
  have shown (tokens : List Token) : lines tokens =
      (tokens.map identity).flatMap fun (kind, lexeme, literal) =>
        (Token.mk kind lexeme literal 1).listingLine.toList := by
    rw [List.flatMap_map]
    rfl
  rw [shown, shown, same]

end Token

/-- Every token of a text but the mark at its end can be told by its line. -/
theorem Scan.exists_standing (text : List Char) : ∃ tokens,
    (ofText text).tokens = tokens ++ [.endOfInput (1 + newlines text)] ∧
      ∀ token ∈ tokens, token.Standing := by
  refine ⟨_, tokens_ofText text, ?_⟩
  intro token member
  obtain ⟨kind, lexeme, line, piece, made⟩ := exists_piece_of_token member
  exact ⟨kind, lexeme, line, made, Piece.standing_of_mem piece⟩

namespace Session

/-- What a program adds to the output of a session. -/
def added (session : Session) (source : String) : List UInt8 :=
  (session.run source.toList).2.out.received.drop session.out.received.length

/-- A session that lists its tokens, with room for all of them, adds their listing. -/
theorem added_eq {session : Session} (unlimited : session.out.settings.budget = none)
    (lists : session.quiet = false) (source : String) :
    session.added source = listing (tokenize source).tokens := by
  -- What the sink takes comes after what it had received before.
  show (session.out.put (session.listed (tokenize source).tokens)).2.received.drop _ = _
  rw [Sink.received_put, List.drop_left, Sink.taken, unlimited, listed, lists]
  rfl

/-- Two texts are listed the same exactly when their tokens count as the same. -/
theorem listing_eq_iff (source other : String) :
    listing (tokenize source).tokens = listing (tokenize other).tokens ↔
      ((tokenize source).tokens == (tokenize other).tokens) = true := by
  rw [beq_iff_map_identity]
  constructor
  · intro same
    -- The bytes of a listing are those of its characters alone.
    have characters :
        Token.lines (tokenize source).tokens = Token.lines (tokenize other).tokens := by
      have decoded := congrArg Utf8.decodeLossy same
      rwa [listing, listing, Utf8.decodeLossy_encode, Utf8.decodeLossy_encode] at decoded
    -- Both lists end in a mark, and the tokens in front of the marks are told by their lines.
    obtain ⟨left, tokens, standing⟩ := Scan.exists_standing source.toList
    obtain ⟨right, tokensToo, standingToo⟩ := Scan.exists_standing other.toList
    rw [tokenize, tokenize, tokens, tokensToo] at characters ⊢
    rw [List.map_append, List.map_append,
      Token.map_identity_eq_of_lines standing standingToo characters]
    rfl
  · intro same
    exact congrArg Utf8.encode (Token.lines_eq_of_map_identity same)

/--
A listing determines the tokens.

What two sessions with room for all of it add to their listings is the same exactly when the tokens
of the two texts count as the same.
-/
theorem added_eq_iff {left right : Session} (unlimited : left.out.settings.budget = none)
    (unlimitedToo : right.out.settings.budget = none) (lists : left.quiet = false)
    (listsToo : right.quiet = false) (source other : String) :
    left.added source = right.added other ↔
      ((tokenize source).tokens == (tokenize other).tokens) = true := by
  rw [added_eq unlimited lists, added_eq unlimitedToo listsToo]
  exact listing_eq_iff source other

/-- A string may hold the line of a mark, and a quote that a prefix takes in. -/
theorem added_eq_iff_forged :
    let left : Session := { reporter := .collecting [] }
    let right : Session := { out := { received := [0x3E] }, reporter := .collecting [] }
    let source := "\"\n<\tEOF  null\n\u0600\"\" ;"
    let other := " // \"\n\"\n<\tEOF  null\n\u0600\"\"\r;"
    left.out.settings.budget = none ∧ right.out.settings.budget = none ∧
      left.quiet = false ∧ right.quiet = false ∧
      (left.added source = right.added other ↔
        ((tokenize source).tokens == (tokenize other).tokens) = true) ∧
      left.added source = right.added other := by
  intro left right source other
  have same : left.added source = right.added other ↔
      ((tokenize source).tokens == (tokenize other).tokens) = true :=
    added_eq_iff rfl rfl rfl rfl source other
  -- The tokens are on other lines in the second text, which no listing shows.
  have alike : ((tokenize source).tokens == (tokenize other).tokens) = true := by
    unfold source other
    decide +kernel
  exact ⟨rfl, rfl, rfl, rfl, same, same.mpr alike⟩

end Session

end LoxTokens
