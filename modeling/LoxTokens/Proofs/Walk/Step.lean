import LoxTokens.Proofs.Binary64.Reader
import LoxTokens.Proofs.Token.WellFormed
import LoxTokens.Proofs.Walk.Cursor

/-! A walk over a source, one grapheme at a time, which slices its lexemes out of the source. -/

namespace LoxTokens

/-- What was found first, and what was found after it. -/
def Scan.followedBy (earlier later : Scan) : Scan :=
  ⟨earlier.tokens ++ later.tokens, earlier.diagnostics ++ later.diagnostics⟩

/-- Finding nothing more leaves what was found. -/
@[simp] theorem Scan.followedBy_nothing (scan : Scan) : scan.followedBy ⟨[], []⟩ = scan := by
  simp [followedBy]

/-- What is found in three parts is found in any order of putting them together. -/
theorem Scan.followedBy_assoc (first second third : Scan) :
    (first.followedBy second).followedBy third = first.followedBy (second.followedBy third) := by
  simp [followedBy]

/-- What a walk is in the middle of. -/
inductive Stage
  /-- Passing over what is part of no lexeme. -/
  | between
  /-- Passing over a comment, up to the newline that ends it. -/
  | comment
  /-- About to take the first grapheme of a lexeme, or to find that there is none. -/
  | opening
  | operator (alone paired : Kind)
  | string
  /-- Taking digits that no point stands in front of. -/
  | whole
  | fraction
  | word
  /-- All graphemes of a lexeme are taken, and its token is to be made. -/
  | complete (kind : Kind)
  | fault (grapheme : Grapheme)
  /-- The mark at the end was handed out, and there is nothing else. -/
  | ended

/-- What the first grapheme of a lexeme starts. -/
def Stage.opened : Grapheme → Stage
  | [c] =>
    match c with
    | '(' => .complete .leftParen
    | ')' => .complete .rightParen
    | '{' => .complete .leftBrace
    | '}' => .complete .rightBrace
    | ';' => .complete .semicolon
    | ',' => .complete .comma
    | '.' => .complete .dot
    | '-' => .complete .minus
    | '+' => .complete .plus
    | '*' => .complete .star
    -- The slashes of comments are passed over before a lexeme is in hand.
    | '/' => .complete .slash
    | '!' => .operator .bang .bangEqual
    | '=' => .operator .equal .equalEqual
    | '<' => .operator .less .lessEqual
    | '>' => .operator .greater .greaterEqual
    | '"' => .string
    | c =>
      if c.isDigit then .whole
      else if Piece.startsWord c then .word
      else .fault [c]
  | grapheme => .fault grapheme

/-- The kind of a lexeme: one that was taken for a name may be a reserved word. -/
def Kind.settled (kind : Kind) (lexeme : List Char) : Kind :=
  match kind with
  | .identifier => .ofWord (String.ofList lexeme)
  | kind => kind

/-- Whatever a name turns out to be, it has no value. -/
theorem Kind.hasLiteral_settled {kind : Kind} (notString : kind ≠ .string)
    (notNumber : kind ≠ .number) (lexeme : List Char) :
    (kind.settled lexeme).hasLiteral = false := by
  cases kind with
  | identifier => exact Kind.hasLiteral_ofWord _
  | string | number => contradiction
  | _ => rfl

namespace Cursor

/-- Whether there is a next grapheme that satisfies a test. -/
def sees (cursor : Cursor) (test : Grapheme → Bool) : Bool := cursor.peek.any test

/-- Whether there is one after it that satisfies a test. -/
def seesNext (cursor : Cursor) (test : Grapheme → Bool) : Bool := cursor.peekNext.any test

/--
The token of the lexeme in hand.

There is none if the lexeme is no slice of the source, if what stands between its quotes is no slice
of the lexeme, or if a number cannot be read from it.
-/
def token? (cursor : Cursor) (kind : Kind) : Option Token := do
  let lexeme ← cursor.lexeme?
  let token : Token := ⟨kind.settled lexeme, String.ofList lexeme, .absent, cursor.startLine⟩
  match kind with
  | .string =>
    let contents ← Utf8.slice? lexeme 1 (Utf8.byteLength lexeme - 1)
    some { token with literal := .string (String.ofList contents) }
  | .number =>
    let value ← Binary64.read? (String.ofList lexeme)
    some { token with literal := .number value }
  | _ => some token

/-- What stands between the quotes of a lexeme is a slice of it. -/
theorem slice?_quoted (contents : List Char) :
    Utf8.slice? ('"' :: (contents ++ ['"'])) 1
      (Utf8.byteLength ('"' :: (contents ++ ['"'])) - 1) = some contents := by
  -- Both quotes take one byte.
  have quote : Utf8.byteLength ['"'] = 1 := Utf8.byteLength_cons_ascii (by decide) []
  have last : Utf8.byteLength ('"' :: (contents ++ ['"'])) - 1 = 1 + Utf8.byteLength contents := by
    rw [Utf8.byteLength_cons_ascii (by decide), Utf8.byteLength_append, quote]
    omega
  have slice := Utf8.slice?_append ['"'] contents ['"']
  rwa [quote, List.singleton_append, ← last] at slice

section

variable {cursor : Cursor} {text : List Char} {passed taken later : List Grapheme}

/-- What the cursor sees is a test of the first grapheme to come. -/
theorem At.sees (stands : cursor.At text passed taken later) (test : Grapheme → Bool) :
    cursor.sees test = later.head?.any test := by
  rw [Cursor.sees, stands.peek]

/-- What it sees behind that is a test of the second one. -/
theorem At.seesNext (stands : cursor.At text passed taken later) (test : Grapheme → Bool) :
    cursor.seesNext test = later.tail.head?.any test := by
  rw [Cursor.seesNext, stands.peekNext]

/-- What a rule cuts off as a token can be made into that token. -/
theorem At.token?_eq {kind : Kind} (stands : cursor.At text passed taken later)
    (cut : Piece.Cuts (.token (kind.settled taken.flatten)) taken later) :
    cursor.token? kind =
      some (.ofLexeme (kind.settled taken.flatten) taken.flatten cursor.startLine) := by
  -- The lexeme is a slice of the source, whatever its kind.
  have lexeme := Piece.lexeme_of_cuts cut
  simp only [token?, stands.lexeme?, Option.bind_eq_bind, Option.bind_some]
  split
  · obtain ⟨body, rfl, _⟩ := Piece.eq_of_cuts_string cut
    have flat : (['"'] :: (body ++ [['"']])).flatten = '"' :: (body.flatten ++ ['"']) := by simp
    rw [flat, slice?_quoted]
    simp [Kind.settled, Token.ofLexeme, Literal.ofQuoted]
  · obtain ⟨value, numeral, literal⟩ := (lexeme.wellFormed cursor.startLine).number rfl
    simp only [Token.ofLexeme, Kind.settled, String.toList_ofList] at numeral literal
    rw [Binary64.read?_numeral numeral, Option.bind_some, ← literal]
    rfl
  · -- All other kinds have no value.
    rename_i notString notNumber
    rw [Token.ofLexeme_absent (Kind.hasLiteral_settled notString notNumber _)]

end

end Cursor

/-- A walk over a source: where it has come to, what it is in the middle of, what it has found. -/
structure Walk where
  cursor : Cursor
  stage : Stage
  found : Scan

namespace Walk

/-- The walk at the start of a text, unless its clusters could not be cut. -/
def ofText? (text : List Char) : Option Walk :=
  (Cursor.ofText? text).map fun cursor => ⟨cursor, .between, ⟨[], []⟩⟩

/-- Whether a grapheme is passed over without ending a line. -/
def isBlank : Grapheme → Bool
  | [c] => Piece.isBlank c
  | _ => false

/-- The walk with a token more, back between lexemes. -/
def addToken (walk : Walk) (token : Token) : Walk :=
  ⟨walk.cursor, .between, walk.found.followedBy ⟨[token], []⟩⟩

/-- The walk with a diagnostic more, back between lexemes. -/
def addDiagnostic (walk : Walk) (fault : Fault) : Walk :=
  ⟨walk.cursor, .between, walk.found.followedBy ⟨[], [⟨walk.cursor.line, fault⟩]⟩⟩

/--
The walk one step on: at most one grapheme is taken, and at most one token or diagnostic is made.

There is no such step if a token cannot be made. A walk that has ended stays as it is.
-/
def step? (walk : Walk) : Option Walk :=
  let ⟨cursor, stage, found⟩ := walk
  match stage with
  | .between =>
    if cursor.sees (Piece.isJust '\n') then some ⟨cursor.advance 1, .between, found⟩
    else if cursor.sees isBlank then some ⟨cursor.advance 0, .between, found⟩
    else if cursor.sees (Piece.isJust '/') && cursor.seesNext (Piece.isJust '/') then
      some ⟨cursor, .comment, found⟩
    else some ⟨cursor.resync, .opening, found⟩
  | .comment =>
    if cursor.sees (!Piece.isJust '\n' ·) then some ⟨cursor.advance 0, .comment, found⟩
    else some ⟨cursor, .between, found⟩
  | .opening =>
    match cursor.peek with
    | some grapheme => some ⟨cursor.advance 0, .opened grapheme, found⟩
    | none =>
      if cursor.finished then some ⟨cursor, .ended, found⟩
      else some (addToken ⟨cursor.finish, stage, found⟩ (.endOfInput cursor.line))
  | .operator alone paired =>
    if cursor.sees (Piece.isJust '=') then some ⟨cursor.advance 0, .complete paired, found⟩
    else some ⟨cursor, .complete alone, found⟩
  | .string =>
    if cursor.sees (Piece.isJust '\n') then some ⟨cursor.advance 1, .string, found⟩
    else if cursor.sees (!Piece.isJust '"' ·) then some ⟨cursor.advance 0, .string, found⟩
    else if cursor.sees (Piece.isJust '"') then
      some ⟨cursor.advance 0, .complete .string, found⟩
    else some (walk.addDiagnostic .unterminatedString)
  | .whole =>
    if cursor.sees Piece.isDigit then some ⟨cursor.advance 0, .whole, found⟩
    -- A point belongs to the number only when a digit comes right after it.
    else if cursor.sees (Piece.isJust '.') && cursor.seesNext Piece.isDigit then
      some ⟨cursor.advance 0, .fraction, found⟩
    else some ⟨cursor, .complete .number, found⟩
  | .fraction =>
    if cursor.sees Piece.isDigit then some ⟨cursor.advance 0, .fraction, found⟩
    else some ⟨cursor, .complete .number, found⟩
  | .word =>
    if cursor.sees Piece.isWordPart then some ⟨cursor.advance 0, .word, found⟩
    else some ⟨cursor, .complete .identifier, found⟩
  | .complete kind => (cursor.token? kind).map walk.addToken
  | .fault grapheme => some (walk.addDiagnostic (.unexpectedCharacter (String.ofList grapheme)))
  | .ended => some walk

end Walk

end LoxTokens
