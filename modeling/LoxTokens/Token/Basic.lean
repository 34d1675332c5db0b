import LoxTokens.Token.Kind
import LoxTokens.Token.Literal

/-! Tokens, when they count as the same, and how a listing shows them. -/

namespace LoxTokens

/-- A lexeme with its kind, its value and the line it starts on. -/
structure Token where
  kind : Kind
  lexeme : String
  literal : Literal
  line : Nat
  deriving Repr

namespace Token

/-- The parts of a token that tell it from others; the line is not one of them. -/
def identity (token : Token) : Kind × String × Literal :=
  (token.kind, token.lexeme, token.literal)

instance : BEq Token := ⟨fun left right => left.identity == right.identity⟩

/-- A token feeds its kind, its lexeme and its value to a hasher. -/
def fed (token : Token) : List Fed :=
  .position (Kind.all.idxOf token.kind) :: .text token.lexeme :: token.literal.fed

instance : Hashable Token := ⟨fun token => hash token.fed⟩

/-- Two tokens count as the same exactly when they share an identity. -/
theorem beq_iff_identity {left right : Token} :
    (left == right) = true ↔ left.identity = right.identity := by
  change (left.identity == right.identity) = true ↔ _
  exact beq_iff_eq

/-- The token of a lexeme, whose kind says what its value is. -/
def ofLexeme (kind : Kind) (lexeme : List Char) (line : Nat) : Token where
  kind := kind
  lexeme := String.ofList lexeme
  literal := match kind with
    | .number => .ofNumeral lexeme
    | .string => .ofQuoted lexeme
    | _ => .absent
  line := line

/-- The mark after the last lexeme, which has no text. -/
def endOfInput (line : Nat) : Token := ⟨.endOfInput, "", .absent, line⟩

/-- A token written out: kind, lexeme and value. -/
def text (token : Token) : String :=
  token.kind.name ++ " " ++ token.lexeme ++ " " ++ token.literal.text

/-- The line of a listing that shows a token. -/
def listingLine (token : Token) : String := "<\t" ++ token.text ++ "\n"

end Token

end LoxTokens
