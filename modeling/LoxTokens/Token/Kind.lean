/-! The kinds of token, their names, and the words that are reserved. -/

namespace LoxTokens

/-- What a lexeme is to the grammar. -/
inductive Kind
  -- Punctuation of one character.
  | leftParen
  | rightParen
  | leftBrace
  | rightBrace
  | comma
  | dot
  | minus
  | plus
  | semicolon
  | slash
  | star
  -- Operators, alone or followed by an equals sign.
  | bang
  | bangEqual
  | equal
  | equalEqual
  | greater
  | greaterEqual
  | less
  | lessEqual
  -- Names and values.
  | identifier
  | string
  | number
  -- Reserved words.
  | andWord
  | classWord
  | elseWord
  | falseWord
  | funWord
  | forWord
  | ifWord
  | nilWord
  | orWord
  | printWord
  | returnWord
  | superWord
  | thisWord
  | trueWord
  | varWord
  | whileWord
  -- The mark after the last lexeme.
  | endOfInput
  deriving DecidableEq, Repr

namespace Kind

/-- Every kind, in the order above. -/
def all : List Kind :=
  [.leftParen, .rightParen, .leftBrace, .rightBrace, .comma, .dot, .minus, .plus, .semicolon,
    .slash, .star, .bang, .bangEqual, .equal, .equalEqual, .greater, .greaterEqual, .less,
    .lessEqual, .identifier, .string, .number, .andWord, .classWord, .elseWord, .falseWord,
    .funWord, .forWord, .ifWord, .nilWord, .orWord, .printWord, .returnWord, .superWord,
    .thisWord, .trueWord, .varWord, .whileWord, .endOfInput]

/-- The name a listing shows. -/
def name : Kind → String
  | .leftParen => "LEFT_PAREN"
  | .rightParen => "RIGHT_PAREN"
  | .leftBrace => "LEFT_BRACE"
  | .rightBrace => "RIGHT_BRACE"
  | .comma => "COMMA"
  | .dot => "DOT"
  | .minus => "MINUS"
  | .plus => "PLUS"
  | .semicolon => "SEMICOLON"
  | .slash => "SLASH"
  | .star => "STAR"
  | .bang => "BANG"
  | .bangEqual => "BANG_EQUAL"
  | .equal => "EQUAL"
  | .equalEqual => "EQUAL_EQUAL"
  | .greater => "GREATER"
  | .greaterEqual => "GREATER_EQUAL"
  | .less => "LESS"
  | .lessEqual => "LESS_EQUAL"
  | .identifier => "IDENTIFIER"
  | .string => "STRING"
  | .number => "NUMBER"
  | .andWord => "AND"
  | .classWord => "CLASS"
  | .elseWord => "ELSE"
  | .falseWord => "FALSE"
  | .funWord => "FUN"
  | .forWord => "FOR"
  | .ifWord => "IF"
  | .nilWord => "NIL"
  | .orWord => "OR"
  | .printWord => "PRINT"
  | .returnWord => "RETURN"
  | .superWord => "SUPER"
  | .thisWord => "THIS"
  | .trueWord => "TRUE"
  | .varWord => "VAR"
  | .whileWord => "WHILE"
  | .endOfInput => "EOF"

/-- The kind with a given name. -/
def ofName? (name : String) : Option Kind := all.find? (·.name = name)

/-- The kind of a reserved word, from its spelling. -/
def ofKeyword? : String → Option Kind
  | "and" => some .andWord
  | "class" => some .classWord
  | "else" => some .elseWord
  | "false" => some .falseWord
  | "for" => some .forWord
  | "fun" => some .funWord
  | "if" => some .ifWord
  | "nil" => some .nilWord
  | "or" => some .orWord
  | "print" => some .printWord
  | "return" => some .returnWord
  | "super" => some .superWord
  | "this" => some .thisWord
  | "true" => some .trueWord
  | "var" => some .varWord
  | "while" => some .whileWord
  | _ => none

/-- The kind of a word: a reserved one, or else a name. -/
def ofWord (word : String) : Kind := (ofKeyword? word).getD .identifier

/-- Whether a kind is a reserved word. -/
def isKeyword : Kind → Bool
  | .andWord | .classWord | .elseWord | .falseWord | .funWord | .forWord | .ifWord => true
  | .nilWord | .orWord | .printWord | .returnWord | .superWord | .thisWord => true
  | .trueWord | .varWord | .whileWord => true
  | _ => false

/-- Whether tokens of a kind carry a value. -/
def hasLiteral : Kind → Bool
  | .number | .string => true
  | _ => false

/-- Every kind is among all of them. -/
theorem mem_all (kind : Kind) : kind ∈ all := by cases kind <;> decide

end Kind

end LoxTokens
