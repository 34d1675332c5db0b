import LoxTokens.Grapheme
import LoxTokens.Token.Kind

/-! Dividing a source text into pieces, each a lexeme, a fault, or something to pass over. -/

namespace LoxTokens

/-- What a piece of source text is. -/
inductive Role
  | token (kind : Kind)
  | unexpected
  | unterminated
  | blank
  | newline
  | comment
  deriving DecidableEq, Repr

/-- A stretch of source text and what it is. -/
structure Piece where
  role : Role
  text : List Char
  deriving DecidableEq, Repr

namespace Piece

/-- Whether a grapheme is one given character and nothing else. -/
def isJust (c : Char) (grapheme : Grapheme) : Bool := grapheme = [c]

/-- Whether a grapheme is a single ASCII digit. -/
def isDigit : Grapheme → Bool
  | [c] => c.isDigit
  | _ => false

/-- Whether a character can start a word. -/
def startsWord (c : Char) : Bool := c.isAlpha || c = '_'

/-- Whether a grapheme is a single character that can go on in a word. -/
def isWordPart : Grapheme → Bool
  | [c] => c.isAlphanum || c = '_'
  | _ => false

/-- How many of the first graphemes satisfy a test. -/
def run (test : Grapheme → Bool) (rest : List Grapheme) : Nat := (rest.takeWhile test).length

/-- How many graphemes go on with a number after its first digit. -/
def numberTail (rest : List Grapheme) : Nat :=
  let whole := run isDigit rest
  match rest.drop whole with
  | point :: more =>
    -- A point belongs to the number only when a digit comes right after it.
    let fraction := run isDigit more
    if isJust '.' point && 0 < fraction then whole + 1 + fraction else whole
  | [] => whole

/-- A string goes on through the next quote, and is unterminated when there is none. -/
def stringTail (rest : List Grapheme) : Role × Nat :=
  let contents := run (!isJust '"' ·) rest
  match rest.drop contents with
  | [] => (.unterminated, contents)
  | _ :: _ => (.token .string, contents + 1)

/-- An operator that an equals sign right after it turns into another one. -/
def operatorTail (alone paired : Kind) (rest : List Grapheme) : Role × Nat :=
  if rest.head?.any (isJust '=') then (.token paired, 1) else (.token alone, 0)

/-- A second slash makes a comment of the rest of the line. -/
def slashTail (rest : List Grapheme) : Role × Nat :=
  if rest.head?.any (isJust '/') then (.comment, run (!isJust '\n' ·) rest)
  else (.token .slash, 0)

/-- A word goes on as long as it can, and may turn out to be reserved. -/
def wordTail (first : Char) (rest : List Grapheme) : Role × Nat :=
  let length := run isWordPart rest
  (.token (.ofWord (String.ofList (first :: (rest.take length).flatten))), length)

/-- What starts with a single character, and how many of the graphemes after it belong to it. -/
def startingWith (first : Char) (rest : List Grapheme) : Role × Nat :=
  match first with
  | '(' => (.token .leftParen, 0)
  | ')' => (.token .rightParen, 0)
  | '{' => (.token .leftBrace, 0)
  | '}' => (.token .rightBrace, 0)
  | ';' => (.token .semicolon, 0)
  | ',' => (.token .comma, 0)
  | '.' => (.token .dot, 0)
  | '-' => (.token .minus, 0)
  | '+' => (.token .plus, 0)
  | '*' => (.token .star, 0)
  | '!' => operatorTail .bang .bangEqual rest
  | '=' => operatorTail .equal .equalEqual rest
  | '<' => operatorTail .less .lessEqual rest
  | '>' => operatorTail .greater .greaterEqual rest
  | '/' => slashTail rest
  | '"' => stringTail rest
  | ' ' | '\t' | '\r' => (.blank, 0)
  | '\n' => (.newline, 0)
  | c =>
    if c.isDigit then (.token .number, numberTail rest)
    else if startsWord c then wordTail c rest
    else (.unexpected, 0)

/-- What starts with a grapheme, and how many of the graphemes after it belong to it. -/
def starting : Grapheme → List Grapheme → Role × Nat
  | [c], rest => startingWith c rest
  | _, _ => (.unexpected, 0)

/-- The pieces of a list of graphemes, in order. -/
def divide : List Grapheme → List Piece
  | [] => []
  | first :: rest =>
    let (role, length) := starting first rest
    ⟨role, first ++ (rest.take length).flatten⟩ :: divide (rest.drop length)
termination_by graphemes => graphemes.length
decreasing_by simp only [List.length_drop, List.length_cons]; omega

/-- The pieces of a source text. -/
def ofText (text : List Char) : List Piece := divide (graphemes text)

/-- Dividing keeps every character: the texts of the pieces, in order, are the graphemes. -/
theorem flatMap_text_divide (graphemes : List Grapheme) :
    (divide graphemes).flatMap text = graphemes.flatten := by
  fun_induction divide graphemes with
  | case1 => rfl
  | case2 first rest role length _ ih =>
    -- What a piece takes and what it leaves are the two halves of the rest.
    rw [List.flatMap_cons, ih, List.append_assoc, ← List.flatten_append, List.take_append_drop]
    rfl

/-- The texts of the pieces of a source text, in order, are the source text. -/
theorem flatMap_text_ofText (source : List Char) : (ofText source).flatMap text = source := by
  rw [ofText, flatMap_text_divide, flatten_graphemes]

end Piece

end LoxTokens
