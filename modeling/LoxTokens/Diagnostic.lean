/-! Faults in a source text and the messages that report them. -/

namespace LoxTokens

/-- What is wrong with a piece of source text. -/
inductive Fault
  /-- A quote was opened and the text ended before it was closed. -/
  | unterminatedString
  /-- A user-perceived character that starts no lexeme. -/
  | unexpectedCharacter (grapheme : String)
  deriving DecidableEq, Repr

/-- The wording of a fault. -/
def Fault.message : Fault → String
  | .unterminatedString => "Unterminated string."
  | .unexpectedCharacter grapheme => "Unexpected character '" ++ grapheme ++ "'."

/-- A fault and the line it was found on. -/
structure Diagnostic where
  line : Nat
  fault : Fault
  deriving DecidableEq, Repr

namespace Diagnostic

/-- The wording of the fault, without the line. -/
def message (diagnostic : Diagnostic) : String := diagnostic.fault.message

/-- The report of a diagnostic under a given label. -/
def labelled (label : String) (diagnostic : Diagnostic) : String :=
  "[line: " ++ Nat.repr diagnostic.line ++ "] " ++ label ++ ": " ++ diagnostic.message

/-- The plain report of a diagnostic. -/
def text (diagnostic : Diagnostic) : String := diagnostic.labelled "Error"

end Diagnostic

end LoxTokens
