import LoxTokens.Diagnostic
import LoxTokens.Piece
import LoxTokens.Token.Basic

/-! Scanning a source text: the tokens it holds and the diagnostics it earns. -/

namespace LoxTokens

/-- What a source text comes to. -/
@[ext] structure Scan where
  tokens : List Token
  diagnostics : List Diagnostic

namespace Scan

/-- A scan that starts with one more token. -/
def addToken (token : Token) (scan : Scan) : Scan := { scan with tokens := token :: scan.tokens }

/-- A scan that starts with one more diagnostic. -/
def addDiagnostic (line : Nat) (fault : Fault) (scan : Scan) : Scan :=
  { scan with diagnostics := ⟨line, fault⟩ :: scan.diagnostics }

/-- How many lines a stretch of text ends. -/
def newlines (text : List Char) : Nat := text.count '\n'

/--
What a list of pieces comes to when the first one starts on a given line.

A token or an unexpected character is on the line it starts on, and an unterminated string is
reported where the text ends.
-/
def ofPieces (line : Nat) : List Piece → Scan
  | [] => ⟨[.endOfInput line], []⟩
  | ⟨role, text⟩ :: later =>
    let next := line + newlines text
    let rest := ofPieces next later
    match role with
    | .token kind => rest.addToken (.ofLexeme kind text line)
    | .unexpected => rest.addDiagnostic line (.unexpectedCharacter (String.ofList text))
    | .unterminated => rest.addDiagnostic next .unterminatedString
    | .blank | .newline | .comment => rest

/-- What a text comes to, starting on its first line. -/
def ofText (text : List Char) : Scan := ofPieces 1 (Piece.ofText text)

end Scan

/-- The tokens and diagnostics of a source text. -/
def tokenize (source : String) : Scan := .ofText source.toList

end LoxTokens
