import LoxTokens.Command.Basic

/-! The words of listings, reports, prompts and help, spelled out apart from what writes them. -/

namespace LoxTokens

/-- The line for a token: its kind, its lexeme and its value, with a space between each two. -/
def Token.worded (token : Token) : String :=
  "<\t" ++ (token.kind.name ++ " " ++ token.lexeme ++ " " ++ token.literal.text) ++ "\n"

/-- The line for a diagnostic; what stands out is bold and bright red up to a second sequence. -/
def Diagnostic.worded (highlights : Bool) (diagnostic : Diagnostic) : String :=
  "[line: " ++ Nat.repr diagnostic.line ++ "] " ++
    (if highlights then "\x1b[1;91mError\x1b[0m" else "Error") ++ ": " ++
    (match diagnostic.fault with
      | .unterminatedString => "Unterminated string."
      | .unexpectedCharacter grapheme => "Unexpected character '" ++ grapheme ++ "'.") ++ "\n"

/-- The lines for some diagnostics, one after the other. -/
def ReportStream.lines (highlights : Bool) (diagnostics : List Diagnostic) : List UInt8 :=
  Utf8.encode (diagnostics.flatMap fun diagnostic => (diagnostic.worded highlights).toList)

namespace Session

/-- What stands in front of every line of a session at the prompt. -/
def question : List UInt8 := Utf8.encode "> ".toList

/-- The lines for some tokens, one after the other, or nothing in a quiet session. -/
def worded (session : Session) (tokens : List Token) : List UInt8 :=
  if session.quiet then [] else Utf8.encode (tokens.flatMap (·.worded.toList))

/-- A session asks for a line in these words. -/
theorem promptBytes_eq : promptBytes = question := by
  decide

/-- A session lists tokens in these words. -/
theorem listed_eq (session : Session) (tokens : List Token) :
    session.listed tokens = session.worded tokens := rfl

end Session

namespace ReportStream

/-- A stream reports a diagnostic in these words. -/
theorem line_eq (stream : ReportStream) (diagnostic : Diagnostic) :
    stream.line diagnostic = Utf8.encode (diagnostic.worded stream.highlights).toList := by
  obtain ⟨line, fault⟩ := diagnostic
  cases fault <;> rfl

/-- The lines for some diagnostics are those that a stream reports them in. -/
theorem flatMap_line (stream : ReportStream) (diagnostics : List Diagnostic) :
    diagnostics.flatMap stream.line = lines stream.highlights diagnostics := by
  rw [lines, Utf8.encode, List.flatMap_assoc]
  exact congrArg diagnostics.flatMap (funext stream.line_eq)

end ReportStream

namespace Command

/-- The page that tells how to use the command. -/
def page : String := "rlox - tokenize Lox source code

    USAGE:
        rlox [--quiet] [--no-color] [SCRIPT]

    OPTIONS:
        --quiet             Suppress the token listing, only report errors.
        --no-color          Don't highlight errors.

    ARGS:
        SCRIPT              The Lox file to tokenize. Without it, an interactive prompt reads
                            one line at a time until end of input.
"

/-- Help is given in these words. -/
theorem help_eq : help = page := by
  decide +kernel

end Command

end LoxTokens
