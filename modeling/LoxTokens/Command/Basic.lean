import LoxTokens.Command.Arguments
import LoxTokens.Command.Colour
import LoxTokens.Session.Prompt
import LoxTokens.Workspace

/-! The command as a whole: from arguments, files and input to output and an outcome. -/

namespace LoxTokens.Command

/-- How to use the command, in one line. -/
def usage : String := "Usage: rlox [--quiet] [--no-color] [SCRIPT]"

/-- How to use the command, in full. -/
def help : String :=
  String.intercalate "\n" [
    "rlox - tokenize Lox source code",
    "",
    "    USAGE:",
    "        rlox [--quiet] [--no-color] [SCRIPT]",
    "",
    "    OPTIONS:",
    "        --quiet             Suppress the token listing, only report errors.",
    "        --no-color          Don't highlight errors.",
    "",
    "    ARGS:",
    "        SCRIPT              The Lox file to tokenize. Without it, an interactive prompt reads",
    "                            one line at a time until end of input.",
    ""]

/-- What a run of the command leaves behind. -/
structure Result where
  outcome : Outcome
  output : List UInt8
  errors : List UInt8

/-- What surrounds a run of the command. -/
structure Surroundings where
  /-- The content of the file at a path, or why it cannot be read. -/
  read : String → Except Failure (List UInt8)
  input : Input := {}
  colours : ColourSettings := {}

/-- A text as bytes. -/
def bytes (text : String) : List UInt8 := Utf8.encode text.toList

/-- The line that tells of an error. -/
def errorLine (message : String) : String := "Error: " ++ message ++ ".\n"

/-- What is said about a misuse. -/
def misuseText (misuse : Misuse) : String := errorLine misuse.message ++ usage ++ "\n"

/-- A session whose reports go to a stream. -/
def session (quiet coloured : Bool) : Session where
  reporter := .streaming { highlights := coloured }
  quiet := quiet

/-- What the sink of a reporter took, if it has one. -/
def reports : Reporter → List UInt8
  | .streaming stream => stream.sink.received
  | _ => []

/-- What a session leaves behind when it ends. -/
def finish : Except SessionError Outcome × Session → Result
  | (.ok outcome, session) => ⟨outcome, session.out.received, reports session.reporter⟩
  | (.error error, session) =>
    ⟨.broken, session.out.received, reports session.reporter ++ bytes (errorLine error.message)⟩

/-- Carries out a plan. -/
def carryOut (around : Surroundings) : Plan → Result
  | .help => ⟨.success, bytes help, []⟩
  | .misuse misuse => ⟨.misuse, [], bytes (misuseText misuse)⟩
  | .start quiet plain script =>
    let start := session quiet (around.colours.allowed && !plain)
    match script with
    | some path => finish (start.runScript path (around.read path))
    | none =>
      let (result, after) := start.runPrompt around.input
      finish (result.map fun _ => .success, after)

/-- Runs the command, whatever surrounds it. -/
def runIn (around : Surroundings) (arguments : List Argument) : Result :=
  carryOut around (Plan.ofArguments arguments)

/-- What surrounds a run of the command that has a workspace to itself. -/
structure Sandbox where
  workspace : Workspace := {}
  input : Input := {}
  colours : ColourSettings := {}

/-- Runs the command where it can read the files of a workspace and no others. -/
def run (around : Sandbox) (arguments : List Argument) : Result :=
  runIn ⟨around.workspace.read, around.input, around.colours⟩ arguments

end LoxTokens.Command
