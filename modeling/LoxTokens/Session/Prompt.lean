import LoxTokens.Session.Basic

/-! A session at the prompt: every line of the input is a program of its own. -/

namespace LoxTokens

/-- What there is to read, and whether reading fails after it. -/
structure Input where
  bytes : List UInt8 := []
  fails : Bool := false

namespace Input

/-- The byte that ends a line. -/
def lineEnd : UInt8 := 0x0A

/-- Bytes cut after every line end; what follows the last line end is a line of its own. -/
def cut : List UInt8 → List (List UInt8)
  | [] => []
  | byte :: rest =>
    if byte = lineEnd then [byte] :: cut rest
    else match cut rest with
      | [] => [[byte]]
      | line :: later => (byte :: line) :: later

/-- The lines that can be read; an unfinished one is lost when reading fails. -/
def lines (input : Input) : List (List UInt8) :=
  let all := cut input.bytes
  if input.fails then all.filter (·.contains lineEnd) else all

/-- What reading on gives after the last line. -/
def failure? (input : Input) : Option Failure :=
  if input.fails then some .inputFailed else none

end Input

namespace Session

/-- What asks for the next line. -/
def promptBytes : List UInt8 := Utf8.encode ['>', ' ']

/-- A line without the carriage returns and line feeds at its end. -/
def stripLineEnd (line : List Char) : List Char :=
  (line.reverse.dropWhile fun c => c = '\n' || c = '\r').reverse

/-- The session after a line, whose faults are forgotten once it has been listed. -/
def answer (session : Session) (line : List UInt8) : Option Failure × Session :=
  match Utf8.decode? line with
  | none => (some .notText, session)
  | some text =>
    match session.run (stripLineEnd text) with
    | (.error failure, after) => (some failure, after)
    | (.ok _, after) => (none, after.reset)

/-- The session after some lines, each asked for, and what failed first. -/
def answerAll (ending : Option Failure) : List (List UInt8) → Session → Option Failure × Session
  | [], session =>
    let (failure, asked) := session.put promptBytes
    (failure <|> ending, asked)
  | line :: later, session =>
    match session.put promptBytes with
    | (some failure, asked) => (some failure, asked)
    | (none, asked) =>
      match asked.answer line with
      | (some failure, after) => (some failure, after)
      | (none, after) => answerAll ending later after

/-- The session after all of an input. -/
def runPrompt (session : Session) (input : Input) : Except SessionError Unit × Session :=
  match answerAll input.failure? input.lines session with
  | (some failure, after) => (.error (.console failure), after)
  | (none, after) => (.ok (), after)

/-- The session once all that it put out and reported was sent on to somewhere else. -/
def drained (session : Session) : Session :=
  { session with out.received := [], reporter := session.reporter.drained }

end Session

/-- Where a session at the prompt stands while its lines come in one by one. -/
inductive Talk
  /-- The next line is to be asked for. -/
  | asking (session : Session)
  /-- The next line has been asked for, and has not come in. -/
  | waiting (session : Session)
  | ended (failure : Failure) (session : Session)

namespace Talk

/-- The session that a talk is about. -/
def session : Talk → Session
  | asking session | waiting session | ended _ session => session

/-- The talk after its next line was asked for, if that was to be done. -/
def asked : Talk → Talk
  | asking session =>
    match session.put Session.promptBytes with
    | (some failure, after) => ended failure after
    | (none, after) => waiting after
  | talk => talk

/-- The talk after a line came in, if it waited for one. -/
def heard (line : List UInt8) : Talk → Talk
  | waiting session =>
    match session.answer line with
    | (some failure, after) => ended failure after
    | (none, after) => asking after
  | talk => talk

/-- The talk once all that its session put out and reported was sent on to somewhere else. -/
def drained : Talk → Talk
  | asking session => asking session.drained
  | waiting session => waiting session.drained
  | ended failure session => ended failure session.drained

end Talk

end LoxTokens
