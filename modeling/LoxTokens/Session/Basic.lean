import LoxTokens.Output.Reporter
import LoxTokens.Scan

/-! A session: programs go in, listings of their tokens and reports of their faults come out. -/

namespace LoxTokens

/-- How a run of the command ends. -/
inductive Outcome
  | success
  /-- The arguments make no sense. -/
  | misuse
  /-- The script has faults. -/
  | faulty
  /-- Something could not be read or written. -/
  | broken
  deriving DecidableEq, Repr

/-- The exit code of an outcome. -/
def Outcome.code : Outcome → Nat
  | .success => 0
  | .misuse => 64
  | .faulty => 65
  | .broken => 74

/-- Why a session ends early. -/
inductive SessionError
  /-- The script at a path could not be read. -/
  | unreadable (path : String) (cause : Failure)
  /-- Input could not be read, or a listing not be written. -/
  | console (cause : Failure)
  deriving DecidableEq, Repr

namespace SessionError

/-- What went wrong below. -/
def cause : SessionError → Failure
  | unreadable _ cause => cause
  | console cause => cause

/-- The wording of an error. -/
def message : SessionError → String
  | unreadable path cause => "could not read " ++ path ++ ": " ++ cause.message
  | console cause => "console I/O failed: " ++ cause.message

end SessionError

/-- Where the listings and the reports of a session go, and whether there are listings at all. -/
structure Session where
  out : Sink := {}
  reporter : Reporter
  quiet : Bool := false

namespace Session

/-- The session after some bytes were put out and flushed, and what failed first. -/
def put (session : Session) (bytes : List UInt8) : Option Failure × Session :=
  let (failure, out) := session.out.put bytes
  (failure, { session with out })

/-- The bytes of a listing, one line for each token. -/
def listing (tokens : List Token) : List UInt8 :=
  Utf8.encode (tokens.flatMap (·.listingLine.toList))

/-- The bytes a session puts out for some tokens. -/
def listed (session : Session) (tokens : List Token) : List UInt8 :=
  if session.quiet then [] else listing tokens

/-- The session after a program, with the number of its tokens; reports go out in any case. -/
def run (session : Session) (source : List Char) : Except Failure Nat × Session :=
  let scan := Scan.ofText source
  let (failure, after) := session.put (session.listed scan.tokens)
  let reporter := (session.reporter.report scan.diagnostics).flush
  let result := match failure with
    | some failure => .error failure
    | none => .ok scan.tokens.length
  (result, { after with reporter })

/-- The session without its memory of faults. -/
def reset (session : Session) : Session := { session with reporter := session.reporter.reset }

/-- The session after the script at a path, given what reading it gave. -/
def runScript (session : Session) (path : String) (content : Except Failure (List UInt8)) :
    Except SessionError Outcome × Session :=
  match content with
  | .error cause => (.error (.unreadable path cause), session)
  | .ok bytes =>
    match session.run (Utf8.decodeLossy bytes) with
    | (.error cause, after) => (.error (.console cause), after)
    | (.ok _, after) => (.ok (if after.reporter.hadError then .faulty else .success), after)

end Session

end LoxTokens
