import LoxTokens.Command.Basic

/-! The command on the console: arguments, files and standard streams around a session. -/

namespace LoxTokens.Console

/-- Writes bytes to a stream and flushes it. -/
def send (stream : IO.FS.Stream) (bytes : List UInt8) : IO Unit := do
  stream.write ⟨bytes.toArray⟩
  stream.flush

/-- Reads bytes up to and including the next line end, or up to the end of the input. -/
partial def readLine (stream : IO.FS.Stream) (line : Array UInt8 := #[]) : IO (List UInt8) := do
  let next ← stream.read 1
  match next.data[0]? with
  | none => return line.toList
  | some byte =>
    if byte = Input.lineEnd then return (line.push byte).toList
    else readLine stream (line.push byte)

/-- The number the system gives an error, which may arrive with its sign turned. -/
def numberOf (code : UInt32) : Nat := min code.toNat (0 - code).toNat

/-- The cause of an error that the system reports. -/
def causeOf : IO.Error → Failure
  | .noFileOrDirectory .. => .notFound
  | .inappropriateType _ code _ => if numberOf code = 20 then .notDirectory else .isDirectory
  | .permissionDenied .. => .other "Permission denied (os error 13)"
  | .resourceExhausted _ code words =>
    if numberOf code = 28 then .other "No space left on device (os error 28)" else .other words
  | .resourceVanished .. => .other "Broken pipe (os error 32)"
  | .invalidArgument _ code words => if numberOf code = 36 then .nameTooLong else .other words
  | error => .other (toString error)

/-- What reading a file gives. -/
def readFile (path : String) : IO (Except Failure (List UInt8)) := do
  try
    let content ← IO.FS.readBinFile path
    return .ok content.toList
  catch error => return .error (causeOf error)

/-- Sends on what was put out, and what was reported even if that cannot be. -/
def emit (output errors : List UInt8) : IO Unit := do
  try send (← IO.getStdout) output
  finally send (← IO.getStderr) errors

/-- Tells of an error that ended a session. -/
def tell (error : SessionError) : IO Outcome := do
  send (← IO.getStderr) (Command.bytes (Command.errorLine error.message))
  return .broken

/-- Sends on what came of a step of a talk, and gives back the talk without it. -/
def settle (talk : Talk) : IO Talk := do
  emit talk.session.out.received (Command.reports talk.session.reporter)
  return talk.drained

/-- Carries on a talk until it is over or the input ends. -/
partial def converse (talk : Talk) : IO Outcome := do
  match talk with
  | .ended cause _ => tell (.console cause)
  | .asking _ => converse (← settle talk.asked)
  | .waiting _ =>
    let line ← readLine (← IO.getStdin)
    if line.isEmpty then return .success
    converse (← settle (talk.heard line))

/-- The settings that decide about colour. -/
def colourSettings : IO ColourSettings := do
  return {
    force := ← IO.getEnv "CLICOLOR_FORCE"
    off := ← IO.getEnv "NO_COLOR"
    wanted := ← IO.getEnv "CLICOLOR"
    terminal := ← (← IO.getStdout).isTty }

/-- Bytes cut at every zero byte; each part ends in one. -/
def cutAtZeros (bytes : List UInt8) : List (List UInt8) :=
  (bytes.foldr (fun byte parts => match byte, parts with
    | 0, parts => [] :: parts
    | byte, part :: later => (byte :: part) :: later
    | _, [] => []) [])

/--
The arguments as bytes.

The system's own record keeps bytes that are no text; where there is no record, text has to do.
-/
def rawArguments (arguments : List String) : IO (List Argument) := do
  try
    let record ← IO.FS.readBinFile "/proc/self/cmdline"
    let parts := cutAtZeros record.toList
    -- The name of the command comes first.
    return parts.drop (parts.length - arguments.length)
  catch _ => return arguments.map Command.bytes

/-- Carries out a plan; only the prompt does so bit by bit. -/
def carryOut (plan : Plan) : IO Outcome := do
  let colours ← colourSettings
  match plan with
  | .start quiet plain none =>
    converse (.asking (Command.session quiet (colours.allowed && !plain)))
  | plan =>
    let content ← match plan with
      | .start _ _ (some path) => readFile path
      -- No other plan has a file to read.
      | _ => pure (.error .notFound)
    let result := Command.carryOut { read := fun _ => content, colours } plan
    emit result.output result.errors
    return result.outcome

end LoxTokens.Console

/-- The command; whatever goes wrong with the console itself is told of as far as possible. -/
def main (arguments : List String) : IO UInt32 := do
  let outcome ← try
      let arguments ← LoxTokens.Console.rawArguments arguments
      LoxTokens.Console.carryOut (LoxTokens.Plan.ofArguments arguments)
    catch error => LoxTokens.Console.tell (.console (LoxTokens.Console.causeOf error))
  return outcome.code.toUInt32
