import LoxTokens.Proofs.Command.Operands
import LoxTokens.Proofs.Session.Prompt

/-! What a session at the prompt puts out and reports may be sent on after each of its steps. -/

namespace LoxTokens

namespace Sink

/-- The sink with more bytes in front of all that it took. -/
def preceded (sink : Sink) (before : List UInt8) : Sink :=
  { sink with received := before ++ sink.received }

/-- Bytes come after all that the sink took. -/
theorem write_preceded (sink : Sink) (before bytes : List UInt8) :
    (sink.preceded before).write bytes = (sink.write bytes).preceded before := by
  simp only [write, preceded, taken, List.append_assoc]

/-- What a sink took has no part in what fails. -/
theorem put_preceded (sink : Sink) (before bytes : List UInt8) :
    (sink.preceded before).put bytes =
      ((sink.put bytes).1, (sink.put bytes).2.preceded before) := by
  -- Whether bytes are refused and whether a flush fails is up to the settings.
  have failing : (sink.preceded before).writeFailure? bytes = sink.writeFailure? bytes := rfl
  rw [put, put, write_preceded, failing]
  cases sink.writeFailure? bytes <;> rfl

end Sink

namespace Reporter

/-- The reporter with more bytes in front of all that its sink took, if it has one. -/
def preceded (reporter : Reporter) (before : List UInt8) : Reporter :=
  match reporter with
  | streaming stream => streaming { stream with sink := stream.sink.preceded before }
  | reporter => reporter

/-- The reports on a program come after all that the sink took. -/
theorem told_preceded (reporter : Reporter) (before : List UInt8) (diagnostics : List Diagnostic) :
    (reporter.preceded before).told [.report diagnostics, .flush] =
      (reporter.told [.report diagnostics, .flush]).preceded before := by
  -- Only a stream has a sink, which the flush writes to.
  cases reporter with
  | collecting | silent => rfl
  | streaming stream =>
    let reported := stream.report diagnostics
    have written := stream.sink.write_preceded before reported.pending
    exact congrArg (fun sink => streaming { reported.flush with sink }) written

/-- A reset has nothing to do with what the sink took. -/
theorem reset_preceded (reporter : Reporter) (before : List UInt8) :
    (reporter.preceded before).reset = reporter.reset.preceded before := by
  cases reporter <;> rfl

/-- What a stream reports comes after what stands in front of it. -/
theorem reports_preceded {reporter : Reporter} {before : List UInt8} {stream : ReportStream}
    (streams : reporter.preceded before = streaming stream) :
    Command.reports (reporter.preceded before) = before ++ Command.reports reporter := by
  cases reporter with
  | collecting | silent => cases streams
  | streaming stream => rfl

/-- Once all was sent on, there are no reports left. -/
theorem reports_drained (reporter : Reporter) : Command.reports reporter.drained = [] := by
  cases reporter <;> rfl

/-- A stream stays one, whatever it is told. -/
theorem exists_stream_of_told (stream : ReportStream) (notices : List Notice) :
    ∃ after, (streaming stream).told notices = streaming after := by
  -- The induction is on the notices, none of which changes the form of a reporter.
  induction notices generalizing stream with
  | nil => exact ⟨stream, rfl⟩
  | cons notice later ih => cases notice <;> exact ih _

end Reporter

namespace Session

/-- The session with more bytes in front of all that it put out and reported. -/
def preceded (session : Session) (output errors : List UInt8) : Session :=
  { session with
    out := session.out.preceded output
    reporter := session.reporter.preceded errors }

section Preceded

variable (session : Session) (output errors : List UInt8)

/-- Once all was sent on, it stands in front of what is left. -/
theorem preceded_drained : session.drained.preceded
    (output ++ session.out.received) (errors ++ Command.reports session.reporter) =
      session.preceded output errors := by
  -- Where there is no sink for reports, none were there to be sent on.
  obtain ⟨out, reporter, quiet⟩ := session
  cases reporter <;>
    simp [drained, preceded, Sink.preceded, Reporter.preceded, Reporter.drained, Command.reports]

/-- Bytes are put out in the same way after others. -/
theorem put_preceded (bytes : List UInt8) : (session.preceded output errors).put bytes =
    ((session.put bytes).1, (session.put bytes).2.preceded output errors) := by
  show (((session.out.preceded output).put bytes).1,
    { session.preceded output errors with out := ((session.out.preceded output).put bytes).2 }) = _
  rw [Sink.put_preceded]
  rfl

/-- So is a program run. -/
theorem run_preceded (source : List Char) : (session.preceded output errors).run source =
    ((session.run source).1, (session.run source).2.preceded output errors) := by
  -- The listing comes after the one and the reports come after the other.
  let scan := Scan.ofText source
  have given : (session.preceded output errors).out.put
      ((session.preceded output errors).worded scan.tokens) =
        ((session.out.put (session.worded scan.tokens)).1,
          (session.out.put (session.worded scan.tokens)).2.preceded output) :=
    session.out.put_preceded output _
  have told : (session.preceded output errors).reporter.told [.report scan.diagnostics, .flush] =
      (session.reporter.told [.report scan.diagnostics, .flush]).preceded errors :=
    session.reporter.told_preceded errors scan.diagnostics
  rw [run_eq, run_eq, given, told]
  rfl

/-- So is a line answered. -/
theorem answer_preceded (line : List UInt8) : (session.preceded output errors).answer line =
    ((session.answer line).1, (session.answer line).2.preceded output errors) := by
  rw [answer, answer]
  cases Utf8.decode? line with
  | none => rfl
  | some text =>
    rcases ran : session.run (stripLineEnd text) with ⟨result, after⟩
    simp only [run_preceded, ran]
    cases result with
    | error failure => rfl
    | ok count =>
      -- A line that was listed ends in a reset.
      simp only [reset, preceded, Reporter.reset_preceded]

end Preceded

end Session

namespace Talk

/-- The talk with more bytes in front of all that its session put out and reported. -/
def preceded (output errors : List UInt8) : Talk → Talk
  | asking session => asking (session.preceded output errors)
  | waiting session => waiting (session.preceded output errors)
  | ended failure session => ended failure (session.preceded output errors)

/-- What ended a talk, if it is ended. -/
def failure? : Talk → Option Failure
  | ended failure _ => some failure
  | asking _ | waiting _ => none

/-- The session of a talk stands behind the same bytes as the talk. -/
theorem session_preceded (output errors : List UInt8) (talk : Talk) :
    (talk.preceded output errors).session = talk.session.preceded output errors := by
  cases talk <;> rfl

/-- Sending on what came of a talk is sending on what came of its session. -/
theorem session_drained (talk : Talk) : talk.drained.session = talk.session.drained := by
  cases talk <;> rfl

/-- What ended a talk does not depend on what came before. -/
theorem failure?_preceded (output errors : List UInt8) (talk : Talk) :
    (talk.preceded output errors).failure? = talk.failure? := by
  cases talk <;> rfl

/-- The talk after some lines came in, each asked for, and one more was asked for. -/
def after (lines : List (List UInt8)) (talk : Talk) : Talk :=
  (lines.foldl (fun talk line => talk.asked.heard line) talk).asked

section Preceded

variable (output errors : List UInt8) (talk : Talk)

/-- A line is asked for in the same way after others. -/
theorem asked_preceded :
    (talk.preceded output errors).asked = talk.asked.preceded output errors := by
  cases talk with
  | asking session =>
    rcases prompting : session.put Session.promptBytes with ⟨failure, next⟩
    simp only [preceded, asked, Session.put_preceded, prompting]
    cases failure <;> rfl
  | waiting | ended => rfl

/-- So is a line heard. -/
theorem heard_preceded (line : List UInt8) :
    (talk.preceded output errors).heard line = (talk.heard line).preceded output errors := by
  cases talk with
  | waiting session =>
    rcases answering : session.answer line with ⟨failure, next⟩
    simp only [preceded, heard, Session.answer_preceded, answering]
    cases failure <;> rfl
  | asking | ended => rfl

/-- Once all was sent on, it stands in front of what is left. -/
theorem preceded_drained : talk.drained.preceded (output ++ talk.session.out.received)
    (errors ++ Command.reports talk.session.reporter) = talk.preceded output errors := by
  cases talk with
  | asking session => exact congrArg asking (session.preceded_drained output errors)
  | waiting session => exact congrArg waiting (session.preceded_drained output errors)
  | ended failure session => exact congrArg (ended failure) (session.preceded_drained output errors)

end Preceded

/-- A talk that is over stays as it is. -/
theorem after_ended (lines : List (List UInt8)) (failure : Failure) (session : Session) :
    after lines (ended failure session) = ended failure session := by
  -- It asks for no line and hears none.
  induction lines with
  | nil => rfl
  | cons line later ih => exact ih

/-- After a first line, a talk goes on from there. -/
theorem after_cons (line : List UInt8) (later : List (List UInt8)) (talk : Talk) :
    after (line :: later) talk = after later (talk.asked.heard line) := rfl

/-- A session at the prompt is a talk over its lines. -/
theorem answerAll_eq_after (ending : Option Failure) (lines : List (List UInt8))
    (session : Session) : Session.answerAll ending lines session =
      ((after lines (asking session)).failure? <|> ending,
        (after lines (asking session)).session) := by
  -- A talk that goes on is asking again after each of the lines.
  induction lines generalizing session with
  | nil =>
    rcases prompting : session.put Session.promptBytes with ⟨failure, next⟩
    simp only [Session.answerAll, after, List.foldl_nil, asked, prompting]
    cases failure <;> rfl
  | cons line later ih =>
    rcases prompting : session.put Session.promptBytes with ⟨failure, next⟩
    simp only [Session.answerAll, after_cons, asked, prompting]
    cases failure with
    | some failure =>
      simp only [heard, after_ended]
      rfl
    | none =>
      rcases answering : next.answer line with ⟨failure, answered⟩
      simp only [heard, answering]
      cases failure with
      | some failure =>
        simp only [after_ended]
        rfl
      | none => exact ih answered

end Talk

/-- A talk of which all that came of its steps was sent on, and what that was. -/
structure Sent where
  talk : Talk
  output : List UInt8 := []
  errors : List UInt8 := []

namespace Sent

/-- Sends on what came of the last step. -/
def settled (sent : Sent) : Sent where
  talk := sent.talk.drained
  output := sent.output ++ sent.talk.session.out.received
  errors := sent.errors ++ Command.reports sent.talk.session.reporter

/-- Asks for a line. -/
def asked (sent : Sent) : Sent := { sent with talk := sent.talk.asked }.settled

/-- Takes in a line. -/
def heard (sent : Sent) (line : List UInt8) : Sent :=
  { sent with talk := sent.talk.heard line }.settled

/-- Carries on with some lines, up to and including the prompt after them. -/
def after (lines : List (List UInt8)) (sent : Sent) : Sent :=
  (lines.foldl (fun sent line => sent.asked.heard line) sent).asked

/-- The talk as it would be if nothing of it had been sent on. -/
def whole (sent : Sent) : Talk := sent.talk.preceded sent.output sent.errors

/-- What is left behind when the input ends, or the talk before it. -/
def result (sent : Sent) (ending : Option Failure) : Command.Result :=
  match sent.talk.failure? <|> ending with
  | none => ⟨.success, sent.output, sent.errors⟩
  | some cause => ⟨.broken, sent.output,
      sent.errors ++ Command.bytes (Command.errorLine (SessionError.console cause).message)⟩

/-- Sending on makes no difference to the whole. -/
theorem whole_settled (sent : Sent) : sent.settled.whole = sent.whole :=
  sent.talk.preceded_drained sent.output sent.errors

/-- The whole goes on as a talk does of which nothing is sent on. -/
theorem whole_after (lines : List (List UInt8)) (sent : Sent) :
    (after lines sent).whole = sent.whole.after lines := by
  have asks (sent : Sent) : sent.asked.whole = sent.whole.asked := by
    rw [asked, whole_settled]
    exact (sent.talk.asked_preceded sent.output sent.errors).symm
  have hears (sent : Sent) (line : List UInt8) :
      (sent.heard line).whole = sent.whole.heard line := by
    rw [heard, whole_settled]
    exact (sent.talk.heard_preceded sent.output sent.errors line).symm
  -- The induction is on the lines, each of which is asked for and then heard.
  induction lines generalizing sent with
  | nil => exact asks sent
  | cons line later ih =>
    calc (after (line :: later) sent).whole
        = (sent.asked.heard line).whole.after later := ih (sent.asked.heard line)
      _ = sent.whole.after (line :: later) := by
        rw [hears, asks]
        rfl

/-- Once all was sent on, nothing is left. -/
theorem session_settled (sent : Sent) : sent.settled.talk.session.out.received = [] ∧
    Command.reports sent.settled.talk.session.reporter = [] := by
  show sent.talk.drained.session.out.received = [] ∧
    Command.reports sent.talk.drained.session.reporter = []
  rw [Talk.session_drained]
  exact ⟨rfl, sent.talk.session.reporter.reports_drained⟩

/--
A talk that is sent on step by step comes to what the command leaves behind at its prompt.

This is what the console does with the lines that it reads.
-/
theorem result_after (quiet coloured : Bool) (input : Input) :
    (after input.lines { talk := .asking (Command.session quiet coloured) }).result
      input.failure? = Command.prompted (Command.session quiet coloured) input := by
  let start := Command.session quiet coloured
  let sent := after input.lines { talk := .asking start }
  let last := Talk.after input.lines (.asking start)
  have answered : Session.answerAll input.failure? input.lines start =
      (last.failure? <|> input.failure?, last.session) := Talk.answerAll_eq_after _ _ _
  have ran : (start.runPrompt input).2 = last.session := by
    rw [Session.runPrompt, answered]
    cases last.failure? <|> input.failure? <;> rfl
  -- Nothing was sent on in the beginning, and all has been in the end.
  have whole : sent.talk.preceded sent.output sent.errors = last := whole_after _ _
  have session : sent.talk.session.preceded sent.output sent.errors = last.session := by
    rw [← whole, Talk.session_preceded]
  obtain ⟨unsent, unreported⟩ : sent.talk.session.out.received = [] ∧
      Command.reports sent.talk.session.reporter = [] := session_settled _
  have output : last.session.out.received = sent.output := by
    rw [← session]
    show sent.output ++ sent.talk.session.out.received = sent.output
    rw [unsent, List.append_nil]
  have errors : Command.reports last.session.reporter = sent.errors := by
    -- The reporter is a stream from the beginning, and so it is in the end.
    obtain ⟨stream, streams⟩ : ∃ stream, last.session.reporter = .streaming stream := by
      obtain ⟨lines, unread, reads⟩ := input.exists_reads
      rw [← ran, start.runPrompt_eq reads]
      exact Reporter.exists_stream_of_told _ _
    rw [← session] at streams ⊢
    exact (Reporter.reports_preceded streams).trans (by rw [unreported, List.append_nil])
  have failure : last.failure? = sent.talk.failure? := by
    rw [← whole, Talk.failure?_preceded]
  show sent.result input.failure? = Command.prompted start input
  rw [Command.prompted, Session.runPrompt, answered, result, failure, ← output, ← errors]
  cases sent.talk.failure? <|> input.failure? <;> rfl

end Sent

end LoxTokens
