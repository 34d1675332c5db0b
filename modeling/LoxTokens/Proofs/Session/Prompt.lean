import LoxTokens.Proofs.Output.Sink
import LoxTokens.Proofs.Output.Wording
import LoxTokens.Proofs.Session.Input

/-! A session at the prompt: what it puts out, what its reporter is told, and how it ends. -/

namespace LoxTokens

/-- What a reporter can be told. -/
inductive Notice
  | report (diagnostics : List Diagnostic)
  | flush
  | reset
  deriving DecidableEq, Repr

/-- The diagnostics that come with a notice. -/
def Notice.diagnostics : Notice → List Diagnostic
  | report diagnostics => diagnostics
  | flush | reset => []

namespace Reporter

/-- The reporter after it was told one thing. -/
def hear (reporter : Reporter) : Notice → Reporter
  | .report diagnostics => reporter.report diagnostics
  | .flush => reporter.flush
  | .reset => reporter.reset

/-- The reporter after it was told some things, in order. -/
def told (reporter : Reporter) (notices : List Notice) : Reporter := notices.foldl hear reporter

/-- What is told after something else is told to the reporter that heard that. -/
theorem told_append (reporter : Reporter) (earlier later : List Notice) :
    reporter.told (earlier ++ later) = (reporter.told earlier).told later :=
  List.foldl_append

end Reporter

namespace Session

/-- What a line comes to when it is a program of its own. -/
def scanLine (line : List Char) : Scan := Scan.ofText (stripLineEnd line)

/-- What is put out for a line: the prompt for it, and the listing of its tokens. -/
def exchange (session : Session) (line : List Char) : List (List UInt8) :=
  [question, session.worded (scanLine line).tokens]

/-- What is put out for some lines, up to and including the prompt after them. -/
def puts (session : Session) (lines : List (List Char)) : List (List UInt8) :=
  lines.flatMap session.exchange ++ [question]

/-- All that is put out for some lines, one part after the other. -/
def transcript (session : Session) (lines : List (List Char)) : List UInt8 :=
  (session.puts lines).flatten

/-- What the reporter is told about a line after some others. -/
def noticesAfter (session : Session) (earlier : List (List Char)) (line : List Char) :
    List Notice :=
  -- Reports only wait for the prompt in front of the line, and forgetting them for the listing.
  (if session.out.delivers (session.puts earlier) then
    [.report (scanLine line).diagnostics, .flush] else []) ++
  if session.out.delivers (session.puts earlier ++ [session.worded (scanLine line).tokens]) then
    [.reset] else []

/-- What the reporter is told about some lines. -/
def notices (session : Session) (lines : List (List Char)) : List Notice :=
  lines.zipIdx.flatMap fun (line, index) => session.noticesAfter (lines.take index) line

/-- The session after a line that was asked for and answered. -/
def answered (session : Session) (line : List Char) : Session :=
  { session with
    out := (session.out.putAll (session.exchange line)).2
    reporter := session.reporter.told [.report (scanLine line).diagnostics, .flush, .reset] }

section Steps

variable (session : Session)

/-- What is put out for a line and others starts with the exchange for that line. -/
theorem puts_cons (line : List Char) (later : List (List Char)) :
    session.puts (line :: later) = session.exchange line ++ session.puts later := by
  simp [puts]

/-- What is told about a first line. -/
theorem noticesAfter_nil (line : List Char) : session.noticesAfter [] line =
    (if session.out.delivers [question] then [.report (scanLine line).diagnostics, .flush]
      else []) ++
      if session.out.delivers (session.exchange line) then [.reset] else [] := rfl

/-- Where a line is answered, its prompt is put out. -/
theorem delivers_question {line : List Char}
    (whole : session.out.delivers (session.exchange line)) : session.out.delivers [question] := by
  -- The prompt is the first of the two things that are put out.
  have both : session.out.delivers ([question] ++ [session.worded (scanLine line).tokens]) := whole
  exact Sink.delivers_of_append both

/-- What is told about a line after another one is told once that one has been answered. -/
theorem noticesAfter_cons (first : List Char) (earlier : List (List Char)) (line : List Char) :
    session.noticesAfter (first :: earlier) line =
      if session.out.delivers (session.exchange first) then
        (session.answered first).noticesAfter earlier line else [] := by
  -- What comes after the first exchange meets the sink that is left by it.
  simp only [noticesAfter, puts_cons, List.append_assoc, Sink.delivers_append]
  cases session.out.delivers (session.exchange first) <;> rfl

/-- What is told about some lines is what is told about the first one, and then the others. -/
theorem notices_cons (line : List Char) (later : List (List Char)) :
    session.notices (line :: later) = session.noticesAfter [] line ++
      if session.out.delivers (session.exchange line) then (session.answered line).notices later
      else [] := by
  -- Every later line comes after the first one, and before as many others as without it.
  simp only [notices, List.zipIdx_cons, List.zipIdx_succ, List.flatMap_cons, List.flatMap_map,
    List.take_zero, List.take_succ_cons, noticesAfter_cons]
  split <;> simp

/-- The diagnostics of a program are reported whatever becomes of its listing. -/
theorem run_eq (source : List Char) :
    let scan := Scan.ofText source
    let listed := session.out.put (session.worded scan.tokens)
    session.run source =
      ((match listed.1 with
        | some failure => .error failure
        | none => .ok scan.tokens.length),
        { session with
          out := listed.2
          reporter := session.reporter.told [.report scan.diagnostics, .flush] }) := rfl

/-- A line that is no text is not answered. -/
theorem answer_of_not_text {line : List UInt8} (notText : ∀ text, line ≠ Utf8.encode text) :
    session.answer line = (some .notText, session) := by
  cases decoded : Utf8.decode? line with
  | none => simp [answer, decoded]
  | some text => exact absurd (Utf8.decode?_eq_some_iff.mp decoded).symm (notText text)

/-- A line that is a text is answered, and its faults are forgotten if its listing is put out. -/
theorem answer_encode {text : List Char} {failure : Option Failure} {after : Sink}
    (listing : session.out.put (session.worded (scanLine text).tokens) = (failure, after)) :
    let reported := session.reporter.told [.report (scanLine text).diagnostics, .flush]
    session.answer (Utf8.encode text) = (failure, { session with
      out := after
      reporter := if failure.isNone then reported.reset else reported }) := by
  intro reported
  have ran := session.run_eq (stripLineEnd text)
  simp only [scanLine] at listing
  simp only [listing] at ran
  rw [answer, Utf8.decode?_eq_some_iff.mpr rfl]
  simp only [ran]
  -- The reset is the only difference that a failure makes.
  cases failure <;> rfl

/-- The prompt for a line is put out, and then the listing of the line, if nothing fails. -/
theorem answerAll_cons (ending : Option Failure) (text : List Char)
    (later : List (List UInt8)) :
    answerAll ending (Utf8.encode text :: later) session =
      if session.out.delivers (session.exchange text) then
        answerAll ending later (session.answered text)
      else
        ((session.out.putAll (session.exchange text)).1, { session with
          out := (session.out.putAll (session.exchange text)).2
          reporter := session.reporter.told (session.noticesAfter [] text) }) := by
  -- What becomes of the prompt decides whether the line is read at all.
  rcases prompting : session.out.put question with ⟨failure, asked⟩
  rw [answerAll, put, promptBytes_eq, noticesAfter_nil, Sink.delivers_eq, Sink.delivers_eq]
  simp only [answered, exchange, Sink.putAll, prompting]
  cases failure with
  | some failure => rfl
  | none =>
    -- The listing meets the sink that has taken the prompt.
    rcases listing : asked.put (session.worded (scanLine text).tokens) with ⟨failure, after⟩
    have answer := answer_encode { session with out := asked } listing
    simp only [answer, listing]
    cases failure <;> rfl

/-- A session at the prompt, from any line on. -/
theorem answerAll_eq (ending : Option Failure) (texts : List (List Char))
    {unread : List (List UInt8)} (stops : ∀ text, unread.head? ≠ some (Utf8.encode text)) :
    let delivered := session.out.putAll (session.puts texts)
    answerAll ending (texts.map Utf8.encode ++ unread) session =
      (delivered.1 <|> (if unread = [] then ending else some .notText), { session with
        out := delivered.2
        reporter := session.reporter.told (session.notices texts) }) := by
  intro delivered
  -- Every line that is answered leaves a session in the same case as before it.
  induction texts generalizing session with
  | nil =>
    have prompted : delivered = session.out.put question := Sink.putAll_singleton _ _
    rw [prompted]
    rcases prompting : session.out.put question with ⟨failure, asked⟩
    cases unread with
    | nil =>
      simp only [List.map_nil, List.append_nil, answerAll, put, promptBytes_eq, prompting, if_true]
      rfl
    | cons line later =>
      have notText : ∀ text, line ≠ Utf8.encode text := by simpa using stops
      simp only [List.map_nil, List.nil_append, answerAll, put, promptBytes_eq, prompting,
        answer_of_not_text _ notText]
      cases failure <;> rfl
  | cons text texts ih =>
    rw [List.map_cons, List.cons_append, answerAll_cons, notices_cons]
    simp only [delivered, puts_cons, Sink.putAll_append]
    cases whole : session.out.delivers (session.exchange text) with
    | false =>
      obtain ⟨failure, failed⟩ := Sink.exists_failure_of_not_delivers whole
      simp [failed]
    | true =>
      have told : session.noticesAfter [] text =
          [.report (scanLine text).diagnostics, .flush, .reset] := by
        rw [noticesAfter_nil, session.delivers_question whole, whole]
        rfl
      rw [if_pos rfl, ih, told, Reporter.told_append]
      rfl

/-- What is told about a line has the diagnostics of that line, if the prompt for it is put out. -/
theorem flatMap_diagnostics_noticesAfter (earlier : List (List Char)) (line : List Char) :
    (session.noticesAfter earlier line).flatMap Notice.diagnostics =
      if session.out.delivers (session.puts earlier) then (scanLine line).diagnostics else [] := by
  rw [noticesAfter, List.flatMap_append]
  split <;> split <;> simp [Notice.diagnostics]

/-- What is told about some lines has the diagnostics of those whose prompt is put out. -/
theorem flatMap_diagnostics_notices (lines : List (List Char)) :
    (session.notices lines).flatMap Notice.diagnostics =
      (lines.zipIdx.filter fun (_, index) =>
        session.out.delivers (session.puts (lines.take index))).flatMap
          fun (line, _) => (scanLine line).diagnostics := by
  rw [notices, List.flatMap_assoc]
  simp only [flatMap_diagnostics_noticesAfter]
  induction lines.zipIdx with
  | nil => rfl
  | cons entry later ih =>
    rw [List.flatMap_cons, ih, List.filter_cons]
    split <;> rfl

/-- A session at the prompt, when these are the lines that it can read. -/
theorem runPrompt_eq {input : Input} {lines : List (List Char)} {unread : List (List UInt8)}
    (reads : input.Reads lines unread) :
    let delivered := session.out.putAll (session.puts lines)
    session.runPrompt input =
      ((match delivered.1 <|> (if unread = [] then input.failure? else some .notText) with
        | some failure => .error (.console failure)
        | none => .ok ()), { session with
          out := delivered.2
          reporter := session.reporter.told (session.notices lines) }) := by
  intro delivered
  -- The failure that ends the session, if any, is one of the console.
  rw [runPrompt, reads.lines_eq, answerAll_eq _ _ _ reads.stops]
  cases delivered.1 <|> (if unread = [] then input.failure? else some .notText) <;> rfl

end Steps

/-- What a session at the prompt comes to when these are the lines that it can read. -/
structure PromptRun (session : Session) (input : Input) (lines : List (List Char))
    (unread : List (List UInt8)) : Prop where
  reads : input.Reads lines unread
  /-- What is put out is cut off where the budget ends, and nowhere else. -/
  delivered : (session.runPrompt input).2.out.received = session.out.received ++
    (session.transcript lines).take
      (session.out.settings.budget.getD (session.transcript lines).length)
  outcome : (session.runPrompt input).1 =
    if session.out.fits (session.transcript lines) then
      if unread ≠ [] then .error (.console .notText)
      else if input.fails then .error (.console .inputFailed)
      else .ok ()
    else .error (.console .closed)
  told : ∀ reporter, ({ session with reporter }.runPrompt input).2.reporter =
    reporter.told (session.notices lines)
  /-- Every line with a prompt in front of it is reported on, and no other line is. -/
  handed : (session.notices lines).flatMap Notice.diagnostics =
    (lines.zipIdx.filter fun (_, index) =>
      session.out.fits (session.transcript (lines.take index))).flatMap
        fun (line, _) => (scanLine line).diagnostics

/--
How a session at the prompt goes on any input, and on any sink that can hand on what it takes.

It goes on to the end of the input, or to the first line that is no text, unless the sink is full
before that.
-/
theorem exists_promptRun (session : Session) (input : Input)
    (flushes : session.out.flushesWork = true) :
    ∃ lines unread, PromptRun session input lines unread := by
  obtain ⟨lines, unread, reads⟩ := input.exists_reads
  obtain ⟨failure, received⟩ := Sink.putAll_of_flushesWork flushes (session.puts lines)
  refine ⟨lines, unread, reads, ?_, ?_, ?_, ?_⟩
  · rw [session.runPrompt_eq reads, received, Sink.write, Sink.taken]
    cases session.out.settings.budget with
    | none => simp only [Option.getD_none, List.take_length, transcript]
    | some budget => rfl
  · rw [session.runPrompt_eq reads, failure, transcript]
    cases session.out.fits (session.puts lines).flatten with
    | false => rfl
    | true =>
      cases unread with
      | cons line later => rfl
      | nil =>
        rw [Input.failure?]
        cases input.fails <;> rfl
  · intro reporter
    rw [runPrompt_eq _ reads]
    rfl
  · -- Where all flushes work, the prompts that are put out are those that fit.
    simp only [flatMap_diagnostics_notices, Sink.delivers_of_flushesWork flushes]
    rfl

/-- The sink is full in the middle of the listing for the second line, which has a fault. -/
theorem exists_promptRun_full :
    let session : Session :=
      { out := { settings := { budget := some 35 } }, reporter := .collecting [] }
    let input : Input := { bytes := Utf8.encode "+\n@\n".toList ++ [0xFF], fails := true }
    session.out.flushesWork = true ∧
      (∃ lines unread, PromptRun session input lines unread) ∧
      (session.runPrompt input).1 = .error (.console .closed) ∧
      (session.runPrompt input).2.out.received =
        Utf8.encode "> <\tPLUS + null\n<\tEOF  null\n> <\tEOF".toList ∧
      (session.runPrompt input).2.reporter =
        .collecting [⟨1, .unexpectedCharacter "@"⟩] := by
  intro session input
  refine ⟨rfl, exists_promptRun session input rfl, ?_⟩
  unfold session input
  decide +kernel

end Session

end LoxTokens
