import LoxTokens.Proofs.Session.Alike
import LoxTokens.Proofs.Session.Script

/-! What a session comes to, step by step, where nothing limits its output. -/

namespace LoxTokens

/-- One of the things that a session puts out. -/
inductive Output
  | prompt
  | listing (tokens : List Token)

namespace Output

/-- What is put out, as bytes. -/
def bytes : Output → List UInt8
  | prompt => Session.question
  | listing tokens => Utf8.encode (tokens.flatMap (·.worded.toList))

/-- Whether it asks for a line. -/
def isPrompt : Output → Bool
  | prompt => true
  | listing _ => false

/-- What is put out for some lines: each is asked for and listed, and one more is asked for. -/
def ofLines (lines : List (List Char)) : List Output :=
  lines.flatMap (fun line => [prompt, listing (Session.scanLine line).tokens]) ++ [prompt]

end Output

namespace Step

/-- What a step puts out where nothing is left out, in order. -/
def outputs : Step → List Output
  | program source => [.listing (Scan.ofText source).tokens]
  | script _ (.ok bytes) => [.listing (Scan.ofText (Utf8.decodeLossy bytes)).tokens]
  | prompt input => Output.ofLines input.texts
  | script _ (.error _) | setQuiet _ | configureOut _ | configureReporter _ => []

/-- Whether a step leaves it to the session what is listed and how much there is room for. -/
def isPlayed : Step → Bool
  | program _ | script _ _ | prompt _ | configureReporter _ => true
  | setQuiet _ | configureOut _ => false

end Step

namespace Session

/-- The bytes that a session makes of what could be put out. -/
def kept (session : Session) (outputs : List Output) : List UInt8 :=
  -- Prompts are there in any case.
  (outputs.filter fun output => output.isPrompt || !session.quiet).flatMap Output.bytes

/-- A listing is kept as it is listed. -/
theorem kept_listing (session : Session) (tokens : List Token) :
    session.kept [.listing tokens] = session.worded tokens := by
  -- The filter keeps it exactly when the session is not quiet.
  rw [kept, worded]
  cases session.quiet <;> simp [Output.isPrompt, Output.bytes]

/-- What is kept of two lists is kept of the one and then of the other. -/
theorem kept_append (session : Session) (earlier later : List Output) :
    session.kept (earlier ++ later) = session.kept earlier ++ session.kept later := by
  simp [kept]

/-- What is kept of the lines at a prompt is the transcript. -/
theorem kept_ofLines (session : Session) (lines : List (List Char)) :
    session.kept (Output.ofLines lines) = session.transcript lines := by
  -- Line by line, the prompt is kept, and then whatever is listed.
  have asked : session.kept [.prompt] = question := by
    simp [kept, Output.isPrompt, Output.bytes]
  have answered (line : List Char) : session.kept [.prompt, .listing (scanLine line).tokens] =
      (session.exchange line).flatten := by
    have both := session.kept_append [.prompt] [.listing (scanLine line).tokens]
    rw [asked, kept_listing] at both
    simpa [exchange] using both
  rw [Output.ofLines, kept_append, asked, transcript, puts, List.flatten_append]
  refine congrArg₂ (· ++ ·) ?_ (List.append_nil question).symm
  induction lines with
  | nil => rfl
  | cons line later ih =>
    rw [List.flatMap_cons, List.flatMap_cons, kept_append, answered, ih, List.flatten_append]

/-- What a session gives back for a step and leaves in its reporter, read off the reporter. -/
structure Responds (session : Session) (step : Step) (respond : Reporter → Answer × Reporter) :
    Prop where
  answer : session.answerTo step = (respond session.reporter).1
  /-- Only what is put out depends on whether there are listings. -/
  after : session.perform step =
    session.movedOn (session.kept step.outputs) (respond session.reporter).2

section Unlimited

variable {session : Session} (unlimited : session.out.settings = {})

include unlimited

/-- A program is counted, and its faults are reported. -/
theorem responds_program (source : List Char) :
    session.Responds (.program source) fun reporter =>
      (.counted (.ok (Scan.ofText source).tokens.length),
        reporter.told [.report (Scan.ofText source).diagnostics, .flush]) := by
  have ran := run_of_unlimited unlimited source
  simp only [← kept_listing] at ran
  constructor
  case answer => rw [answerTo, ran]
  case after => exact congrArg Prod.snd ran

/-- A script is called faulty if its reporter then remembers any faults. -/
theorem responds_script (path : String) (bytes : List UInt8) :
    let diagnostics := (Scan.ofText (Utf8.decodeLossy bytes)).diagnostics
    session.Responds (.script path (.ok bytes)) fun reporter =>
      let reported := reporter.told [.report diagnostics, .flush]
      (.ended (.ok (if reported.hadError then .faulty else .success)), reported) := by
  intro diagnostics
  have ran := runScript_of_unlimited unlimited path bytes
  simp only [← kept_listing] at ran
  constructor
  case answer => rw [answerTo, ran]
  case after => exact congrArg Prod.snd ran

/-- The prompt goes on to the end of the input, or to the first line that is no text. -/
theorem responds_prompt {input : Input} {lines : List (List Char)} {unread : List (List UInt8)}
    (reads : input.Reads lines unread) :
    session.Responds (.prompt input) fun reporter =>
      (.talked (if unread ≠ [] then .error (.console .notText)
        else if input.fails then .error (.console .inputFailed)
        else .ok ()),
        reporter.told (lines.flatMap fun line =>
          [.report (scanLine line).diagnostics, .flush, .reset])) := by
  have ran := runPrompt_of_unlimited unlimited reads
  rw [← kept_ofLines] at ran
  constructor
  case answer => rw [answerTo, ran]
  case after =>
    rw [Step.outputs, reads.texts_eq]
    exact congrArg Prod.snd ran

end Unlimited

/-- A step that puts nothing out leaves the output as it is. -/
theorem movedOn_kept_nil (session : Session) (reporter : Reporter) :
    session.movedOn (session.kept []) reporter = { session with reporter } := by
  simp [movedOn, kept]

/-- Where nothing limits the output, the step and the reporter decide on the response alone. -/
theorem exists_response {step : Step} (played : step.isPlayed) :
    ∃ respond, ∀ session : Session, session.out.settings = {} → session.Responds step respond := by
  -- The response is the one that each kind of step has, whatever has been put out before it.
  cases step with
  | program source => exact ⟨_, fun _ unlimited => responds_program unlimited source⟩
  | script path content =>
    cases content with
    | ok bytes => exact ⟨_, fun _ unlimited => responds_script unlimited path bytes⟩
    | error cause =>
      refine ⟨fun reporter => (.ended (.error (.unreadable path cause)), reporter), ?_⟩
      intro session _
      exact ⟨rfl, (session.movedOn_kept_nil _).symm⟩
  | prompt input =>
    obtain ⟨lines, unread, reads⟩ := input.exists_reads
    exact ⟨_, fun _ unlimited => responds_prompt unlimited reads⟩
  | configureReporter settings =>
    refine ⟨fun reporter => (.settled, reporter.configure settings), ?_⟩
    intro session _
    exact ⟨rfl, (session.movedOn_kept_nil _).symm⟩
  -- The other two steps change the very settings that this is about.
  | setQuiet | configureOut => contradiction

end Session

end LoxTokens
