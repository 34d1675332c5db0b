import LoxTokens.Output.Reporter
import LoxTokens.Scan

/-! What can be asked of a reporter, and what it comes to after many requests. -/

namespace LoxTokens

/-- What can be asked of a reporter. -/
inductive Request
  | handle (diagnostic : Diagnostic)
  /-- To hear of the faults of a text while that is scanned. -/
  | scan (source : String)
  | reset
  | flush
  | configure (settings : SinkSettings)
  deriving DecidableEq, Repr

/-- The diagnostics that a request hands in, in order. -/
def Request.handed : Request → List Diagnostic
  | handle diagnostic => [diagnostic]
  | scan source => (tokenize source).diagnostics
  | reset | flush | configure _ => []

namespace Reporter

/-- The forms of reporters; a stream is highlighted or not for as long as it lasts. -/
inductive Form
  | collecting
  | silent
  | streaming (highlights : Bool)
  deriving DecidableEq, Repr

/-- The form of a reporter. -/
def form : Reporter → Form
  | collecting _ => .collecting
  | silent _ => .silent
  | streaming stream => .streaming stream.highlights

/-- A reporter that has not been asked anything; the settings are for its sink, if it has one. -/
def Form.fresh (settings : SinkSettings) : Form → Reporter
  | collecting => .collecting []
  | silent => .silent false
  | streaming highlights => .streaming { sink := { settings }, highlights }

/--
The tokens of some pieces, and the reporter after it heard of each fault where that was found.

The first of the pieces starts on a given line.
-/
def scanFrom (reporter : Reporter) (line : Nat) : List Piece → List Token × Reporter
  | [] => ([.endOfInput line], reporter)
  | ⟨role, text⟩ :: later =>
    let next := line + Scan.newlines text
    match role with
    | .token kind =>
      let (tokens, after) := reporter.scanFrom next later
      (.ofLexeme kind text line :: tokens, after)
    -- The scan goes on with a reporter that has heard of this fault.
    | .unexpected =>
      (reporter.report [⟨line, .unexpectedCharacter (String.ofList text)⟩]).scanFrom next later
    | .unterminated => (reporter.report [⟨next, .unterminatedString⟩]).scanFrom next later
    | .blank | .newline | .comment => reporter.scanFrom next later

/-- The tokens of a text, and the reporter after the scan. -/
def scan (reporter : Reporter) (source : String) : List Token × Reporter :=
  reporter.scanFrom 1 (Piece.ofText source.toList)

/-- The reporter after a request. -/
def serve (reporter : Reporter) : Request → Reporter
  | .handle diagnostic => reporter.report [diagnostic]
  | .scan source => (reporter.scan source).2
  | .reset => reporter.reset
  | .flush => reporter.flush
  | .configure settings => reporter.configure settings

/-- The reporter after some requests. -/
def served (reporter : Reporter) (requests : List Request) : Reporter :=
  requests.foldl serve reporter

/-- A report of nothing leaves a reporter as it is. -/
@[simp] theorem report_nil (reporter : Reporter) : reporter.report [] = reporter := by
  -- Nothing is added to a list, no flag is set, and no bytes begin to wait.
  cases reporter <;> simp [report, ReportStream.report]

/-- It makes no difference whether diagnostics are reported together or one after the other. -/
theorem report_append (reporter : Reporter) (earlier later : List Diagnostic) :
    reporter.report (earlier ++ later) = (reporter.report earlier).report later := by
  -- The list, the bytes that wait and the count all grow at their ends.
  cases reporter with
  | collecting items => simp [report]
  | silent before => cases earlier <;> simp [report]
  | streaming stream =>
    -- The label of a stream is not touched by the reports on it.
    simp only [report, ReportStream.report, List.flatMap_append, List.length_append,
      List.append_assoc, Nat.add_assoc]
    rfl

/-- A scan does not read the reporter, which hears of all faults in the order of the text. -/
theorem scanFrom_eq (reporter : Reporter) (line : Nat) (pieces : List Piece) :
    reporter.scanFrom line pieces =
      ((Scan.ofPieces line pieces).tokens,
        reporter.report (Scan.ofPieces line pieces).diagnostics) := by
  -- Each fault is reported in front of those of the pieces after it.
  induction pieces generalizing reporter line with
  | nil => simp [scanFrom, Scan.ofPieces]
  | cons piece later ih =>
    obtain ⟨role, text⟩ := piece
    have told (diagnostic : Diagnostic) (others : List Diagnostic) :
        (reporter.report [diagnostic]).report others = reporter.report (diagnostic :: others) :=
      (report_append reporter [diagnostic] others).symm
    cases role <;>
      simp only [scanFrom, Scan.ofPieces, Scan.addToken, Scan.addDiagnostic, ih, told]

/-- A reporter that hears of the faults of a text one by one hears what the scan reports. -/
theorem scan_eq (reporter : Reporter) (source : String) : reporter.scan source =
    ((tokenize source).tokens, reporter.report (tokenize source).diagnostics) :=
  scanFrom_eq reporter 1 (Piece.ofText source.toList)

/-- One more request comes after all the others. -/
theorem served_concat (reporter : Reporter) (requests : List Request) (request : Request) :
    reporter.served (requests ++ [request]) = (reporter.served requests).serve request := by
  simp [served]

/-- A request to hear of a text reports what it hands in, and does nothing else. -/
theorem serve_scan (reporter : Reporter) (source : String) :
    reporter.serve (.scan source) = reporter.report (Request.scan source).handed := by
  rw [serve, scan_eq, Request.handed]

/-- No request changes the form of a reporter. -/
theorem form_serve (reporter : Reporter) (request : Request) :
    (reporter.serve request).form = reporter.form := by
  -- Each of the operations keeps the constructor, and a stream its label.
  cases request with
  | scan source =>
    rw [serve_scan]
    cases reporter <;> rfl
  | handle | reset | flush | configure => cases reporter <;> rfl

/-- Nor do many requests. -/
theorem form_served (reporter : Reporter) (requests : List Request) :
    (reporter.served requests).form = reporter.form := by
  -- The form after the first request is the one before it.
  induction requests generalizing reporter with
  | nil => rfl
  | cons request later ih => exact (ih (reporter.serve request)).trans (form_serve reporter request)

/-- A fresh reporter has the form it was made in. -/
@[simp] theorem form_fresh (settings : SinkSettings) (form : Form) :
    (form.fresh settings).form = form := by
  cases form <;> rfl

/-- A reporter of the streaming form is a stream with the label of that form. -/
theorem exists_stream_of_form {reporter : Reporter} {highlights : Bool}
    (streams : reporter.form = .streaming highlights) :
    ∃ stream, reporter = .streaming stream ∧ stream.highlights = highlights := by
  cases reporter with
  | streaming stream => exact ⟨stream, rfl, Form.streaming.inj streams⟩
  | collecting | silent => cases streams

end Reporter

end LoxTokens
