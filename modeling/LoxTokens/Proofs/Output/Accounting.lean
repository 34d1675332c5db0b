import LoxTokens.Proofs.Output.Request
import LoxTokens.Proofs.Output.Sink
import LoxTokens.Proofs.Output.Wording

/-! Every byte of every report is accounted for: the sink of a stream took it, or it still waits. -/

namespace LoxTokens

namespace ReportStream

/-- All that ever went onto a stream: what its sink took, and then what waits for the sink. -/
def written (stream : ReportStream) : List UInt8 := stream.sink.received ++ stream.pending

/-- The lines of diagnostics after others come after the lines of those. -/
theorem lines_append (highlights : Bool) (earlier later : List Diagnostic) :
    lines highlights (earlier ++ later) = lines highlights earlier ++ lines highlights later := by
  simp only [lines, Utf8.encode, List.flatMap_append]

/-- Reports come after all that is there already. -/
theorem written_report (stream : ReportStream) (diagnostics : List Diagnostic) :
    (stream.report diagnostics).written =
      stream.written ++ lines stream.highlights diagnostics := by
  rw [← flatMap_line]
  exact (List.append_assoc _ _ _).symm

/-- A flush only moves bytes on, and what the sink refuses waits where it was. -/
theorem written_flush (stream : ReportStream) : stream.flush.written = stream.written := by
  -- The bytes that are moved are the first of those that wait.
  calc stream.flush.written
      = stream.sink.received ++ stream.sink.taken stream.pending ++
          stream.sink.refused stream.pending := rfl
    _ = stream.sink.received ++ stream.pending := by
        rw [List.append_assoc, Sink.taken_append_refused]

/-- A stream that ends without a failure has handed on all that went onto it. -/
theorem received_finalSink {stream : ReportStream} (ended : stream.endFailure? = none) :
    stream.finalSink.received = stream.written := by
  -- Nothing is refused, so the sink takes all that waits.
  have refused : stream.sink.refused stream.pending = [] := by
    simpa [endFailure?, Sink.writeFailure?] using ended
  have taken := Sink.taken_append_refused stream.sink stream.pending
  rw [refused, List.append_nil] at taken
  show stream.sink.received ++ stream.sink.taken stream.pending = stream.written
  rw [taken, written]

/-- A stream accounts for some diagnostics, in the order they came in. -/
structure Accounts (stream : ReportStream) (highlights : Bool) (diagnostics : List Diagnostic) :
    Prop where
  written : stream.sink.received ++ stream.pending = lines highlights diagnostics
  /-- Ending the stream succeeds exactly when the sink has room for all that waits. -/
  ends : stream.endFailure? = none ↔
    ∀ room, stream.sink.settings.budget = some room → stream.pending.length ≤ room
  complete : stream.endFailure? = none →
    stream.finalSink.received = lines highlights diagnostics

end ReportStream

namespace Reporter

/-- All that ever went onto the stream of a reporter, if it has one. -/
def written : Reporter → List UInt8
  | streaming stream => stream.written
  | collecting _ | silent _ => []

/-- A request adds the lines of what it hands in, and does nothing else to what is written. -/
theorem written_serve {reporter : Reporter} {highlights : Bool}
    (streams : reporter.form = .streaming highlights) (request : Request) :
    (reporter.serve request).written =
      reporter.written ++ ReportStream.lines highlights request.handed := by
  -- Only reports put anything onto the stream; the other requests hand in nothing.
  obtain ⟨stream, rfl, rfl⟩ := exists_stream_of_form streams
  cases request with
  | handle diagnostic => exact stream.written_report [diagnostic]
  | scan source =>
    rw [serve_scan]
    exact stream.written_report _
  | flush => exact stream.written_flush.trans (List.append_nil _).symm
  | reset | configure => exact (List.append_nil _).symm

/-- Requests add the lines of all that they hand in, in order. -/
theorem written_served {reporter : Reporter} {highlights : Bool}
    (streams : reporter.form = .streaming highlights) (requests : List Request) :
    (reporter.served requests).written =
      reporter.written ++ ReportStream.lines highlights (requests.flatMap Request.handed) := by
  -- Every request leaves a stream with the same label, so each of them adds its own lines.
  induction requests generalizing reporter with
  | nil => exact (List.append_nil _).symm
  | cons request later ih =>
    calc ((reporter.serve request).served later).written
        = (reporter.serve request).written ++
            ReportStream.lines highlights (later.flatMap Request.handed) :=
          ih ((form_serve reporter request).trans streams)
      _ = reporter.written ++
            ReportStream.lines highlights ((request :: later).flatMap Request.handed) := by
          rw [written_serve streams, List.append_assoc, ← ReportStream.lines_append,
            List.flatMap_cons]

/--
After any requests, a stream accounts for all that was ever handed in to it.

No reset takes anything back, and what a sink fails to take is kept for later, so that nothing is
lost, repeated or put out of order.
-/
theorem exists_accounts (highlights : Bool) (settings : SinkSettings) (requests : List Request) :
    ∃ stream, ((Form.streaming highlights).fresh settings).served requests = .streaming stream ∧
      stream.Accounts highlights (requests.flatMap Request.handed) := by
  have streams : ((Form.streaming highlights).fresh settings).form = .streaming highlights := rfl
  obtain ⟨stream, same, _⟩ := exists_stream_of_form ((form_served _ requests).trans streams)
  -- A fresh stream has nothing on it, so what is there is what the requests handed in.
  have written : stream.written =
      ReportStream.lines highlights (requests.flatMap Request.handed) := by
    have all := written_served streams requests
    rwa [same] at all
  refine ⟨stream, same, written, ?_, ?_⟩
  · -- Ending is one more write, which fails exactly when its bytes do not fit.
    rw [ReportStream.endFailure?, Sink.writeFailure?_eq, Sink.fits]
    cases stream.sink.settings.budget <;> simp
  · intro ended
    exact (ReportStream.received_finalSink ended).trans written

/-- A line that is cut off where the sink is full goes on there once the sink has room again. -/
example :
    let unterminated : Diagnostic := ⟨1, .unterminatedString⟩
    ((Form.streaming false).fresh { budget := some 9 }).served
        [.handle unterminated, .flush, .reset, .flush, .configure { budget := some 40 }, .flush] =
      .streaming {
        sink := {
          received := Utf8.encode "[line: 1] Error: Unterminated string.\n".toList
          settings := { budget := some 11 } } } := by
  decide

end Reporter

end LoxTokens
