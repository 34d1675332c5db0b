import LoxTokens.Proofs.Output.Accounting
import LoxTokens.Proofs.Session.Prompt

/-! One program: what is put out of its listing, how it ends, and what its reporter has heard. -/

namespace LoxTokens

namespace ReportStream

/-- A stream whose sink has room for all that waits is left with nothing that waits. -/
theorem pending_flush_of_fits {stream : ReportStream} (room : stream.sink.fits stream.pending) :
    stream.flush.pending = [] := by
  -- What would still wait is what the sink refuses.
  show stream.sink.refused stream.pending = []
  cases budget : stream.sink.settings.budget with
  | none => simp [Sink.refused, budget]
  | some left => simpa [Sink.refused, Sink.fits, budget] using room

end ReportStream

namespace Reporter

/-- It makes no difference whether diagnostics are handed in together or one after the other. -/
theorem served_handle (reporter : Reporter) (diagnostics : List Diagnostic) :
    reporter.served (diagnostics.map .handle) = reporter.report diagnostics := by
  induction diagnostics generalizing reporter with
  | nil => exact (report_nil reporter).symm
  | cons first later ih =>
    calc reporter.served ((first :: later).map .handle)
        = (reporter.report [first]).report later := ih (reporter.report [first])
      _ = reporter.report (first :: later) := (report_append reporter [first] later).symm

end Reporter

namespace Session

/--
The session after a program, with the number of its tokens, one write after the other.

Each token is listed in a number of writes, for which the listing stops at the first that fails.
-/
def runInTurn (session : Session) (writes : Token → List (List UInt8)) (source : String) :
    Except Failure Nat × Session :=
  -- The reporter hears of every fault while the text is scanned.
  let (tokens, heard) := session.reporter.scan source
  let (failure, out) := session.out.putInTurn (if session.quiet then [] else tokens.flatMap writes)
  -- The output is only flushed after a full listing, and the reporter is flushed in any case.
  let after := { session with out, reporter := heard.flush }
  match failure with
  | some failure => (.error failure, after)
  | none => (.ok tokens.length, after)

/-- The listing of some tokens, however the line of each of them is cut into writes. -/
theorem flatten_flatMap_writes {writes : Token → List (List UInt8)}
    (whole : ∀ token, (writes token).flatten = Utf8.encode token.worded.toList)
    (tokens : List Token) :
    (tokens.flatMap writes).flatten = Utf8.encode (tokens.flatMap (·.worded.toList)) := by
  induction tokens with
  | nil => rfl
  | cons token later ih =>
    rw [List.flatMap_cons, List.flatten_append, whole, ih, List.flatMap_cons, Utf8.encode_append]

/-- A program comes to the same however the listing of its tokens is cut into writes. -/
theorem runInTurn_eq (session : Session) {writes : Token → List (List UInt8)}
    (whole : ∀ token, (writes token).flatten = Utf8.encode token.worded.toList)
    (source : String) : session.runInTurn writes source = session.run source.toList := by
  have worded : (if session.quiet then [] else (tokenize source).tokens.flatMap writes).flatten =
      session.worded (tokenize source).tokens := by
    rw [Session.worded]
    cases session.quiet with
    | true => rfl
    | false => exact flatten_flatMap_writes whole _
  rw [runInTurn, Reporter.scan_eq, run_eq]
  simp only [Sink.putInTurn_eq, worded]
  show _ = (match (session.out.put (session.worded (tokenize source).tokens)).1 with
    | some failure => Except.error failure
    | none => Except.ok (tokenize source).tokens.length, _)
  cases (session.out.put (session.worded (tokenize source).tokens)).1 <;> rfl

/-- What a program comes to, whatever there is room for in the output. -/
structure ProgramRun (session : Session) (source : String) : Prop where
  /-- What is put out is cut off where the budget ends, and nowhere else. -/
  delivered : (session.run source.toList).2.out.received = session.out.received ++
    (session.worded (tokenize source).tokens).take
      (session.out.settings.budget.getD (session.worded (tokenize source).tokens).length)
  outcome : (session.run source.toList).1 =
    if session.out.fits (session.worded (tokenize source).tokens) then
      if session.out.flushFails then .error .flushFailed
      else .ok (tokenize source).tokens.length
    else .error .closed
  /-- Every fault is handed in, in order, and then the reporter is flushed. -/
  handed : (session.run source.toList).2.reporter =
    session.reporter.served ((tokenize source).diagnostics.map .handle ++ [.flush])
  /-- A stream with room below it has handed on all its reports, those of the program last. -/
  held : ∀ stream, session.reporter = .streaming stream →
    let reports := ReportStream.lines stream.highlights (tokenize source).diagnostics
    stream.sink.fits (stream.pending ++ reports) →
      ∃ after, (session.run source.toList).2.reporter = .streaming after ∧ after.pending = [] ∧
        after.sink.received = stream.written ++ reports
  /-- The listing may be cut into any writes, one of which may fail in its middle. -/
  inTurn : ∀ writes : Token → List (List UInt8),
    (∀ token, (writes token).flatten = Utf8.encode token.worded.toList) →
      session.runInTurn writes source = session.run source.toList

/--
A program puts out its listing as far as there is room for it, and tells what stopped it if anything
did. In any case, its faults are handed in before it ends, and handed on.
-/
theorem programRun (session : Session) (source : String) : ProgramRun session source where
  delivered := by
    show (session.out.put (session.worded (tokenize source).tokens)).2.received = _
    rw [Sink.received_put, Sink.taken]
    cases session.out.settings.budget <;> simp
  outcome := by
    show (match (session.out.put (session.worded (tokenize source).tokens)).1 with
      | some failure => Except.error failure
      | none => Except.ok (tokenize source).tokens.length) = _
    -- Flushing is tried when the listing fits.
    rw [Sink.put_fst_eq, Sink.flushFailure?]
    cases session.out.fits (session.worded (tokenize source).tokens) with
    | false => rfl
    | true => cases session.out.flushFails <;> rfl
  handed := by
    rw [Reporter.served_concat, Reporter.served_handle]
    rfl
  held := by
    intro stream streams reports room
    let reported := stream.report (tokenize source).diagnostics
    have fitting : reported.sink.fits reported.pending := by
      show stream.sink.fits (stream.pending ++ _)
      rwa [ReportStream.flatMap_line]
    refine ⟨reported.flush, ?_, ReportStream.pending_flush_of_fits fitting, ?_⟩
    · show (session.reporter.report (tokenize source).diagnostics).flush = _
      rw [streams]
      rfl
    · -- All that was ever written is in the sink, because nothing waits.
      have all : reported.flush.written = stream.written ++ reports := by
        rw [ReportStream.written_flush, ReportStream.written_report]
      rwa [ReportStream.written, ReportStream.pending_flush_of_fits fitting, List.append_nil]
        at all
  inTurn := fun _ whole => runInTurn_eq session whole source

/-- Where the output takes nothing at all, the report comes out all the same. -/
example :
    let session : Session :=
      { out := { settings := { budget := some 0 } }, reporter := .streaming {} }
    (session.run "var a = @;".toList).1 = .error .closed ∧
      (session.run "var a = @;".toList).2.reporter = .streaming {
        sink.received := Utf8.encode "[line: 1] Error: Unexpected character '@'.\n".toList
        count := 1 } := by
  decide +kernel

end Session

end LoxTokens
