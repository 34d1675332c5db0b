import LoxTokens.Diagnostic
import LoxTokens.Output.Sink

/-! Diagnostics as lines on a buffered stream. -/

namespace LoxTokens

/-- A stream of reports: the sink below, the bytes waiting for it, and how many reports came. -/
structure ReportStream where
  sink : Sink := {}
  pending : List UInt8 := []
  /-- Whether the label of a report stands out. -/
  highlights : Bool := false
  /-- How many reports came since the last reset. -/
  count : Nat := 0
  deriving DecidableEq, Repr

namespace ReportStream

/-- The label of a report: bold and bright red between two control sequences when it stands out. -/
def label (stream : ReportStream) : String :=
  if stream.highlights then "\x1b[1;91mError\x1b[0m" else "Error"

/-- The bytes of one report, a line of its own. -/
def line (stream : ReportStream) (diagnostic : Diagnostic) : List UInt8 :=
  Utf8.encode ((diagnostic.labelled stream.label ++ "\n").toList)

/-- The stream after reports that nothing was flushed between. -/
def report (stream : ReportStream) (diagnostics : List Diagnostic) : ReportStream :=
  { stream with
    pending := stream.pending ++ diagnostics.flatMap stream.line
    count := stream.count + diagnostics.length }

/--
The stream after the sink took what it takes of the bytes waiting; the others wait on.

Whether the sink then hands them on makes no difference to the stream, which does not ask.
-/
def flush (stream : ReportStream) : ReportStream :=
  { stream with
    sink := stream.sink.write stream.pending
    pending := stream.sink.refused stream.pending }

/-- The stream with no reports counted. -/
def reset (stream : ReportStream) : ReportStream := { stream with count := 0 }

/-- The stream with other settings for its sink. -/
def configure (stream : ReportStream) (settings : SinkSettings) : ReportStream :=
  { stream with sink := stream.sink.configure settings }

/-- The sink once the stream ends, with as much of the waiting bytes as it takes. -/
def finalSink (stream : ReportStream) : Sink := stream.sink.write stream.pending

/-- Ending the stream fails when the sink does not take all that waits. -/
def endFailure? (stream : ReportStream) : Option Failure :=
  stream.sink.writeFailure? stream.pending

end ReportStream

end LoxTokens
