import LoxTokens.Output.ReportStream

/-! Where diagnostics go: into a list, onto a stream, or nowhere but into memory that some came. -/

namespace LoxTokens

/-- A receiver of diagnostics. -/
inductive Reporter
  /-- Keeps every diagnostic. -/
  | collecting (items : List Diagnostic)
  /-- Keeps only whether there was one. -/
  | silent (hadError : Bool)
  /-- Writes every diagnostic to a stream. -/
  | streaming (stream : ReportStream)
  deriving DecidableEq, Repr

namespace Reporter

/-- The reporter after some diagnostics, in order. -/
def report (reporter : Reporter) (diagnostics : List Diagnostic) : Reporter :=
  match reporter with
  | collecting items => collecting (items ++ diagnostics)
  | silent hadError => silent (hadError || !diagnostics.isEmpty)
  | streaming stream => streaming (stream.report diagnostics)

/-- Whether a diagnostic came since the last reset. -/
def hadError : Reporter → Bool
  | collecting items => !items.isEmpty
  | silent hadError => hadError
  | streaming stream => 0 < stream.count

/-- The reporter without its memory of diagnostics. -/
def reset : Reporter → Reporter
  | collecting _ => collecting []
  | silent _ => silent false
  | streaming stream => streaming stream.reset

/-- The reporter after it passed on what it holds back; only a stream holds anything back. -/
def flush : Reporter → Reporter
  | streaming stream => streaming stream.flush
  | reporter => reporter

/-- The reporter once all that its sink took was sent on to somewhere else. -/
def drained : Reporter → Reporter
  | streaming stream => streaming { stream with sink.received := [] }
  | reporter => reporter

/-- The reporter with other settings for its sink, if it has one. -/
def configure (reporter : Reporter) (settings : SinkSettings) : Reporter :=
  match reporter with
  | streaming stream => streaming (stream.configure settings)
  | reporter => reporter

end Reporter

end LoxTokens
