import LoxTokens.Output.Failure
import LoxTokens.Text.Utf8

/-! Where bytes are written to: a sink may take only so many, and may fail to hand them on. -/

namespace LoxTokens

/-- What a sink does with the bytes it is given from now on. -/
structure SinkSettings where
  /-- How many more bytes the sink takes, or no limit. -/
  budget : Option Nat := none
  /-- Whether the next flushes of the sink fail, one after the other. -/
  nextFlushes : List Bool := []
  /-- Whether all flushes after those fail. -/
  flushFails : Bool := false
  deriving DecidableEq, Repr

/-- A sink and everything it ever took. -/
structure Sink where
  received : List UInt8 := []
  settings : SinkSettings := {}
  deriving DecidableEq, Repr

namespace Sink

/-- The part of some bytes, from the front, that a sink takes. -/
def taken (sink : Sink) (bytes : List UInt8) : List UInt8 :=
  match sink.settings.budget with
  | none => bytes
  | some budget => bytes.take budget

/-- The part of some bytes that a sink does not take. -/
def refused (sink : Sink) (bytes : List UInt8) : List UInt8 :=
  match sink.settings.budget with
  | none => []
  | some budget => bytes.drop budget

/-- The sink after it took what it takes of some bytes. -/
def write (sink : Sink) (bytes : List UInt8) : Sink where
  received := sink.received ++ sink.taken bytes
  settings := { sink.settings with budget := sink.settings.budget.map (· - bytes.length) }

/-- Writing fails when some bytes are refused. -/
def writeFailure? (sink : Sink) (bytes : List UInt8) : Option Failure :=
  if (sink.refused bytes).isEmpty then none else some .closed

/-- Whether the next flush of a sink fails. -/
def flushFails (sink : Sink) : Bool :=
  sink.settings.nextFlushes.headD sink.settings.flushFails

/-- Flushing fails when the settings say so. -/
def flushFailure? (sink : Sink) : Option Failure :=
  if sink.flushFails then some .flushFailed else none

/-- The sink after a flush, whether or not that failed. -/
def flushed (sink : Sink) : Sink :=
  { sink with settings := { sink.settings with nextFlushes := sink.settings.nextFlushes.tail } }

/-- What failed when some bytes were written to a sink and flushed, and the sink after that. -/
def put (sink : Sink) (bytes : List UInt8) : Option Failure × Sink :=
  let written := sink.write bytes
  match sink.writeFailure? bytes with
  -- What could not be written in full is not flushed.
  | some failure => (some failure, written)
  | none => (written.flushFailure?, written.flushed)

/-- The sink with other settings from now on. -/
def configure (sink : Sink) (settings : SinkSettings) : Sink := { sink with settings := settings }

/-- Every byte is either taken or refused, and the ones taken come first. -/
theorem taken_append_refused (sink : Sink) (bytes : List UInt8) :
    sink.taken bytes ++ sink.refused bytes = bytes := by
  unfold taken refused
  cases sink.settings.budget <;> simp

end Sink

end LoxTokens
