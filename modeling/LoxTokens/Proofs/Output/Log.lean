import LoxTokens.Proofs.Output.Request
import Mathlib.Data.List.DropRight

/-! The reporters of every form keep one log: the diagnostics that came since the last reset. -/

namespace LoxTokens

/-- The diagnostics that some requests handed in, from after the last reset on if there was one. -/
def sinceReset (requests : List Request) : List Diagnostic :=
  (requests.rtakeWhile (· ≠ .reset)).flatMap Request.handed

/-- A log after one more request. -/
def Request.logged (log : List Diagnostic) (request : Request) : List Diagnostic :=
  -- Flushes and settings hand in nothing, so they leave the log as it is.
  if request = .reset then [] else log ++ request.handed

/-- One more request after the others is logged after them. -/
theorem sinceReset_concat (requests : List Request) (request : Request) :
    sinceReset (requests ++ [request]) = request.logged (sinceReset requests) := by
  -- A reset leaves nothing of what is before it, and any other request keeps all of that.
  by_cases isReset : request = .reset
  · subst isReset
    simp [sinceReset, Request.logged]
  · simp [sinceReset, Request.logged, isReset]

namespace Reporter

/-- What a reporter keeps is what there is in a log, as far as its form keeps anything of that. -/
def Tracks : Reporter → List Diagnostic → Prop
  | collecting items, log => items = log
  | silent hadError, log => hadError = !log.isEmpty
  | streaming stream, log => stream.count = log.length

/-- A fresh reporter keeps an empty log. -/
theorem tracks_fresh (settings : SinkSettings) (form : Form) :
    (form.fresh settings).Tracks [] := by
  cases form <;> rfl

section Tracks

variable {reporter : Reporter} {log : List Diagnostic}

/-- Reports are added to the end of the log. -/
theorem Tracks.report (tracks : reporter.Tracks log) (diagnostics : List Diagnostic) :
    (reporter.report diagnostics).Tracks (log ++ diagnostics) := by
  -- The list grows as the log does, the count by as many, and the flag is set unless there is none.
  cases reporter with
  | collecting items => exact congrArg (· ++ diagnostics) tracks
  | silent hadError =>
    obtain rfl : hadError = !log.isEmpty := tracks
    cases log <;> rfl
  | streaming stream =>
    have count : stream.count = log.length := tracks
    show stream.count + diagnostics.length = (log ++ diagnostics).length
    rw [List.length_append, count]

/-- A request has the same effect on a reporter and on its log. -/
theorem Tracks.serve (tracks : reporter.Tracks log) (request : Request) :
    (reporter.serve request).Tracks (request.logged log) := by
  -- Only reports and resets have to do with the log.
  cases request with
  | handle diagnostic => exact tracks.report [diagnostic]
  | scan source =>
    rw [serve_scan]
    exact tracks.report _
  | reset => cases reporter <;> rfl
  | flush | configure =>
    -- These hand nothing in, and touch neither a list, nor a flag, nor a count.
    show Tracks _ (log ++ [])
    rw [List.append_nil]
    cases reporter <;> exact tracks

/-- Whether there was an error can be told from the log. -/
theorem Tracks.hadError_eq (tracks : reporter.Tracks log) :
    reporter.hadError = !log.isEmpty := by
  -- A count is positive exactly when there is something to count.
  cases reporter with
  | collecting items =>
    obtain rfl : items = log := tracks
    rfl
  | silent hadError => exact tracks
  | streaming stream =>
    have count : stream.count = log.length := tracks
    cases log <;> simp [hadError, count]

/-- A list that is kept is the log itself. -/
theorem Tracks.eq_collecting (tracks : reporter.Tracks log)
    (collects : reporter.form = .collecting) : reporter = .collecting log := by
  cases reporter with
  | collecting items => exact congrArg collecting tracks
  | silent | streaming => cases collects

/-- A stream counts the entries of the log. -/
theorem Tracks.exists_stream {highlights : Bool} (tracks : reporter.Tracks log)
    (streams : reporter.form = .streaming highlights) :
    ∃ stream, reporter = .streaming stream ∧ stream.count = log.length := by
  obtain ⟨stream, rfl, _⟩ := exists_stream_of_form streams
  exact ⟨stream, rfl, tracks⟩

end Tracks

/-- A reporter that was fresh before some requests keeps what came since the last reset. -/
theorem tracks_served (form : Form) (settings : SinkSettings) (requests : List Request) :
    ((form.fresh settings).served requests).Tracks (sinceReset requests) := by
  -- The last request is the one that says what becomes of the log before it.
  induction requests using List.reverseRecOn with
  | nil => exact tracks_fresh settings form
  | append_singleton requests request ih =>
    rw [served_concat, sinceReset_concat]
    exact ih.serve request

/-- What reporters of the three forms have in common with a log, and with each other. -/
structure InStep (log : List Diagnostic) (list flag stream : Reporter) : Prop where
  listed : list = .collecting log
  counted : ∃ lines, stream = .streaming lines ∧ lines.count = log.length
  hadError : ∀ reporter ∈ [list, flag, stream], reporter.hadError = true ↔ log ≠ []
  /-- Whichever of them is told of the faults in a text, the tokens of the text are the same. -/
  tokens : ∀ source, ∀ reporter ∈ [list, flag, stream],
    (reporter.scan source).1 = (tokenize source).tokens

/--
Reporters of the three forms that are asked the same stay in step with one log.

The settings of the sink below the stream, and what becomes of the bytes there, have no part in it.
-/
theorem served_inStep (highlights : Bool) (settings : SinkSettings) (requests : List Request) :
    let asked := fun form : Form => (form.fresh settings).served requests
    InStep (sinceReset requests) (asked .collecting) (asked .silent)
      (asked (.streaming highlights)) := by
  intro asked
  -- Each of them keeps what its form keeps of the log, and they agree on what that says.
  have tracks (form : Form) : (asked form).Tracks (sinceReset requests) :=
    tracks_served form settings requests
  have formed (form : Form) : (asked form).form = form :=
    (form_served _ requests).trans (form_fresh settings form)
  constructor
  case listed => exact (tracks .collecting).eq_collecting (formed .collecting)
  case counted => exact (tracks (.streaming highlights)).exists_stream (formed _)
  case hadError =>
    have every (form : Form) : (asked form).hadError = true ↔ sinceReset requests ≠ [] := by
      simp [(tracks form).hadError_eq]
    simp [every]
  case tokens =>
    -- A scan never reads the reporter that it tells of its faults.
    intro source reporter _
    rw [scan_eq]

end Reporter

end LoxTokens
