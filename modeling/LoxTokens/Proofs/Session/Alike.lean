import LoxTokens.Proofs.Output.Request
import LoxTokens.Proofs.Session.Steps

/-! What shows of a session does not depend on where its reports go. -/

namespace LoxTokens

/-- What a session gives back after a step. -/
inductive Answer
  | counted (result : Except Failure Nat)
  | ended (result : Except SessionError Outcome)
  | talked (result : Except SessionError Unit)
  /-- A change of settings gives nothing back. -/
  | settled

/-- What shows of a session after a step. -/
structure Sight where
  answer : Answer
  /-- All that the output has taken so far. -/
  received : List UInt8
  /-- Whether faults are remembered. -/
  hadError : Bool

namespace Session

/-- What a session gives back for a step. -/
def answerTo (session : Session) : Step → Answer
  | .program source => .counted (session.run source).1
  | .script path content => .ended (session.runScript path content).1
  | .prompt input => .talked (session.runPrompt input).1
  | .setQuiet _ | .configureOut _ | .configureReporter _ => .settled

/-- What shows of a session, step by step. -/
def sights (session : Session) : List Step → List Sight
  | [] => []
  | step :: later =>
    let next := session.perform step
    ⟨session.answerTo step, next.out.received, next.reporter.hadError⟩ :: next.sights later

/-- Sessions that can only be told apart by what their reporters hold. -/
structure Alike (left right : Session) : Prop where
  out : left.out = right.out
  quiet : left.quiet = right.quiet
  hadError : left.reporter.hadError = right.reporter.hadError

/-- Two sessions gave back the same, and are alike after it. -/
def WentAlike {α : Type} (left right : α × Session) : Prop :=
  -- The two results are taken apart here, so that whoever uses this can go on with either case.
  ∃ given leftAfter rightAfter,
    left = (given, leftAfter) ∧ right = (given, rightAfter) ∧ leftAfter.Alike rightAfter

/-- Sessions that went alike gave back the same. -/
theorem WentAlike.given_eq {α : Type} {left right : α × Session} (went : WentAlike left right) :
    left.1 = right.1 := by
  obtain ⟨given, _, _, rfl, rfl, _⟩ := went
  rfl

/-- Sessions that went alike are alike after it. -/
theorem WentAlike.after {α : Type} {left right : α × Session} (went : WentAlike left right) :
    left.2.Alike right.2 := by
  obtain ⟨_, _, _, rfl, rfl, alike⟩ := went
  exact alike

section Alike

variable {left right : Session}

/-- Putting out bytes does not involve the reporter. -/
theorem Alike.put (alike : left.Alike right) (bytes : List UInt8) :
    WentAlike (left.put bytes) (right.put bytes) := by
  -- Once the outputs are the same, only the reporters are left to differ.
  obtain ⟨out, reporter, quiet⟩ := left
  obtain ⟨_, reporter', _⟩ := right
  obtain ⟨rfl, rfl, same⟩ := alike
  exact ⟨_, _, _, rfl, rfl, rfl, rfl, same⟩

/-- A program reports the same faults to either reporter. -/
theorem Alike.run (alike : left.Alike right) (source : List Char) :
    WentAlike (left.run source) (right.run source) := by
  -- Whatever was remembered, each of the two adds the same to it, and a flush changes none of it.
  obtain ⟨out, reporter, quiet⟩ := left
  obtain ⟨_, reporter', _⟩ := right
  obtain ⟨rfl, rfl, same⟩ := alike
  have reported (diagnostics : List Diagnostic) :
      (reporter.report diagnostics).flush.hadError =
        (reporter'.report diagnostics).flush.hadError := by
    have before : reporter.hadError = reporter'.hadError := same
    simp [before]
  exact ⟨_, _, _, rfl, rfl, rfl, rfl, reported _⟩

/-- After a reset, neither of the reporters remembers anything. -/
theorem Alike.reset (alike : left.Alike right) : left.reset.Alike right.reset where
  out := alike.out
  quiet := alike.quiet
  hadError := by simp [Session.reset]

/-- The outcome of a script is read off what is remembered, which is the same for both. -/
theorem Alike.runScript (alike : left.Alike right) (path : String)
    (content : Except Failure (List UInt8)) :
    WentAlike (left.runScript path content) (right.runScript path content) := by
  cases content with
  | error cause => exact ⟨_, _, _, rfl, rfl, alike⟩
  | ok bytes =>
    obtain ⟨result, leftAfter, rightAfter, leftRan, rightRan, after⟩ :=
      alike.run (Utf8.decodeLossy bytes)
    simp only [Session.runScript, leftRan, rightRan]
    cases result with
    | error cause => exact ⟨_, _, _, rfl, rfl, after⟩
    | ok count =>
      -- Only here does anything that is given back come from a reporter.
      refine ⟨_, _, _, rfl, ?_, after⟩
      rw [after.hadError]

/-- A line at the prompt is answered in the same way by both. -/
theorem Alike.answer (alike : left.Alike right) (line : List UInt8) :
    WentAlike (left.answer line) (right.answer line) := by
  -- Whether the line is text is up to the line, and whether it is listed up to the output.
  rw [Session.answer, Session.answer]
  cases Utf8.decode? line with
  | none => exact ⟨_, _, _, rfl, rfl, alike⟩
  | some text =>
    obtain ⟨result, leftAfter, rightAfter, leftRan, rightRan, after⟩ :=
      alike.run (stripLineEnd text)
    simp only [leftRan, rightRan]
    cases result with
    | error failure => exact ⟨_, _, _, rfl, rfl, after⟩
    | ok count => exact ⟨_, _, _, rfl, rfl, after.reset⟩

/-- The prompt goes on for as many lines with the one as with the other. -/
theorem Alike.answerAll (alike : left.Alike right) (ending : Option Failure)
    (lines : List (List UInt8)) :
    WentAlike (Session.answerAll ending lines left) (Session.answerAll ending lines right) := by
  -- What stops one of the sessions stops the other, and else they are alike at the next line.
  induction lines generalizing left right with
  | nil =>
    obtain ⟨failure, _, _, leftPut, rightPut, asked⟩ := alike.put promptBytes
    simp only [Session.answerAll, leftPut, rightPut]
    exact ⟨_, _, _, rfl, rfl, asked⟩
  | cons line later ih =>
    obtain ⟨failure, _, _, leftPut, rightPut, asked⟩ := alike.put promptBytes
    simp only [Session.answerAll, leftPut, rightPut]
    cases failure with
    | some failure => exact ⟨_, _, _, rfl, rfl, asked⟩
    | none =>
      obtain ⟨failure, _, _, leftGave, rightGave, answered⟩ := asked.answer line
      simp only [leftGave, rightGave]
      cases failure with
      | some failure => exact ⟨_, _, _, rfl, rfl, answered⟩
      | none => exact ih answered

/-- A session at the prompt goes the same for both, however it ends. -/
theorem Alike.runPrompt (alike : left.Alike right) (input : Input) :
    WentAlike (left.runPrompt input) (right.runPrompt input) := by
  -- What stopped the one stopped the other, for the same cause.
  obtain ⟨failure, _, _, leftGave, rightGave, after⟩ :=
    alike.answerAll input.failure? input.lines
  simp only [Session.runPrompt, leftGave, rightGave]
  cases failure with
  | some failure => exact ⟨_, _, _, rfl, rfl, after⟩
  | none => exact ⟨_, _, _, rfl, rfl, after⟩

/-- Every step gives back the same for both and leaves them alike. -/
theorem Alike.perform (alike : left.Alike right) (step : Step) :
    left.answerTo step = right.answerTo step ∧ (left.perform step).Alike (right.perform step) := by
  -- Programs, scripts and prompts go alike; settings are made in the same place of both.
  cases step with
  | program source =>
    have went := alike.run source
    exact ⟨congrArg Answer.counted went.given_eq, went.after⟩
  | script path content =>
    have went := alike.runScript path content
    exact ⟨congrArg Answer.ended went.given_eq, went.after⟩
  | prompt input =>
    have went := alike.runPrompt input
    exact ⟨congrArg Answer.talked went.given_eq, went.after⟩
  | setQuiet quiet => exact ⟨rfl, alike.out, rfl, alike.hadError⟩
  | configureOut settings =>
    exact ⟨rfl, congrArg (·.configure settings) alike.out, alike.quiet, alike.hadError⟩
  | configureReporter settings =>
    refine ⟨rfl, alike.out, alike.quiet, ?_⟩
    simp [Session.perform, alike.hadError]

/-- Sessions that are alike show the same in all steps to come. -/
theorem Alike.sights_eq (alike : left.Alike right) (steps : List Step) :
    left.sights steps = right.sights steps := by
  -- Being alike is all that the sight of a step depends on, and it is kept for the next one.
  induction steps generalizing left right with
  | nil => rfl
  | cons step later ih =>
    obtain ⟨answered, after⟩ := alike.perform step
    simp only [sights, answered, after.out, after.hadError, ih after]

end Alike

/--
Where the reports of a session go has no part in what shows of it.

Whatever the form of its reporter, and however the sink of that fails, a session answers every step
in the same way, puts out the same bytes and remembers in the same places that there were faults.
-/
theorem sights_fresh (out : Sink) (quiet : Bool) (left right : Reporter.Form)
    (leftSettings rightSettings : SinkSettings) (steps : List Step) :
    Session.sights { out, reporter := left.fresh leftSettings, quiet } steps =
      Session.sights { out, reporter := right.fresh rightSettings, quiet } steps := by
  -- A fresh reporter of any form remembers nothing.
  have clean (form : Reporter.Form) (settings : SinkSettings) :
      (form.fresh settings).hadError = false := by
    cases form <;> rfl
  have alike : Alike { out, reporter := left.fresh leftSettings, quiet }
      { out, reporter := right.fresh rightSettings, quiet } :=
    ⟨rfl, rfl, (clean left leftSettings).trans (clean right rightSettings).symm⟩
  exact alike.sights_eq steps

end Session

end LoxTokens
