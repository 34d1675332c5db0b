import LoxTokens.Proofs.Session.Memory

/-! One session over many steps, and what the outcome of a script says of the steps before it. -/

namespace LoxTokens

/-- What can be done with a session. -/
inductive Step
  | program (source : List Char)
  | script (path : String) (content : Except Failure (List UInt8))
  | prompt (input : Input)
  | setQuiet (quiet : Bool)
  | configureOut (settings : SinkSettings)
  | configureReporter (settings : SinkSettings)

namespace Session

/-- The session after a step. -/
def perform (session : Session) : Step → Session
  | .program source => (session.run source).2
  | .script path content => (session.runScript path content).2
  | .prompt input => (session.runPrompt input).2
  | .setQuiet quiet => { session with quiet }
  | .configureOut settings => { session with out := session.out.configure settings }
  | .configureReporter settings => { session with reporter := session.reporter.configure settings }

/-- The session after some steps. -/
def after (session : Session) (steps : List Step) : Session := steps.foldl perform session

/-- A step leaves faults of its own to be remembered. -/
def LeavesFaults (session : Session) : Step → Prop
  | .program source => (Scan.ofText source).diagnostics ≠ []
  | .script _ (.ok bytes) => (Scan.ofText (Utf8.decodeLossy bytes)).diagnostics ≠ []
  | .prompt input => session.StopsAtFault input.texts
  | .script _ (.error _) | .setQuiet _ | .configureOut _ | .configureReporter _ => False

/-- A step forgets the faults there were before it. -/
def Forgets (session : Session) : Step → Prop
  -- Only the prompt ever resets the reporter.
  | .prompt input => session.AnswersFirst input.texts
  | .program _ | .script _ _ | .setQuiet _ | .configureOut _ | .configureReporter _ => False

/-- None of some steps forgets the faults there were before it. -/
def ForgetsNothing (session : Session) : List Step → Prop
  | [] => True
  | step :: later => ¬session.Forgets step ∧ (session.perform step).ForgetsNothing later

/-- Faults from before some steps, or from one of them, are still remembered after all of them. -/
def Remembers (session : Session) (steps : List Step) : Prop :=
  (session.reporter.hadError = true ∧ session.ForgetsNothing steps) ∨
    ∃ earlier step later, steps = earlier ++ step :: later ∧
      (session.after earlier).LeavesFaults step ∧
      (session.after (earlier ++ [step])).ForgetsNothing later

/-- The reporter hears of the faults of a program, whatever becomes of the listing. -/
theorem reporter_run (session : Session) (source : List Char) : (session.run source).2.reporter =
    (session.reporter.report (Scan.ofText source).diagnostics).flush := rfl

/-- A script that can be read is a program. -/
theorem runScript_ok_snd (session : Session) (path : String) (bytes : List UInt8) :
    (session.runScript path (.ok bytes)).2 = (session.run (Utf8.decodeLossy bytes)).2 := by
  -- The outcome is only read off the session that the program leaves.
  rw [runScript]
  split <;> simp_all

/-- What is remembered after a program. -/
theorem hadError_run (session : Session) (source : List Char) :
    (session.run source).2.reporter.hadError = true ↔
      (Scan.ofText source).diagnostics ≠ [] ∨ session.reporter.hadError = true := by
  simp [reporter_run, or_comm]

/-- What is remembered after a step is what it leaves, and what there was if it does not forget. -/
theorem hadError_perform (session : Session) (step : Step) :
    (session.perform step).reporter.hadError = true ↔
      session.LeavesFaults step ∨ (session.reporter.hadError = true ∧ ¬session.Forgets step) := by
  -- Programs and scripts only add to the memory, the prompt resets it, and settings leave it.
  cases step with
  | program source => simpa [perform, LeavesFaults, Forgets] using hadError_run session source
  | script path content =>
    cases content with
    | error cause => simp [perform, runScript, LeavesFaults, Forgets]
    | ok bytes =>
      rw [perform, runScript_ok_snd]
      simpa [LeavesFaults, Forgets] using hadError_run session (Utf8.decodeLossy bytes)
  | prompt input => exact hadError_runPrompt session input
  | setQuiet | configureOut | configureReporter => simp [perform, LeavesFaults, Forgets]

/-- Without any steps, only what there was before is remembered. -/
theorem remembers_nil (session : Session) :
    session.Remembers [] ↔ session.reporter.hadError = true := by
  simp [Remembers, ForgetsNothing]

/-- After a first step, a session remembers what the session after that step does. -/
theorem remembers_cons (session : Session) (step : Step) (later : List Step) :
    session.Remembers (step :: later) ↔ (session.perform step).Remembers later := by
  rw [Remembers, Remembers, exists_place_cons, hadError_perform]
  -- The first step leaves faults, or else those from before it are still there.
  show (_ ∧ ¬session.Forgets step ∧ (session.perform step).ForgetsNothing later) ∨
    (session.LeavesFaults step ∧ (session.perform step).ForgetsNothing later) ∨ _ ↔ _
  rw [or_and_right, and_assoc, ← or_assoc, or_comm (a := _ ∧ _)]
  rfl

/-- A session remembers faults exactly when some were left that no later step forgot. -/
theorem hadError_after (session : Session) (steps : List Step) :
    (session.after steps).reporter.hadError = true ↔ session.Remembers steps := by
  -- The invariant is that what is remembered is that of the session so far and the steps to come.
  induction steps generalizing session with
  | nil => exact (remembers_nil session).symm
  | cons step later ih =>
    rw [remembers_cons]
    exact ih (session.perform step)

/-- The outcome of a script says whether there are faults in the script itself. -/
def OutcomeReflects (session : Session) (path : String) (bytes : List UInt8) : Prop :=
  (session.runScript path (.ok bytes)).1 =
    .ok (if (Scan.ofText (Utf8.decodeLossy bytes)).diagnostics.isEmpty then .success else .faulty)

/-- When its listing is put out, a script comes to what is remembered after it. -/
theorem runScript_fst_of_delivered {session : Session} {path : String} {bytes : List UInt8}
    (delivered : session.out.delivers
      [session.worded (Scan.ofText (Utf8.decodeLossy bytes)).tokens] = true) :
    (session.runScript path (.ok bytes)).1 =
      .ok (if (session.run (Utf8.decodeLossy bytes)).2.reporter.hadError then .faulty
        else .success) := by
  rw [Sink.delivers_eq, Sink.putAll_singleton, Option.isNone_iff_eq_none] at delivered
  have ran := session.run_eq (Utf8.decodeLossy bytes)
  simp only [delivered] at ran
  simp only [runScript, ran]

/--
After any steps, the outcome of a script reflects the script if there are faults in it, or if none
are remembered from before.

Otherwise the script is called faulty for the faults of others.
-/
theorem outcomeReflects_iff (session : Session) (steps : List Step) (path : String)
    (bytes : List UInt8) :
    let now := session.after steps
    let scan := Scan.ofText (Utf8.decodeLossy bytes)
    now.out.delivers [now.worded scan.tokens] = true →
      (now.OutcomeReflects path bytes ↔ scan.diagnostics ≠ [] ∨ ¬session.Remembers steps) ∧
        ((now.runScript path (.ok bytes)).1 = .ok .faulty ↔
          scan.diagnostics ≠ [] ∨ session.Remembers steps) := by
  intro now scan delivered
  have remembered : (now.run (Utf8.decodeLossy bytes)).2.reporter.hadError = true ↔
      scan.diagnostics ≠ [] ∨ session.Remembers steps := by
    rw [← hadError_after]
    exact hadError_run now _
  show ((now.runScript path (.ok bytes)).1 =
    .ok (if scan.diagnostics.isEmpty then .success else .faulty) ↔ _) ∧ _
  rw [runScript_fst_of_delivered delivered]
  -- The outcome is read off what is remembered, to which the script adds its own faults.
  by_cases own : scan.diagnostics = []
  · by_cases before : session.Remembers steps
    · simp [remembered, own, before]
    · simp [remembered, own, before]
  · simp [remembered, own]

/-- A fault at the prompt is forgotten, and one in a script after it is not. -/
theorem outcomeReflects_iff_mixed :
    let session : Session := { reporter := .streaming {} }
    let steps : List Step :=
      [.prompt { bytes := Utf8.encode "@\n".toList }, .script "first.lox" (.ok [0xFF]),
        .configureOut { budget := some 100 }, .script "missing.lox" (.error .notFound)]
    let bytes := Utf8.encode "var x;".toList
    let now := session.after steps
    let scan := Scan.ofText (Utf8.decodeLossy bytes)
    now.out.delivers [now.worded scan.tokens] = true ∧
      (now.OutcomeReflects "second.lox" bytes ↔
        scan.diagnostics ≠ [] ∨ ¬session.Remembers steps) ∧
      ((now.runScript "second.lox" (.ok bytes)).1 = .ok .faulty ↔
        scan.diagnostics ≠ [] ∨ session.Remembers steps) ∧
      scan.diagnostics = [] ∧ (now.runScript "second.lox" (.ok bytes)).1 = .ok .faulty := by
  intro session steps bytes now scan
  have delivered : now.out.delivers [now.worded scan.tokens] = true := by decide +kernel
  have clean : scan.diagnostics = [] := by decide +kernel
  have outcome : (now.runScript "second.lox" (.ok bytes)).1 = .ok .faulty := by decide +kernel
  obtain ⟨reflects, faulty⟩ := outcomeReflects_iff session steps "second.lox" bytes delivered
  exact ⟨delivered, reflects, faulty, clean, outcome⟩

/-- A script without faults is called faulty for those of the script before it. -/
theorem not_outcomeReflects_second :
    let session : Session := { reporter := .collecting [] }
    let now := session.after [.script "first.lox" (.ok (Utf8.encode "@".toList))]
    let bytes := Utf8.encode "var x;".toList
    session.reporter.hadError = false ∧
      now.out.delivers [now.worded (Scan.ofText (Utf8.decodeLossy bytes)).tokens] = true ∧
      ¬now.OutcomeReflects "second.lox" bytes := by
  intro session now bytes
  have delivered :
      now.out.delivers [now.worded (Scan.ofText (Utf8.decodeLossy bytes)).tokens] = true := by
    decide +kernel
  have clean : (Scan.ofText (Utf8.decodeLossy bytes)).diagnostics = [] := by decide +kernel
  have outcome : (now.runScript "second.lox" (.ok bytes)).1 = .ok .faulty := by decide +kernel
  refine ⟨rfl, delivered, ?_⟩
  intro reflects
  rw [OutcomeReflects, outcome, clean] at reflects
  contradiction

end Session

end LoxTokens
