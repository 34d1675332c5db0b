import LoxTokens.Proofs.Session.Unlimited

/-! A quiet session does all that another one does, and leaves out nothing but the listings. -/

namespace LoxTokens.Session

/-- A session that lists nothing, and one that lists its tokens and is like it otherwise. -/
structure Paired (quiet loud : Session) : Prop where
  isQuiet : quiet.quiet = true
  lists : loud.quiet = false
  reporter : quiet.reporter = loud.reporter
  /-- The outputs may have received different bytes by now, but they take all there is. -/
  unlimited : quiet.out.settings = {}
  unlimitedToo : loud.out.settings = {}

/-- What a step comes to in a session that lists nothing, compared with one that does. -/
structure Muted (quiet loud : Session) (step : Step) : Prop where
  answer : quiet.answerTo step = loud.answerTo step
  reporter : (quiet.perform step).reporter = (loud.perform step).reporter
  loudOut : (loud.perform step).out.received =
    loud.out.received ++ step.outputs.flatMap Output.bytes
  /-- Of what the other session puts out, only the prompts are left. -/
  quietOut : (quiet.perform step).out.received =
    quiet.out.received ++ (step.outputs.filter Output.isPrompt).flatMap Output.bytes

section Paired

variable {quiet loud : Session}

/-- A step is muted in the one of two such sessions, and leaves them such sessions. -/
theorem Paired.perform (paired : Paired quiet loud) {step : Step} (played : step.isPlayed) :
    Muted quiet loud step ∧ Paired (quiet.perform step) (loud.perform step) := by
  -- Both respond in the same way, because their reporters are the same.
  obtain ⟨respond, responds⟩ := exists_response played
  obtain ⟨answer, after⟩ := responds quiet paired.unlimited
  obtain ⟨answerToo, afterToo⟩ := responds loud paired.unlimitedToo
  have keptQuiet : quiet.kept step.outputs =
      (step.outputs.filter Output.isPrompt).flatMap Output.bytes := by
    simp [kept, paired.isQuiet]
  have keptLoud : loud.kept step.outputs = step.outputs.flatMap Output.bytes := by
    simp [kept, paired.lists]
  refine ⟨⟨?_, ?_, ?_, ?_⟩, ?_⟩
  · rw [answer, answerToo, paired.reporter]
  · rw [after, afterToo, paired.reporter]
    rfl
  · rw [afterToo, keptLoud]
    rfl
  · rw [after, keptQuiet]
    rfl
  · rw [after, afterToo, paired.reporter]
    exact ⟨paired.isQuiet, paired.lists, rfl, paired.unlimited, paired.unlimitedToo⟩

/-- Such sessions are still such sessions after any steps that they both go through. -/
theorem Paired.after (paired : Paired quiet loud) {steps : List Step}
    (played : ∀ step ∈ steps, step.isPlayed) : Paired (quiet.after steps) (loud.after steps) := by
  -- The induction is on the steps, and being paired is what each of them keeps.
  induction steps generalizing quiet loud with
  | nil => exact paired
  | cons step later ih =>
    obtain ⟨first, others⟩ := List.forall_mem_cons.mp played
    exact ih (paired.perform first).2 others

end Paired

/--
A session that lists nothing goes through any steps as it would if it listed its tokens.

Every step gives back the same and leaves the same in the reporter, whatever fails in that. All that
is missing are the listings, so that programs and scripts put out nothing, and the prompt puts out
what asks for its lines.
-/
theorem muted_after (session : Session) (unlimited : session.out.settings = {})
    {steps : List Step} (played : ∀ step ∈ steps, step.isPlayed) :
    ∀ earlier step later, steps = earlier ++ step :: later →
      Muted ({ session with quiet := true }.after earlier)
        ({ session with quiet := false }.after earlier) step := by
  rintro earlier step later rfl
  obtain ⟨before, here⟩ := List.forall_mem_append.mp played
  have start : Paired { session with quiet := true } { session with quiet := false } :=
    ⟨rfl, rfl, rfl, unlimited, unlimited⟩
  exact ((start.after before).perform (here step List.mem_cons_self)).1

/-- Programs, scripts and a prompt with faults, on a stream whose sink is full before the last. -/
theorem muted_after_mixed :
    let session : Session :=
      { out := { received := [0x3E] }, reporter := .streaming { sink.settings.budget := some 50 } }
    let missing : Step := .script "missing.lox" (.error .notFound)
    let faulty : Step := .script "faulty.lox" (.ok [0x40, 0xFF])
    let talk : Step := .prompt { bytes := Utf8.encode "1\n\"a\n".toList ++ [0xFF], fails := true }
    session.out.settings = {} ∧
      (∀ step ∈ [missing, faulty, .program "+".toList, talk], step.isPlayed) ∧
      Muted ({ session with quiet := true }.after [missing, faulty, .program "+".toList])
        ({ session with quiet := false }.after [missing, faulty, .program "+".toList]) talk := by
  intro session missing faulty talk
  have played : ∀ step ∈ [missing, faulty, .program "+".toList, talk], step.isPlayed := by
    simp [missing, faulty, talk, Step.isPlayed]
  exact ⟨rfl, played,
    muted_after session rfl played [missing, faulty, .program "+".toList] talk [] rfl⟩

/-- At the prompt, a session that lists nothing puts out as many prompts as one that does. -/
example :
    let session : Session := { reporter := .collecting [], quiet := true }
    (session.runPrompt { bytes := Utf8.encode "1\n@\n".toList }).2.out.received =
      Utf8.encode "> > > ".toList := by
  decide +kernel

end LoxTokens.Session
