import LoxTokens.Proofs.Session.Prompt

/-! What a reporter remembers of the faults on the lines of a prompt. -/

namespace LoxTokens

/-- A place in a list with a first item is that item, or a place in the rest. -/
theorem exists_place_cons {α : Type} {first : α} {rest : List α}
    {holds : List α → α → List α → Prop} :
    (∃ earlier item later, first :: rest = earlier ++ item :: later ∧ holds earlier item later) ↔
      holds [] first rest ∨ ∃ earlier item later, rest = earlier ++ item :: later ∧
        holds (first :: earlier) item later := by
  -- What stands before the place is nothing, or starts with the first item.
  constructor
  · intro place
    obtain ⟨earlier, item, later, same, here⟩ := place
    cases earlier with
    | nil =>
      obtain ⟨rfl, rfl⟩ := List.cons.inj same
      exact .inl here
    | cons head earlier =>
      obtain ⟨rfl, rfl⟩ := List.cons.inj same
      exact .inr ⟨earlier, item, later, rfl, here⟩
  · intro place
    rcases place with here | ⟨earlier, item, later, rfl, there⟩
    · exact ⟨[], first, rest, rfl, here⟩
    · exact ⟨first :: earlier, item, later, rfl, there⟩

namespace Reporter

/-- A reporter remembers that there were faults when it hears of some. -/
@[simp] theorem hadError_report (reporter : Reporter) (diagnostics : List Diagnostic) :
    (reporter.report diagnostics).hadError = (reporter.hadError || !diagnostics.isEmpty) := by
  -- The list and the count grow by as many as there are, and the flag is set.
  cases reporter with
  | collecting items => cases items <;> cases diagnostics <;> rfl
  | silent before => rfl
  | streaming stream =>
    cases diagnostics with
    | nil => simp [report, hadError, ReportStream.report]
    | cons first rest =>
      simp only [report, hadError, ReportStream.report, List.isEmpty_cons, Bool.not_false,
        Bool.or_true, decide_eq_true_eq, List.length_cons]
      omega

/-- Passing on what is held back has no part in what is remembered. -/
@[simp] theorem hadError_flush (reporter : Reporter) :
    reporter.flush.hadError = reporter.hadError := by
  cases reporter <;> rfl

/-- Nothing is remembered after a reset. -/
@[simp] theorem hadError_reset (reporter : Reporter) : reporter.reset.hadError = false := by
  cases reporter <;> rfl

/-- Other settings for the sink have no part in what is remembered. -/
@[simp] theorem hadError_configure (reporter : Reporter) (settings : SinkSettings) :
    (reporter.configure settings).hadError = reporter.hadError := by
  cases reporter <;> rfl

end Reporter

namespace Input

/-- The texts of some lines, up to the first one that is none. -/
def readable : List (List UInt8) → List (List Char)
  | [] => []
  | line :: later =>
    match Utf8.decode? line with
    | none => []
    | some text => text :: readable later

/-- The texts of the lines that are read from an input. -/
def texts (input : Input) : List (List Char) := readable input.lines

/-- Those are what is read, however the rest is described. -/
theorem Reads.texts_eq {input : Input} {texts : List (List Char)} {unread : List (List UInt8)}
    (reads : input.Reads texts unread) : input.texts = texts := by
  -- The lines are the encodings of the texts, and then those that nothing encodes.
  rw [Input.texts, reads.lines_eq]
  have stops := reads.stops
  clear reads
  induction texts with
  | nil =>
    cases unread with
    | nil => rfl
    | cons line later =>
      -- A line that could be decoded would be the encoding of a text.
      cases decoded : Utf8.decode? line with
      | none => simp [readable, decoded]
      | some text =>
        have encoded := Utf8.decode?_eq_some_iff.mp decoded
        exact absurd (by simp [encoded]) (stops text)
  | cons text texts ih =>
    have decoded : Utf8.decode? (Utf8.encode text) = some text :=
      Utf8.decode?_eq_some_iff.mpr rfl
    simp [readable, decoded, ih]

end Input

namespace Session

/-- The listing for a line with faults is not put out, and all before that is. -/
def StopsAtFault (session : Session) (lines : List (List Char)) : Prop :=
  ∃ earlier line later, lines = earlier ++ line :: later ∧ (scanLine line).diagnostics ≠ [] ∧
    session.out.delivers (session.puts earlier) = true ∧
    session.out.delivers (session.puts earlier ++ [session.worded (scanLine line).tokens]) = false

/-- There is a first line, and its listing is put out. -/
def AnswersFirst (session : Session) (lines : List (List Char)) : Prop :=
  ∃ line later, lines = line :: later ∧ session.out.delivers (session.exchange line) = true

section Lines

variable {session : Session}

/-- A session stops at no fault when there are no lines. -/
theorem not_stopsAtFault_nil : ¬session.StopsAtFault [] := by
  intro stops
  obtain ⟨earlier, line, later, same, _⟩ := stops
  simp at same

/-- A session that answers a line stops at a fault when it does so on the lines after it. -/
theorem stopsAtFault_cons_of_delivers {line : List Char}
    (whole : session.out.delivers (session.exchange line) = true) (later : List (List Char)) :
    session.StopsAtFault (line :: later) ↔ (session.answered line).StopsAtFault later := by
  -- What is put out after the first line meets the sink that has taken the exchange for it.
  have after (writes : List (List UInt8)) : (session.answered line).out.delivers writes =
      session.out.delivers (session.exchange line ++ writes) := by
    rw [Sink.delivers_append, whole]
    rfl
  rw [StopsAtFault, exists_place_cons]
  simp only [puts_cons, List.append_assoc, ← after]
  constructor
  · intro place
    rcases place with ⟨_, _, broken⟩ | there
    · have same : session.out.delivers (session.exchange line) = false := broken
      simp [whole] at same
    · exact there
  · intro stops
    exact .inr stops

/-- A session that does not answer a line stops there if it asks for it and it has faults. -/
theorem stopsAtFault_cons_of_not_delivers {line : List Char}
    (broken : session.out.delivers (session.exchange line) = false) (later : List (List Char)) :
    session.StopsAtFault (line :: later) ↔
      session.out.delivers [question] = true ∧ (scanLine line).diagnostics ≠ [] := by
  rw [StopsAtFault, exists_place_cons]
  constructor
  · intro place
    rcases place with ⟨faults, asked, _⟩ | ⟨_, _, _, _, _, asked, _⟩
    · exact ⟨asked, faults⟩
    · -- The prompt for a later line would have to be put out after this listing.
      rw [puts_cons, Sink.delivers_append, broken] at asked
      contradiction
  · intro stops
    obtain ⟨asked, faults⟩ := stops
    exact .inl ⟨faults, asked, broken⟩

/-- After a line that is answered, a session goes on as one that has just answered it. -/
theorem told_notices_cons_of_delivers {line : List Char}
    (whole : session.out.delivers (session.exchange line) = true) (later : List (List Char)) :
    session.reporter.told (session.notices (line :: later)) =
      (session.answered line).reporter.told ((session.answered line).notices later) := by
  rw [notices_cons, noticesAfter_nil, if_pos (session.delivers_question whole), if_pos whole,
    if_pos whole, Reporter.told_append]
  rfl

/-- What is remembered once the lines are dealt with. -/
theorem hadError_told_notices (lines : List (List Char)) :
    (session.reporter.told (session.notices lines)).hadError = true ↔
      session.StopsAtFault lines ∨
        (session.reporter.hadError = true ∧ ¬session.AnswersFirst lines) := by
  -- A line that is answered ends with a reset, so only what comes after it counts.
  induction lines generalizing session with
  | nil => simp [notices, Reporter.told, not_stopsAtFault_nil, AnswersFirst]
  | cons line later ih =>
    cases whole : session.out.delivers (session.exchange line) with
    | true =>
      have answers : session.AnswersFirst (line :: later) := ⟨line, later, rfl, whole⟩
      have forgotten : (session.answered line).reporter.hadError = false := by
        simp [answered, Reporter.told, Reporter.hear]
      rw [told_notices_cons_of_delivers whole, stopsAtFault_cons_of_delivers whole, ih]
      simp [answers, forgotten]
    | false =>
      have unanswered : ¬session.AnswersFirst (line :: later) := by
        intro answers
        obtain ⟨first, others, same, answered⟩ := answers
        obtain ⟨rfl, rfl⟩ := List.cons.inj same
        simp [whole] at answered
      rw [stopsAtFault_cons_of_not_delivers whole, notices_cons, noticesAfter_nil, whole]
      cases asked : session.out.delivers [question] with
      | true => simp [Reporter.told, Reporter.hear, unanswered, or_comm]
      | false => simp [Reporter.told, unanswered]

end Lines

/-- What is remembered after a session at the prompt. -/
theorem hadError_runPrompt (session : Session) (input : Input) :
    (session.runPrompt input).2.reporter.hadError = true ↔
      session.StopsAtFault input.texts ∨
        (session.reporter.hadError = true ∧ ¬session.AnswersFirst input.texts) := by
  obtain ⟨lines, unread, reads⟩ := input.exists_reads
  rw [session.runPrompt_eq reads, reads.texts_eq]
  exact hadError_told_notices lines

/--
A session at the prompt leaves no faults behind, however it ends and whatever it reports to, unless
the listing for a line that has some cannot be put out.
-/
theorem leavesNoFault_iff (session : Session) (clean : session.reporter.hadError = false)
    (input : Input) : (session.runPrompt input).2.reporter.hadError = false ↔
      ¬session.StopsAtFault input.texts := by
  -- There was nothing to forget, so what is remembered is what was left.
  rw [← Bool.not_eq_true, hadError_runPrompt]
  simp [clean]

/-- There is room for everything, but the second listing cannot be flushed, and has a fault. -/
theorem leavesNoFault_iff_unflushed :
    let session : Session :=
      { out := { settings := { nextFlushes := [false, false, false, true] } }
        reporter := .silent false }
    let input : Input := { bytes := Utf8.encode "+\n@\n+\n".toList }
    session.reporter.hadError = false ∧
      ((session.runPrompt input).2.reporter.hadError = false ↔
        ¬session.StopsAtFault input.texts) ∧
      (session.runPrompt input).1 = .error (.console .flushFailed) ∧
      (session.runPrompt input).2.reporter.hadError = true := by
  intro session input
  refine ⟨rfl, leavesNoFault_iff session rfl input, ?_⟩
  unfold session input
  decide +kernel

/-- When there is room for the prompt alone, the fault on the first line is left behind. -/
theorem not_leavesNoFault_full :
    ¬∀ (session : Session) (input : Input), session.reporter.hadError = false →
      (session.runPrompt input).2.reporter.hadError = false := by
  intro always
  let session : Session := { out := { settings := { budget := some 2 } }, reporter := .silent false }
  have clean := always session { bytes := Utf8.encode "@\n".toList } rfl
  have left : (session.runPrompt { bytes := Utf8.encode "@\n".toList }).2.reporter.hadError =
      true := by decide +kernel
  rw [left] at clean
  contradiction

end Session

end LoxTokens
