import LoxTokens.Proofs.Scan.LineEnd
import LoxTokens.Proofs.Scan.Lines
import LoxTokens.Proofs.Session.Prompt

/-! What a script and a prompt come to where nothing limits the output, and that a text is scanned
alike as the one and line by line at the other. -/

namespace LoxTokens.Session

/-- A newline at the end of a line is stripped off. -/
theorem stripLineEnd_append_newline (line : List Char) :
    stripLineEnd (line ++ ['\n']) = stripLineEnd line := by
  simp [stripLineEnd]

/-- Without a newline, only carriage returns are stripped off. -/
theorem exists_returns {line : List Char} (unended : '\n' ∉ line) :
    ∃ returns, line = stripLineEnd line ++ returns ∧ ∀ c ∈ returns, c = '\r' := by
  -- What is stripped off is the run of line end characters that the line turned around starts with.
  let isEnd := fun c : Char => decide (c = '\n') || decide (c = '\r')
  have whole : (line.reverse.takeWhile isEnd ++ line.reverse.dropWhile isEnd).reverse = line := by
    rw [List.takeWhile_append_dropWhile, List.reverse_reverse]
  rw [List.reverse_append] at whole
  refine ⟨(line.reverse.takeWhile isEnd).reverse, ?_, ?_⟩
  · simpa only [stripLineEnd, Bool.decide_or] using whole.symm
  · intro c member
    have stripped := List.mem_reverse.mp member
    have inLine : c ∈ line := List.mem_reverse.mp ((List.takeWhile_sublist isEnd).mem stripped)
    have either : c = '\n' ∨ c = '\r' := by
      simpa [isEnd] using List.all_eq_true.mp List.all_takeWhile c stripped
    rcases either with rfl | isReturn
    · contradiction
    · exact isReturn

/-- Stripping its end off a line without a newline changes nothing that shows. -/
theorem shown_ofText_stripLineEnd {line : List Char} (unended : '\n' ∉ line)
    (closed : Piece.Closed (stripLineEnd line)) :
    Piece.shown (Piece.ofText line) = Piece.shown (Piece.ofText (stripLineEnd line)) := by
  obtain ⟨returns, same, only⟩ := exists_returns unended
  have shown := Piece.shown_ofText_append_returns closed only
  rwa [← same] at shown

/-- A text shows what its lines show when each is stripped of its end. -/
theorem shown_ofText_eq_flatMap {text rest : List Char} {parts : List (List Char)}
    (parted : Parted '\n' text parts rest)
    (closed : ∀ line ∈ withMarks '\n' parts rest, Piece.Closed (stripLineEnd line)) :
    Piece.shown (Piece.ofText text) =
      (withMarks '\n' parts rest).flatMap fun line =>
        Piece.shown (Piece.ofText (stripLineEnd line)) := by
  -- Each line shows the same with its carriage returns, and the newlines keep the lines apart.
  obtain ⟨rfl, unmarked, unfinished⟩ := parted
  obtain ⟨closedParts, closedRest⟩ := List.forall_mem_append.mp closed
  have stripped : ∀ part ∈ parts, Piece.Closed (stripLineEnd part) := by
    intro part member
    rw [← stripLineEnd_append_newline]
    exact closedParts _ (List.mem_map_of_mem member)
  have alike : ∀ part ∈ parts, Piece.shown (Piece.ofText part) =
      Piece.shown (Piece.ofText (stripLineEnd part)) := fun part member =>
    shown_ofText_stripLineEnd (unmarked part member) (stripped part member)
  have whole : ∀ part ∈ parts, Piece.Closed part := by
    intro part member
    rw [Piece.Closed, alike part member]
    exact stripped part member
  have last : Piece.shown (Piece.ofText rest) =
      (if rest.isEmpty then [] else [rest]).flatMap fun line =>
        Piece.shown (Piece.ofText (stripLineEnd line)) := by
    cases rest with
    | nil => exact Piece.shown_ofText_nil
    | cons c rest => simpa using shown_ofText_stripLineEnd unfinished (closedRest _ (by simp))
  rw [Piece.shown_ofText_lines whole, List.flatMap_congr alike, last, withMarks,
    List.flatMap_append, List.flatMap_map]
  simp only [stripLineEnd_append_newline]

/-- A line of a text, stripped of its end, has no other line after it. -/
theorem lineAfter_stripLineEnd {text rest line : List Char} {parts : List (List Char)}
    (parted : Parted '\n' text parts rest) (member : line ∈ withMarks '\n' parts rest) :
    Scan.lineAfter (stripLineEnd line) = 1 := by
  have single {line : List Char} (unended : '\n' ∉ line) :
      Scan.lineAfter (stripLineEnd line) = 1 := by
    obtain ⟨returns, same, _⟩ := exists_returns unended
    rw [same] at unended
    have none : '\n' ∉ stripLineEnd line := mt (List.mem_append_left returns) unended
    simp [Scan.lineAfter, Scan.newlines, List.count_eq_zero.mpr none]
  rcases List.mem_append.mp member with finished | last
  · obtain ⟨part, inside, rfl⟩ := List.mem_map.mp finished
    rw [stripLineEnd_append_newline]
    exact single (parted.unmarked part inside)
  · split at last
    · cases last
    · obtain rfl := List.mem_singleton.mp last
      exact single parted.unfinished

/-- The lines of a text are all read from its bytes. -/
theorem reads_encode {text rest : List Char} {parts : List (List Char)}
    (parted : Parted '\n' text parts rest) :
    Input.Reads { bytes := Utf8.encode text } (withMarks '\n' parts rest) [] := by
  -- No byte of another character is that of a newline.
  obtain ⟨rfl, unmarked, unfinished⟩ := parted
  have marked (part : List Char) :
      Utf8.encode (part ++ ['\n']) = Utf8.encode part ++ [Input.lineEnd] := Utf8.encode_append _ _
  have joined : Utf8.encode (parts.flatMap (· ++ ['\n'])) =
      (parts.map Utf8.encode).flatMap (· ++ [Input.lineEnd]) := by
    rw [Utf8.encode, List.flatMap_assoc, List.flatMap_map]
    exact congrArg parts.flatMap (funext marked)
  have lines : (withMarks '\n' parts rest).map Utf8.encode =
      withMarks Input.lineEnd (parts.map Utf8.encode) (Utf8.encode rest) := by
    simp only [withMarks, List.map_append, List.map_map, Utf8.isEmpty_encode]
    congr 1
    · exact congrArg (List.map · parts) (funext marked)
    · cases rest <;> rfl
  refine ⟨⟨parts.map Utf8.encode, Utf8.encode rest, ⟨?_, ?_, ?_⟩, ?_⟩, by simp⟩
  · rw [Utf8.encode_append, joined]
  · intro part member
    obtain ⟨text, inside, rfl⟩ := List.mem_map.mp member
    exact mt Utf8.newline_mem_encode.mp (unmarked text inside)
  · exact mt Utf8.newline_mem_encode.mp unfinished
  · simpa using lines

/-- The session after it put out some more bytes without limits, and with another reporter. -/
def movedOn (session : Session) (bytes : List UInt8) (reporter : Reporter) : Session :=
  { session with out.received := session.out.received ++ bytes, reporter }

section Unlimited

variable {session : Session} (unlimited : session.out.settings = {})

include unlimited

/-- Where nothing limits the output, a program is listed in full and counted. -/
theorem run_of_unlimited (source : List Char) :
    let scan := Scan.ofText source
    session.run source = (.ok scan.tokens.length,
      session.movedOn (session.worded scan.tokens)
        (session.reporter.told [.report scan.diagnostics, .flush])) := by
  intro scan
  rw [session.run_eq source, Sink.put_of_unlimited unlimited]
  rfl

/-- A script is listed as any program is, and its outcome is read off the reporter after that. -/
theorem runScript_of_unlimited (path : String) (bytes : List UInt8) :
    let scan := Scan.ofText (Utf8.decodeLossy bytes)
    let reported := session.reporter.told [.report scan.diagnostics, .flush]
    session.runScript path (.ok bytes) = (.ok (if reported.hadError then .faulty else .success),
      session.movedOn (session.worded scan.tokens) reported) := by
  intro scan reported
  rw [runScript, run_of_unlimited unlimited]
  rfl

/-- When nothing keeps a session from putting all out, every line is reported on and forgotten. -/
theorem notices_of_unlimited (lines : List (List Char)) : session.notices lines =
    lines.flatMap fun line => [.report (scanLine line).diagnostics, .flush, .reset] := by
  -- Every line leaves the session without limits for the lines after it.
  induction lines generalizing session with
  | nil => rfl
  | cons line later ih =>
    have still : (session.answered line).out.settings = {} := by
      rw [answered, Sink.putAll_of_unlimited unlimited]
      exact unlimited
    rw [notices_cons, noticesAfter_nil, ih still]
    simp [Sink.delivers_of_unlimited unlimited]

/-- The prompt goes on to the end of the input, or to the first line that is no text. -/
theorem runPrompt_of_unlimited {input : Input} {lines : List (List Char)}
    {unread : List (List UInt8)} (reads : input.Reads lines unread) :
    session.runPrompt input =
      (if unread ≠ [] then .error (.console .notText)
        else if input.fails then .error (.console .inputFailed)
        else .ok (),
        session.movedOn (session.transcript lines)
          (session.reporter.told (lines.flatMap fun line =>
            [.report (scanLine line).diagnostics, .flush, .reset]))) := by
  rw [session.runPrompt_eq reads, Sink.putAll_of_unlimited unlimited,
    notices_of_unlimited unlimited, Input.failure?]
  cases unread with
  | cons line later => rfl
  | nil => cases input.fails <;> rfl

/-- On an output without limits, a prompt goes well exactly on an input that is all text. -/
theorem runPrompt_eq_ok_iff (input : Input) : (session.runPrompt input).1 = .ok () ↔
    input.fails = false ∧ ∃ text, input.bytes = Utf8.encode text := by
  constructor
  · intro finished
    -- No line is left unread, and the texts of the lines make up the text of the input.
    obtain ⟨texts, unread, reads⟩ := input.exists_reads
    rw [runPrompt_of_unlimited unlimited reads] at finished
    have noneLeft : unread = [] := by
      by_contra left
      simp [left] at finished
    have whole : input.fails = false := by
      cases fails : input.fails with
      | false => rfl
      | true => simp [noneLeft, fails] at finished
    refine ⟨whole, texts.flatten, ?_⟩
    rw [← Input.flatten_lines whole, reads.lines_eq, noneLeft, List.append_nil,
      Utf8.flatten_map_encode]
  · intro isText
    obtain ⟨whole, text, encoded⟩ := isText
    obtain ⟨bytes, fails⟩ := input
    obtain rfl : fails = false := whole
    obtain rfl : bytes = Utf8.encode text := encoded
    obtain ⟨parts, rest, parted⟩ := exists_parted '\n' text
    rw [runPrompt_of_unlimited unlimited (reads_encode parted)]
    simp

end Unlimited

/-- What a script and the same text at the prompt come to, on a sink that never fails. -/
structure ScannedAlike (session : Session) (path : String) (text : List Char)
    (lines : List (List Char)) : Prop where
  finished : (session.runPrompt { bytes := Utf8.encode text }).1 = .ok ()
  promptOut : (session.runPrompt { bytes := Utf8.encode text }).2.out.received =
    session.out.received ++ session.transcript lines
  scriptOut : (session.runScript path (.ok (Utf8.encode text))).2.out.received =
    session.out.received ++ session.worded (Scan.ofText text).tokens
  /-- The tokens are the same, without the marks at the end of each line and of the script. -/
  tokens : ((lines.flatMap fun line => (scanLine line).tokens.dropLast) ==
    (Scan.ofText text).tokens.dropLast) = true
  promptTold : ∀ reporter,
    ({ session with reporter }.runPrompt { bytes := Utf8.encode text }).2.reporter =
      reporter.told (lines.flatMap fun line =>
        [.report (scanLine line).diagnostics, .flush, .reset])
  scriptTold : ∀ reporter,
    ({ session with reporter }.runScript path (.ok (Utf8.encode text))).2.reporter =
      reporter.told [.report (Scan.ofText text).diagnostics, .flush]
  /-- The faults are the same, too. -/
  faults : (lines.flatMap fun line => (scanLine line).diagnostics.map Diagnostic.fault) =
    (Scan.ofText text).diagnostics.map Diagnostic.fault
  unexpected : ∀ line ∈ lines, ∀ diagnostic ∈ (scanLine line).diagnostics,
    diagnostic.line = 1 ∧ ∃ grapheme, diagnostic.fault = .unexpectedCharacter grapheme

/-- A text none of whose lines leaves a string open is scanned alike by both. -/
theorem scannedAlike (session : Session) (path : String) {text rest : List Char}
    {parts : List (List Char)} (parted : Parted '\n' text parts rest)
    (unlimited : session.out.settings = {})
    (closed : ∀ line ∈ withMarks '\n' parts rest, ∀ diagnostic ∈ (scanLine line).diagnostics,
      diagnostic.fault ≠ .unterminatedString) :
    ScannedAlike session path text (withMarks '\n' parts rest) := by
  have shown := shown_ofText_eq_flatMap parted fun line member =>
    Piece.closed_of_diagnostics (closed line member)
  have free (reporter : Reporter) : ({ session with reporter } : Session).out.settings = {} :=
    unlimited
  have prompted (reporter : Reporter) :=
    runPrompt_of_unlimited (free reporter) (reads_encode parted)
  have scripted (reporter : Reporter) :=
    runScript_of_unlimited (free reporter) path (Utf8.encode text)
  simp only [Utf8.decodeLossy_encode] at scripted
  constructor
  case finished =>
    rw [prompted session.reporter]
    rfl
  case promptOut =>
    rw [prompted session.reporter]
    rfl
  case scriptOut =>
    rw [scripted session.reporter]
    rfl
  case tokens =>
    rw [beq_iff_map_identity, Scan.map_identity_tokens, shown, List.map_flatMap,
      List.filterMap_flatMap]
    exact congrArg (withMarks '\n' parts rest).flatMap
      (funext fun line => Scan.map_identity_tokens _)
  case promptTold =>
    intro reporter
    rw [prompted reporter]
    rfl
  case scriptTold =>
    intro reporter
    rw [scripted reporter]
    rfl
  case faults =>
    rw [Scan.map_fault_diagnostics, shown, List.filterMap_flatMap]
    exact congrArg (withMarks '\n' parts rest).flatMap
      (funext fun line => Scan.map_fault_diagnostics _)
  case unexpected =>
    intro line member diagnostic reported
    have last := lineAfter_stripLineEnd parted member
    have least := Scan.le_diagnostic_line reported
    have most := Scan.diagnostic_line_le reported
    refine ⟨by omega, ?_⟩
    cases fault : diagnostic.fault with
    | unexpectedCharacter grapheme => exact ⟨grapheme, rfl⟩
    | unterminatedString => exact absurd fault (closed line member diagnostic reported)

/-- A prefix before a line end, a comment up to one, and a last line that ends in returns. -/
theorem scannedAlike_marked :
    let session : Session := { reporter := .collecting [] }
    let parts := ["+\u0600\r".toList, "\"\u0301\" // 1.\r".toList]
    let rest := "@\r\r".toList
    let text := "+\u0600\r\n\"\u0301\" // 1.\r\n@\r\r".toList
    Parted '\n' text parts rest ∧ session.out.settings = {} ∧
      (∀ line ∈ withMarks '\n' parts rest, ∀ diagnostic ∈ (scanLine line).diagnostics,
        diagnostic.fault ≠ .unterminatedString) ∧
      ScannedAlike session "marked.lox" text (withMarks '\n' parts rest) := by
  intro session parts rest text
  have parted : Parted '\n' text parts rest := ⟨by decide, by decide, by decide⟩
  have closed : ∀ line ∈ withMarks '\n' parts rest, ∀ diagnostic ∈ (scanLine line).diagnostics,
      diagnostic.fault ≠ .unterminatedString := by
    unfold parts rest
    decide +kernel
  exact ⟨parted, rfl, closed, scannedAlike session "marked.lox" parted rfl closed⟩

end LoxTokens.Session
