import LoxTokens.Command.Basic
import LoxTokens.Proofs.Output.Accounting
import LoxTokens.Proofs.Scan.Lines
import LoxTokens.Proofs.Session.Input
import LoxTokens.Proofs.Session.Listing

/-! The reports on a source tell its diagnostics, whatever the unexpected characters are. -/

namespace LoxTokens

/-- Items are parted in one way only. -/
theorem Parted.eq_parts {α : Type} {mark : α} {all rest more : List α}
    {parts others : List (List α)} (parted : Parted mark all parts rest)
    (partedToo : Parted mark all others more) : parts = others := by
  obtain ⟨rfl, unmarked, unfinished⟩ := parted
  obtain ⟨same, unmarkedToo, unfinishedToo⟩ := partedToo
  -- The induction cuts off one part with its mark from both sides.
  induction parts generalizing others with
  | nil =>
    cases others with
    | nil => rfl
    | cons part others =>
      -- The rest has no mark, but the part on the other side ends with one.
      refine absurd ?_ unfinished
      have rests : rest = part ++ mark :: (others.flatMap (· ++ [mark]) ++ more) := by
        simpa using same
      simp [rests]
  | cons part parts ih =>
    cases others with
    | nil =>
      refine absurd ?_ unfinishedToo
      have rests : part ++ mark :: (parts.flatMap (· ++ [mark]) ++ rest) = more := by
        simpa using same
      simp [← rests]
    | cons other others =>
      obtain ⟨first, unmarked⟩ := List.forall_mem_cons.mp unmarked
      obtain ⟨firstToo, othersUnmarked⟩ := List.forall_mem_cons.mp unmarkedToo
      obtain ⟨rfl, later⟩ : part = other ∧ parts.flatMap (· ++ [mark]) ++ rest =
          others.flatMap (· ++ [mark]) ++ more :=
        eq_of_append_cons_eq first firstToo (by simpa using same)
      exact congrArg (part :: ·) (ih unmarked later othersUnmarked)

/-- There are as many marks as parts. -/
theorem Parted.count_eq {α : Type} [DecidableEq α] {mark : α} {all rest : List α}
    {parts : List (List α)} (parted : Parted mark all parts rest) :
    all.count mark = parts.length := by
  obtain ⟨rfl, unmarked, unfinished⟩ := parted
  have none : rest.count mark = 0 := List.count_eq_zero.mpr unfinished
  -- Each part has none in it and one behind it.
  induction parts with
  | nil => exact none
  | cons part parts ih =>
    obtain ⟨first, others⟩ := List.forall_mem_cons.mp unmarked
    have before : part.count mark = 0 := List.count_eq_zero.mpr first
    have after := ih others
    simp only [List.flatMap_cons, List.count_append, List.count_singleton_self, List.length_cons]
      at after ⊢
    omega

namespace Fault

/-- The wording of a string without an end. -/
theorem message_unterminatedString : unterminatedString.message = "Unterminated string." := rfl

/-- The wording of an unexpected character shows the character as it is. -/
theorem message_unexpectedCharacter (grapheme : String) :
    (unexpectedCharacter grapheme).message = "Unexpected character '" ++ grapheme ++ "'." := rfl

/-- The two wordings differ in their third characters. -/
theorem message_ne (grapheme : String) :
    unterminatedString.message ≠ (unexpectedCharacter grapheme).message := by
  intro same
  have spelled := congrArg String.toList same
  rw [message_unterminatedString, message_unexpectedCharacter] at spelled
  simp at spelled

/-- The wording of a fault tells which one it is. -/
theorem eq_of_message_eq {left right : Fault} (same : left.message = right.message) :
    left = right := by
  cases left with
  | unterminatedString =>
    cases right with
    | unterminatedString => rfl
    | unexpectedCharacter grapheme => exact absurd same (message_ne grapheme)
  | unexpectedCharacter grapheme =>
    cases right with
    | unterminatedString => exact absurd same.symm (message_ne grapheme)
    | unexpectedCharacter other =>
      -- What stands in front of the character and after it is the same in all reports.
      rw [message_unexpectedCharacter, message_unexpectedCharacter, ← String.toList_inj] at same
      simp only [String.toList_append, List.append_assoc, List.append_cancel_left_eq,
        List.append_cancel_right_eq, String.toList_inj] at same
      rw [same]

end Fault

namespace Diagnostic

/-- In a report, the line number is followed by a bracket. -/
theorem toList_text (diagnostic : Diagnostic) : diagnostic.text.toList = "[line: ".toList ++
    (Nat.toDigits 10 diagnostic.line ++ ']' :: (" Error: " ++ diagnostic.message).toList) := by
  simp [text, labelled, Nat.toList_repr]

/-- Only digits are in a line number. -/
theorem not_mem_toDigits {c : Char} (other : c.isDigit = false) (line : Nat) :
    c ∉ Nat.toDigits 10 line := by
  intro member
  have digit := Nat.isDigit_of_mem_toDigits (by decide) (by decide) member
  rw [other] at digit
  contradiction

/-- A report tells the line and the fault. -/
theorem eq_of_text_eq {left right : Diagnostic} (same : left.text = right.text) : left = right := by
  have spelled := congrArg String.toList same
  rw [toList_text, toList_text, List.append_cancel_left_eq] at spelled
  -- The digits of the line number go up to the first bracket.
  have noDigit : Char.isDigit ']' = false := by decide
  obtain ⟨digits, after⟩ := eq_of_append_cons_eq (not_mem_toDigits noDigit left.line)
    (not_mem_toDigits noDigit right.line) spelled
  have lines : left.line = right.line := by
    calc left.line
        = Nat.ofDigitChars 10 (Nat.toDigits 10 left.line) 0 := Nat.ofDigitChars_ten_toDigits.symm
      _ = Nat.ofDigitChars 10 (Nat.toDigits 10 right.line) 0 := by rw [digits]
      _ = right.line := Nat.ofDigitChars_ten_toDigits
  have faults : left.fault = right.fault := by
    apply Fault.eq_of_message_eq
    rw [← String.toList_inj]
    simpa [message] using after
  cases left
  cases right
  exact congrArg₂ mk lines faults

/-- A report has a newline in it only if the character that it is on has one. -/
theorem newline_mem_text {diagnostic : Diagnostic} (member : '\n' ∈ diagnostic.text.toList) :
    ∃ grapheme, diagnostic.fault = .unexpectedCharacter grapheme ∧ '\n' ∈ grapheme.toList := by
  obtain ⟨line, fault⟩ := diagnostic
  -- It is in none of the words around, and no digit.
  have number : '\n' ∉ Nat.toDigits 10 line := not_mem_toDigits (by decide) line
  have worded : '\n' ∈ fault.message.toList := by
    simpa [toList_text, number, message] using member
  cases fault with
  | unterminatedString =>
    rw [Fault.message_unterminatedString] at worded
    simp at worded
  | unexpectedCharacter grapheme =>
    rw [Fault.message_unexpectedCharacter] at worded
    exact ⟨grapheme, rfl, by simpa using worded⟩

end Diagnostic

/-- The plain reports of some diagnostics as one text, each on a line of its own. -/
def reportText (diagnostics : List Diagnostic) : List Char :=
  diagnostics.flatMap (·.text.toList ++ ['\n'])

/-- The lines on a stream that highlights nothing are such a text. -/
theorem ReportStream.lines_eq_encode (diagnostics : List Diagnostic) :
    lines false diagnostics = Utf8.encode (reportText diagnostics) := by
  -- The label is the plain one, so that every line is the text of its diagnostic.
  have worded (diagnostic : Diagnostic) :
      (diagnostic.worded false).toList = diagnostic.text.toList ++ ['\n'] := by
    have line : diagnostic.worded false = diagnostic.text ++ "\n" := by
      obtain ⟨line, fault⟩ := diagnostic
      cases fault <;> rfl
    rw [line, String.toList_append]
    rfl
  exact congrArg (fun line => Utf8.encode (diagnostics.flatMap line)) (funext worded)

/-- Reports that go on to no other line are parted by the newlines after them. -/
theorem parted_reportText {diagnostics : List Diagnostic}
    (oneLine : ∀ diagnostic ∈ diagnostics, '\n' ∉ diagnostic.text.toList) :
    Parted '\n' (reportText diagnostics) (diagnostics.map (·.text.toList)) [] where
  joined := by rw [List.append_nil, List.flatMap_map, reportText]
  unmarked := by
    intro part member
    obtain ⟨diagnostic, inside, rfl⟩ := List.mem_map.mp member
    exact oneLine diagnostic inside
  unfinished := List.not_mem_nil

/-- No report on a source goes on to another line. -/
theorem Scan.newline_not_mem_text {text : List Char} {diagnostic : Diagnostic}
    (reported : diagnostic ∈ (ofText text).diagnostics) : '\n' ∉ diagnostic.text.toList := by
  intro member
  obtain ⟨grapheme, fault, inside⟩ := Diagnostic.newline_mem_text member
  -- The character would be a piece with a newline in it, and only strings and newlines are.
  have holds := Piece.holdsNewlines_of_mem (mem_diagnostics_ofText reported fault) inside
  contradiction

/-- What a sink without limits holds after a source was scanned and the reports were flushed. -/
def reportsOn (source : String) : List UInt8 :=
  Command.reports (((Reporter.Form.streaming false).fresh {}).served [.scan source, .flush])

/-- The reports on a source are those of its diagnostics. -/
theorem reportsOn_eq (source : String) :
    reportsOn source = Utf8.encode (reportText (tokenize source).diagnostics) := by
  -- Nothing was on the stream before, and the flush hands on all that is.
  show Command.reports (((Reporter.Form.streaming false).fresh {}).serve (.scan source)).flush = _
  rw [Reporter.serve_scan, ← ReportStream.lines_eq_encode]
  exact (List.nil_append _).trans (ReportStream.flatMap_line {} _)

/-- What the reports on a source tell of its diagnostics. -/
structure ReportsTell (source : String) : Prop where
  /-- The newlines are those at the ends of the reports, one for each. -/
  parted : ∃ text, reportsOn source = Utf8.encode text ∧
    Parted '\n' text ((tokenize source).diagnostics.map (·.text.toList)) [] ∧
    text.count '\n' = (tokenize source).diagnostics.length
  /-- Reports on another source are the same only if the diagnostics are. -/
  told : ∀ other, reportsOn source = reportsOn other →
    (tokenize source).diagnostics = (tokenize other).diagnostics

/--
The reports on a source tell its diagnostics.

An unexpected character is shown as it is, and may be a quote or any other mark, but never a
newline, so that the lines of the reports are found again, and in each of them what it reports.
-/
theorem reportsTell (source : String) : ReportsTell source := by
  have parted (any : String) : Parted '\n' (reportText (tokenize any).diagnostics)
      ((tokenize any).diagnostics.map (·.text.toList)) [] := by
    apply parted_reportText
    intro diagnostic member
    exact Scan.newline_not_mem_text member
  refine ⟨⟨_, reportsOn_eq source, parted source, ?_⟩, ?_⟩
  · rw [(parted source).count_eq, List.length_map]
  · intro other same
    -- The same bytes are the same text, which is parted in one way only.
    rw [reportsOn_eq, reportsOn_eq] at same
    have texts : reportText (tokenize source).diagnostics =
        reportText (tokenize other).diagnostics := by
      rw [← Utf8.decodeLossy_encode (reportText _), same, Utf8.decodeLossy_encode]
    have lines := (parted source).eq_parts (texts ▸ parted other)
    refine (List.map_inj_right ?_).mp lines
    intro left right alike
    exact Diagnostic.eq_of_text_eq (String.toList_inj.mp alike)

/-- A quote that is not expected is shown as it is, between two others. -/
example :
    let first := "[line: 1] Error: Unexpected character '''.\n"
    let second := "[line: 1] Error: Unterminated string.\n"
    reportsOn "'\"" = Utf8.encode (first ++ second).toList := by
  decide +kernel

end LoxTokens
