import LoxTokens.Proofs.Piece.Separator
import LoxTokens.Proofs.Scan.Segments
import Mathlib.Data.List.Basic

/-! Lines count newlines: those in front of what is reported, and all of them at the end. -/

namespace LoxTokens

/-- Whether a piece of some role can hold a newline: only strings go on past one. -/
def Role.holdsNewlines : Role → Bool
  | .newline | .token .string | .unterminated => true
  | _ => false

/-- Newlines are in strings, closed or not, or on their own. -/
theorem Role.eq_of_holdsNewlines {role : Role} (several : role.holdsNewlines) :
    role = .newline ∨ role = .unterminated ∨ role = .token .string := by
  cases role with
  | token kind => cases kind <;> simp_all [Role.holdsNewlines]
  | _ => simp_all [Role.holdsNewlines]

namespace Piece

/-- Some pieces, each together with the text in front of it. -/
def placed (before : List Char) : List Piece → List (List Char × Piece)
  | [] => []
  | piece :: later => (before, piece) :: placed (before ++ piece.text) later

/-- The text in front of a piece is what the earlier pieces hold. -/
theorem exists_of_mem_placed {before : List Char} {pieces : List Piece}
    {entry : List Char × Piece} (member : entry ∈ placed before pieces) :
    ∃ earlier later, pieces = earlier ++ entry.2 :: later ∧
      entry.1 = before ++ earlier.flatMap text := by
  -- Each piece passed on the way is one of the earlier ones.
  induction pieces generalizing before with
  | nil => cases member
  | cons piece later ih =>
    rcases List.mem_cons.mp member with rfl | member
    · exact ⟨[], later, rfl, by simp⟩
    · obtain ⟨earlier, rest, rfl, place⟩ := ih member
      exact ⟨piece :: earlier, rest, rfl, by simp [place]⟩

/-- A rule that can take no newline takes none. -/
theorem ne_newline_of_cuts {role : Role} {taken later : List Grapheme}
    (cut : Cuts role taken later) (oneLine : role.holdsNewlines = false) :
    ∀ grapheme ∈ taken, grapheme ≠ ['\n'] := by
  -- Blanks are no newlines, comments stop at them, and other pieces take no separator at all.
  have sorts : role = .blank ∨ role = .comment ∨ role.isSolid := by
    cases role with
    | token kind => cases kind <;> first | contradiction | exact .inr (.inr rfl)
    | _ => first | contradiction | simp [Role.isSolid]
  rcases sorts with rfl | rfl | solid
  · cases cut with
    | @blank c _ blank =>
      have other : c ≠ '\n' := by
        rintro rfl
        contradiction
      simpa using other
  · cases cut with
    | comment within => simpa using within
  · exact ne_separator_of_cuts cut solid (.inr rfl)

/-- A piece with a newline in it is a newline or a string. -/
theorem holdsNewlines_of_mem {source : List Char} {piece : Piece}
    (member : piece ∈ ofText source) (found : '\n' ∈ piece.text) :
    piece.role.holdsNewlines = true := by
  -- Newlines are graphemes of their own, and the other rules take none of them.
  obtain ⟨before, after, divided⟩ := List.append_of_mem member
  obtain ⟨earlier, taken, later, whole, cut, same, _⟩ := exists_cuts_of_divide divided
  have apart : Apart (· = '\n') taken :=
    (newlines_apart source).of_subset fun grapheme inside => by simp [whole, inside]
  rw [same] at found
  cases oneLine : piece.role.holdsNewlines with
  | true => rfl
  | false => exact absurd found (apart.not_mem_flatten rfl (ne_newline_of_cuts cut oneLine))

end Piece

namespace Scan

/-- The line that a source is on after some text: it starts on the first one. -/
def lineAfter (text : List Char) : Nat := 1 + newlines text

/-- The token that a piece is, on the line that its first character is on. -/
def tokenAt? : List Char × Piece → Option Token
  | (before, ⟨.token kind, lexeme⟩) => some (.ofLexeme kind lexeme (lineAfter before))
  | _ => none

/-- The diagnostic that a piece earns, in a source with a given last line. -/
def diagnosticAt? (lastLine : Nat) : List Char × Piece → Option Diagnostic
  | (before, ⟨.unexpected, text⟩) =>
    some ⟨lineAfter before, .unexpectedCharacter (String.ofList text)⟩
  | (_, ⟨.unterminated, _⟩) => some ⟨lastLine, .unterminatedString⟩
  | _ => none

/-- The line counter of a scan has counted the newlines in front of every piece. -/
theorem located_eq_map_placed (before : List Char) (pieces : List Piece) :
    located (lineAfter before) pieces =
      (Piece.placed before pieces).map fun entry => (lineAfter entry.1, entry.2) := by
  -- A piece moves the counter on by its newlines, and the text in front by all it holds.
  induction pieces generalizing before with
  | nil => rfl
  | cons piece later ih =>
    have moved : lineAfter before + newlines piece.text = lineAfter (before ++ piece.text) := by
      simp [lineAfter, Nat.add_assoc]
    simp [located, Piece.placed, moved, ih]

/-- No piece starts before the line that the first one starts on. -/
theorem le_of_mem_located {line : Nat} {pieces : List Piece} {entry : Nat × Piece}
    (member : entry ∈ located line pieces) : line ≤ entry.1 := by
  induction pieces generalizing line with
  | nil => cases member
  | cons piece later ih =>
    rcases List.mem_cons.mp member with rfl | member
    · exact Nat.le_refl _
    · exact Nat.le_trans (Nat.le_add_right _ _) (ih member)

/-- The lines of pieces go up by at least the newlines that the pieces hold. -/
theorem pairwise_located (line : Nat) (pieces : List Piece) :
    (located line pieces).Pairwise fun earlier later =>
      earlier.1 + newlines earlier.2.text ≤ later.1 := by
  -- What is left of the pieces starts where the first one ends, and no line is before that.
  induction pieces generalizing line with
  | nil => exact .nil
  | cons piece later ih => exact .cons (fun _ => le_of_mem_located) (ih _)

/-- No piece goes on past the last line of the text. -/
theorem located_le_last {line : Nat} {pieces : List Piece} {entry : Nat × Piece}
    (member : entry ∈ located line pieces) :
    entry.1 + newlines entry.2.text ≤ line + newlines (pieces.flatMap Piece.text) := by
  -- Each piece adds the newlines it holds to those of the pieces in front of it.
  induction pieces generalizing line with
  | nil => cases member
  | cons piece later ih =>
    rw [List.flatMap_cons, newlines_append, ← Nat.add_assoc]
    rcases List.mem_cons.mp member with rfl | member
    · exact Nat.le_add_right _ _
    · exact ih member

/-- No piece of a text goes on past the last line. -/
theorem located_ofText_le {text : List Char} {entry : Nat × Piece}
    (member : entry ∈ located 1 (Piece.ofText text)) :
    entry.1 + newlines entry.2.text ≤ lineAfter text := by
  have bound := located_le_last member
  rwa [Piece.flatMap_text_ofText] at bound

/-- A token is on the line its piece starts on. -/
theorem line_of_tokenOf? {entry : Nat × Piece} {token : Token}
    (made : tokenOf? entry = some token) : token.line = entry.1 := by
  obtain ⟨line, role, text⟩ := entry
  cases role with
  | token kind =>
    obtain rfl := Option.some.inj made
    rfl
  | _ => cases made

/-- A diagnostic is on a line that its piece is on. -/
theorem line_of_diagnosticOf? {entry : Nat × Piece} {diagnostic : Diagnostic}
    (made : diagnosticOf? entry = some diagnostic) :
    entry.1 ≤ diagnostic.line ∧ diagnostic.line ≤ entry.1 + newlines entry.2.text := by
  obtain ⟨line, role, text⟩ := entry
  cases role with
  | unexpected | unterminated =>
    obtain rfl := Option.some.inj made
    simp
  | _ => cases made

/-- No token is past the last line. -/
theorem token_line_le {text : List Char} {token : Token} (member : token ∈ (ofText text).tokens) :
    token.line ≤ lineAfter text := by
  rw [tokens_ofText, List.mem_append, List.mem_singleton] at member
  rcases member with member | rfl
  · obtain ⟨entry, inside, made⟩ := List.mem_filterMap.mp member
    have bound := located_ofText_le inside
    have line := line_of_tokenOf? made
    omega
  · exact Nat.le_refl _

/-- No diagnostic is past the last line. -/
theorem diagnostic_line_le {text : List Char} {diagnostic : Diagnostic}
    (member : diagnostic ∈ (ofText text).diagnostics) : diagnostic.line ≤ lineAfter text := by
  rw [diagnostics_ofText] at member
  obtain ⟨entry, inside, made⟩ := List.mem_filterMap.mp member
  have bound := located_ofText_le inside
  have line := line_of_diagnosticOf? made
  omega

/-- No diagnostic is before the first line. -/
theorem le_diagnostic_line {text : List Char} {diagnostic : Diagnostic}
    (member : diagnostic ∈ (ofText text).diagnostics) : 1 ≤ diagnostic.line := by
  rw [diagnostics_ofText] at member
  obtain ⟨entry, inside, made⟩ := List.mem_filterMap.mp member
  exact Nat.le_trans (le_of_mem_located inside) (line_of_diagnosticOf? made).1

/-- The lines of tokens never go down, and the mark at the end is on the last one. -/
theorem pairwise_token_line (text : List Char) :
    (ofText text).tokens.Pairwise (·.line ≤ ·.line) := by
  rw [tokens_ofText, List.pairwise_append]
  refine ⟨?_, List.pairwise_singleton _ _, ?_⟩
  · refine (pairwise_located 1 (Piece.ofText text)).filterMap _ ?_
    intro earlier later step token made next madeNext
    have line := line_of_tokenOf? made
    have nextLine := line_of_tokenOf? madeNext
    omega
  · intro token member mark isMark
    obtain rfl := List.mem_singleton.mp isMark
    exact token_line_le (by rw [tokens_ofText]; exact List.mem_append_left _ member)

/-- The lines of diagnostics never go down. -/
theorem pairwise_diagnostic_line (text : List Char) :
    (ofText text).diagnostics.Pairwise (·.line ≤ ·.line) := by
  -- A string without an end is reported below its start, but not below what follows it.
  rw [diagnostics_ofText]
  refine (pairwise_located 1 (Piece.ofText text)).filterMap _ ?_
  intro earlier later step diagnostic made next madeNext
  have line := line_of_diagnosticOf? made
  have nextLine := line_of_diagnosticOf? madeNext
  omega

/-- Where a text leaves a string open, the text ends with it. -/
theorem diagnosticOf?_eq_diagnosticAt? {source : List Char} {entry : List Char × Piece}
    (member : entry ∈ Piece.placed [] (Piece.ofText source)) :
    diagnosticOf? (lineAfter entry.1, entry.2) = diagnosticAt? (lineAfter source) entry := by
  obtain ⟨earlier, later, divided, place⟩ := Piece.exists_of_mem_placed member
  obtain ⟨before, role, text⟩ := entry
  cases role with
  | unterminated =>
    -- Nothing comes after it, so its lines are the last ones of the source.
    have fits := Piece.fits_of_divide (newlines_apart source) divided
    obtain rfl : later = [] := fits.2.2
    obtain rfl : before = earlier.flatMap Piece.text := place
    have whole := Piece.flatMap_text_ofText source
    simp only [divided, List.flatMap_append, List.flatMap_singleton] at whole
    simp [diagnosticOf?, diagnosticAt?, lineAfter, ← whole, Nat.add_assoc]
  | _ => rfl

end Scan

/-- Every line in the scan of a source is counted by newlines of the source. -/
structure LinesCounted (source : String) : Prop where
  /-- The pieces, one after another, are the source, so that each has its place in it. -/
  covers : (Piece.ofText source.toList).flatMap Piece.text = source.toList
  /-- A token is on the line of its first character, and the end of input on the last line. -/
  tokens : (tokenize source).tokens =
    (Piece.placed [] (Piece.ofText source.toList)).filterMap Scan.tokenAt? ++
      [.endOfInput (Scan.lineAfter source.toList)]
  /-- An unexpected character is reported on its own line, and an open string on the last one. -/
  diagnostics : (tokenize source).diagnostics =
    (Piece.placed [] (Piece.ofText source.toList)).filterMap
      (Scan.diagnosticAt? (Scan.lineAfter source.toList))
  /-- No other piece than a newline or a string moves the line on. -/
  newlines : ∀ piece ∈ Piece.ofText source.toList, '\n' ∈ piece.text → piece.role.holdsNewlines
  tokensInOrder : (tokenize source).tokens.Pairwise (·.line ≤ ·.line)
  diagnosticsInOrder : (tokenize source).diagnostics.Pairwise (·.line ≤ ·.line)
  /-- Nothing comes after the line that the input ends on. -/
  tokensWithin : ∀ token ∈ (tokenize source).tokens, token.line ≤ Scan.lineAfter source.toList
  diagnosticsWithin : ∀ diagnostic ∈ (tokenize source).diagnostics,
    diagnostic.line ≤ Scan.lineAfter source.toList

/-- Lines count newlines exactly, in every source. -/
theorem linesCounted (source : String) : LinesCounted source := by
  -- The scan is read off its located pieces, whose lines the counter has counted.
  have located : Scan.located 1 (Piece.ofText source.toList) =
      (Piece.placed [] (Piece.ofText source.toList)).map
        fun entry => (Scan.lineAfter entry.1, entry.2) := Scan.located_eq_map_placed [] _
  refine ⟨Piece.flatMap_text_ofText _, ?_, ?_, fun _ => Piece.holdsNewlines_of_mem,
    Scan.pairwise_token_line _, Scan.pairwise_diagnostic_line _,
    fun _ => Scan.token_line_le, fun _ => Scan.diagnostic_line_le⟩
  · rw [tokenize, Scan.tokens_ofText, located, List.filterMap_map]
    refine congrArg (· ++ _) (List.filterMap_congr ?_)
    rintro ⟨before, role, text⟩ _
    cases role <;> rfl
  · rw [tokenize, Scan.diagnostics_ofText, located, List.filterMap_map]
    exact List.filterMap_congr fun entry => Scan.diagnosticOf?_eq_diagnosticAt?

-- A string carries the line of its opening quote, and what comes after it the line of the other.
example : (tokenize "a\r\n\"b\nc\" d").tokens.map Token.line = [1, 2, 3, 3] := by decide +kernel

end LoxTokens
