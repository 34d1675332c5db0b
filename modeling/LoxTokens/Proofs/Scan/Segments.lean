import LoxTokens.Proofs.Grapheme
import LoxTokens.Proofs.Piece.Divide
import LoxTokens.Proofs.Scan.Located

/-! A scan loses nothing of its source and invents nothing: it accounts for every segment. -/

namespace LoxTokens

namespace Piece

/-- The kind and the lexeme of a segment that is a token. -/
def lexeme? : Piece → Option (Kind × String)
  | ⟨.token kind, text⟩ => some (kind, String.ofList text)
  | _ => none

/-- The fault of a segment that is one, with its own text where the fault shows it. -/
def fault? : Piece → Option Fault
  | ⟨.unexpected, text⟩ => some (.unexpectedCharacter (String.ofList text))
  | ⟨.unterminated, _⟩ => some .unterminatedString
  | _ => none

/-- A segment has text that is right for its role, in front of the segments after it. -/
def Fits (segment : Piece) (later : List Piece) : Prop :=
  segment.text ≠ [] ∧
    match segment.role with
    | .token _ | .unexpected => True
    | .blank => segment.text ∈ [[' '], ['\t'], ['\r']]
    | .newline => segment.text = ['\n']
    -- Nothing but a newline can come right after a comment.
    | .comment => ['/', '/'] <+: segment.text ∧ '\n' ∉ segment.text ∧
        ∀ next, (later.flatMap text).head? = some next → next = '\n'
    | .unterminated => ['"'] <+: segment.text ∧ later = []

end Piece

/-- Segments account for a source text and for all that its scan gives. -/
structure Segmentation (source : String) (segments : List Piece) : Prop where
  /-- The segments, one after another, are the source. -/
  covers : segments.flatMap Piece.text = source.toList
  /-- Every segment is what its role says. -/
  fits : ∀ earlier segment later, segments = earlier ++ segment :: later → segment.Fits later
  /-- The tokens are the segments that are lexemes, in order, and the mark at the end. -/
  lexemes : (tokenize source).tokens.dropLast.map (fun token => (token.kind, token.lexeme)) =
    segments.filterMap Piece.lexeme?
  ends : ∃ line, (tokenize source).tokens.getLast? = some (.endOfInput line)
  /-- The diagnostics are the segments that are faults, in order. -/
  faults : (tokenize source).diagnostics.map Diagnostic.fault = segments.filterMap Piece.fault?

namespace Piece

/-- What a rule cuts off fits its role. -/
theorem fits_of_cuts {role : Role} {taken later : List Grapheme} (cut : Cuts role taken later)
    (apart : Apart (· = '\n') (taken ++ later)) : Fits ⟨role, taken.flatten⟩ (divide later) := by
  -- Every rule says how its text looks, and most of them no more than that it has some.
  cases cut with
  | blank blank =>
    simp only [isBlank, Bool.or_eq_true, decide_eq_true_eq] at blank
    rcases blank with (rfl | rfl) | rfl <;> exact ⟨by simp, by simp⟩
  | newline => exact ⟨by simp, rfl⟩
  | @comment body _ within stops =>
    refine ⟨by simp, ⟨body.flatten, by simp⟩, ?_, ?_⟩
    · have apartBody : Apart (· = '\n') body :=
        apart.of_subset fun grapheme member => by simp [member]
      simpa using apartBody.not_mem_flatten rfl within
    · intro next found
      rw [flatMap_text_divide] at found
      cases later with
      | nil => simp at found
      | cons first more =>
        have newline : first = ['\n'] := by simpa [isJust] using stops first rfl
        simpa [newline, eq_comm] using found
  | @unterminated body within =>
    exact ⟨by simp, ⟨body.flatten, by simp⟩, by simp⟩
  | @unexpected grapheme =>
    have present := (apart grapheme (by simp)).1
    exact ⟨by simpa using present, trivial⟩
  | string | whole | decimal | word | slash | punctuation | alone | paired =>
    exact ⟨by simp, trivial⟩

/-- Every piece of a text fits its role, in front of the pieces after it. -/
theorem fits_of_divide {graphemes : List Grapheme} (apart : Apart (· = '\n') graphemes)
    {earlier : List Piece} {segment : Piece} {later : List Piece}
    (divided : divide graphemes = earlier ++ segment :: later) : segment.Fits later := by
  -- The segment was cut off by its rule, in front of what the later segments divide.
  obtain ⟨role, text⟩ := segment
  obtain ⟨front, taken, rest, rfl, cut, rfl, _, rfl⟩ := exists_cuts_of_divide divided
  exact fits_of_cuts cut (apart.of_subset fun grapheme member => by simp_all)

end Piece

namespace Scan

/-- The tokens that located pieces are have the kinds and the lexemes of the pieces. -/
theorem map_tokenOf? (line : Nat) (pieces : List Piece) :
    ((located line pieces).filterMap tokenOf?).map (fun token => (token.kind, token.lexeme)) =
      pieces.filterMap Piece.lexeme? := by
  -- Taking the line away leaves what the piece alone says.
  have same : (fun entry => (tokenOf? entry).map fun token => (token.kind, token.lexeme)) =
      Piece.lexeme? ∘ Prod.snd := by
    funext ⟨start, role, text⟩
    cases role <;> rfl
  rw [List.map_filterMap, same, ← List.filterMap_map, map_located]

/-- A piece earns a report of its own fault, on whatever line it is. -/
theorem fault_diagnosticOf? (entry : Nat × Piece) :
    (diagnosticOf? entry).map Diagnostic.fault = entry.2.fault? := by
  obtain ⟨start, role, text⟩ := entry
  cases role <;> rfl

/-- The diagnostics that located pieces earn have the faults of the pieces. -/
theorem map_diagnosticOf? (line : Nat) (pieces : List Piece) :
    ((located line pieces).filterMap diagnosticOf?).map Diagnostic.fault =
      pieces.filterMap Piece.fault? := by
  -- Taking the line away leaves what the piece alone says.
  have same : (fun entry => (diagnosticOf? entry).map Diagnostic.fault) =
      Piece.fault? ∘ Prod.snd := funext fault_diagnosticOf?
  rw [List.map_filterMap, same, ← List.filterMap_map, map_located]

end Scan

/-- Every source text has segments that account for it and for its scan. -/
theorem exists_segmentation (source : String) : ∃ segments, Segmentation source segments := by
  -- The pieces of the text are the segments.
  refine ⟨Piece.ofText source.toList, ?_, ?_, ?_, ?_, ?_⟩
  · exact Piece.flatMap_text_ofText source.toList
  · intro earlier segment later divided
    exact Piece.fits_of_divide (newlines_apart source.toList) divided
  · rw [tokenize, Scan.ofText, Scan.tokens_ofPieces, List.dropLast_concat, Scan.map_tokenOf?]
  · exact ⟨_, by rw [tokenize, Scan.ofText, Scan.tokens_ofPieces, List.getLast?_concat]⟩
  · rw [tokenize, Scan.ofText, Scan.diagnostics_ofPieces, Scan.map_diagnosticOf?]

end LoxTokens
