import LoxTokens.Proofs.Grapheme
import LoxTokens.Proofs.Piece.Divide
import LoxTokens.Proofs.Scan.Located

/-! Prefixes hide the ASCII characters they take in, and nothing else ever does. -/

namespace LoxTokens

/-- No ASCII character of a source is lost to the graphemes around it. -/
structure AsciiApart (source : String) : Prop where
  /-- Every ASCII character is read as a grapheme of its own. -/
  standsAlone : ∀ before c after, source.toList = before ++ c :: after → isAscii c →
    StandsAlone before c after
  /-- No report of several characters holds one. -/
  reports : ∀ diagnostic ∈ (tokenize source).diagnostics, ∀ grapheme,
    diagnostic.fault = .unexpectedCharacter grapheme → 2 ≤ grapheme.length →
      ∀ c ∈ grapheme.toList, isAscii c = false
  /-- Every string ends at the first quote after the one that opens it. -/
  strings : ∀ token ∈ (tokenize source).tokens, token.kind = .string →
    ∃ contents, token.literal = .string contents ∧
      token.lexeme.toList = '"' :: contents.toList ++ ['"'] ∧ '"' ∉ contents.toList

namespace Scan

/-- An unexpected character is reported as one of the graphemes of the text. -/
theorem mem_graphemes_of_report {text : List Char} {diagnostic : Diagnostic} {grapheme : String}
    (member : diagnostic ∈ (ofText text).diagnostics)
    (fault : diagnostic.fault = .unexpectedCharacter grapheme) :
    grapheme.toList ∈ graphemes text := by
  -- The report comes from a piece, and the piece from the rule of faults.
  obtain ⟨before, after, found⟩ := List.append_of_mem (mem_diagnostics_ofText member fault)
  obtain ⟨earlier, taken, later, divided, cut, same, _⟩ := Piece.exists_cuts_of_divide found
  obtain ⟨whole, rfl, _⟩ := Piece.eq_of_cuts_unexpected cut
  rw [divided]
  simp_all

/-- A string token holds graphemes of the text none of which is a quote. -/
theorem exists_contents_of_string {text : List Char} {token : Token}
    (member : token ∈ (ofText text).tokens) (kind : token.kind = .string) :
    ∃ body : List Grapheme, token.literal = .string (String.ofList body.flatten) ∧
      token.lexeme.toList = '"' :: (body.flatten ++ ['"']) ∧
      ∀ grapheme ∈ body, grapheme ∈ graphemes text ∧ grapheme ≠ ['"'] := by
  -- The token comes from a piece, and the piece goes from quote to quote.
  rcases mem_tokens_ofText member with rfl | ⟨role, lexeme, line, found, rfl⟩
  · cases kind
  · obtain rfl : role = .string := kind
    obtain ⟨body, rfl, within⟩ := Piece.exists_contents_of_mem found
    refine ⟨body, ?_, ?_, within⟩
    · simp [Token.ofLexeme, Literal.ofQuoted]
    · simp [Token.ofLexeme]

end Scan

/-- The ASCII characters of a source are read apart exactly when no prefix stands before one. -/
theorem asciiApart_iff_nothingHidden (source : String) :
    AsciiApart source ↔ NothingHidden source.toList := by
  -- The places of the characters decide it, and the other two properties follow.
  constructor
  · intro apart before c after placed ascii
    exact (standsAlone_iff ascii).mp (apart.standsAlone before c after placed ascii)
  · intro nothing
    refine ⟨?_, ?_, ?_⟩
    · intro before c after placed ascii
      exact (standsAlone_iff ascii).mpr (nothing before c after placed ascii)
    · intro diagnostic member grapheme fault several c inside
      have read := Scan.mem_graphemes_of_report member fault
      by_cases ascii : isAscii c
      · have alone := congrArg List.length (nothing.eq_singleton read inside ascii)
        simp only [String.length_toList, List.length_singleton] at alone
        omega
      · simpa using ascii
    · intro token member kind
      obtain ⟨body, literal, lexeme, within⟩ := Scan.exists_contents_of_string member kind
      refine ⟨_, literal, by simpa using lexeme, ?_⟩
      have apart : Apart isAscii body :=
        nothing.apart.of_subset fun grapheme inside => (within grapheme inside).1
      have quotes := apart.not_mem_flatten rfl fun grapheme inside => (within grapheme inside).2
      simpa using quotes

/-- A prefix hides an operator, and hides the quote that would end a string. -/
theorem not_asciiApart_prefix :
    let source := "\u0600+\"\u0600\"\""
    (tokenize source).diagnostics = [⟨1, .unexpectedCharacter "\u0600+"⟩] ∧
      (tokenize source).tokens.map (fun token => (token.lexeme, token.literal)) =
        [("\"\u0600\"\"", .string "\u0600\""), ("", .absent)] ∧
      ¬AsciiApart source := by
  intro source
  have reported : (tokenize source).diagnostics = [⟨1, .unexpectedCharacter "\u0600+"⟩] := by
    unfold source
    decide +kernel
  have scanned : (tokenize source).tokens.map (fun token => (token.lexeme, token.literal)) =
      [("\"\u0600\"\"", .string "\u0600\""), ("", .absent)] := by
    unfold source
    decide +kernel
  refine ⟨reported, scanned, ?_⟩
  intro apart
  -- The report holds two characters, and one of them is the plus sign.
  have member : ⟨1, .unexpectedCharacter "\u0600+"⟩ ∈ (tokenize source).diagnostics := by
    rw [reported]
    exact List.mem_singleton_self _
  have beyond := apart.reports _ member _ rfl (by decide +kernel) '+' (by decide +kernel)
  contradiction

end LoxTokens
