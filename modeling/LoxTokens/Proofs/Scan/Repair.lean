import LoxTokens.Proofs.Scan.LineEnd
import LoxTokens.Proofs.Scan.Lines

/-! A string that a text leaves open is its last piece, and a newline and a quote close it. -/

namespace LoxTokens

namespace Piece

/-- A text ends in a string that nothing closes, after some other pieces. -/
def LeavesOpen (text : List Char) (pieces : List Piece) (contents : List Char) : Prop :=
  -- The quote that opens the string is the first character of its piece.
  ofText text = pieces ++ [⟨.unterminated, '"' :: contents⟩]

/-- An open string starts with a quote, and nothing comes after it. -/
theorem leavesOpen_of_mem {text : List Char} {earlier later : List Piece} {piece : Piece}
    (divided : ofText text = earlier ++ piece :: later) (isOpen : piece.role = .unterminated) :
    later = [] ∧ ∃ contents, LeavesOpen text earlier contents := by
  -- Every piece fits its role, and this is what the role of an open string asks for.
  obtain ⟨role, lexeme⟩ := piece
  obtain rfl : role = .unterminated := isOpen
  obtain ⟨_, ⟨contents, rfl⟩, rfl⟩ := fits_of_divide (newlines_apart text) divided
  exact ⟨rfl, contents, divided⟩

/-- Only the last piece of a text can be an open string. -/
theorem LeavesOpen.role_ne {text : List Char} {pieces : List Piece} {contents : List Char}
    (leaves : LeavesOpen text pieces contents) : ∀ piece ∈ pieces, piece.role ≠ .unterminated := by
  -- Something comes after each of the others.
  intro piece member isOpen
  obtain ⟨earlier, later, rfl⟩ := List.append_of_mem member
  rw [LeavesOpen, List.append_assoc, List.cons_append] at leaves
  obtain ⟨nothing, _⟩ := leavesOpen_of_mem leaves isOpen
  simp at nothing

/-- The text in front of an open string is what the other pieces hold. -/
theorem LeavesOpen.eq_append {text : List Char} {pieces : List Piece} {contents : List Char}
    (leaves : LeavesOpen text pieces contents) :
    text = pieces.flatMap Piece.text ++ '"' :: contents := by
  rw [← flatMap_text_ofText text, leaves, List.flatMap_append]
  simp

/-- A newline and a quote are read on their own after any text. -/
theorem graphemes_append_newline_quote (text : List Char) :
    graphemes (text ++ ['\n', '"']) = graphemes text ++ [['\n'], ['"']] :=
  graphemes_append_ascii rfl (not_hidden_newline text) ['"']

/-- A newline and a quote close the open string at the end, and change no piece before it. -/
theorem divide_append_newline_quote {graphemes : List Grapheme} {pieces : List Piece}
    {opened : List Char} (divided : divide graphemes = pieces ++ [⟨.unterminated, opened⟩]) :
    divide (graphemes ++ [['\n'], ['"']]) =
      pieces ++ [⟨.token .string, opened ++ ['\n', '"']⟩] := by
  -- The newline ends every piece but the open string, which then ends at the quote.
  induction graphemes using cuts_induction generalizing pieces with
  | nil => simp at divided
  | @cut role taken later cut ih =>
    rw [divide_append cut] at divided
    cases pieces with
    | nil =>
      -- The open string itself takes the newline in, and the quote ends it.
      obtain ⟨same, _⟩ := List.cons.inj divided
      obtain ⟨rfl, rfl⟩ := Piece.mk.inj same
      cases cut with
      | @unterminated body within =>
        have longer : ∀ grapheme ∈ body ++ [['\n']], grapheme ≠ ['"'] :=
          List.forall_mem_append.mpr ⟨within, by simp⟩
        have closes : Cuts (.token .string) (['"'] :: (body ++ [['\n']] ++ [['"']])) [] :=
          .string longer
        simpa using divide_append closes
    | cons first pieces =>
      obtain ⟨rfl, rest⟩ := List.cons.inj divided
      -- What is left has a piece of its own, and an open string would leave nothing.
      have goesOn : role ≠ .unterminated := by
        rintro rfl
        cases cut
        simp at rest
      have separates : Separates '\n' role := ⟨.inr rfl, goesOn, fun _ => rfl⟩
      rw [List.append_assoc, divide_append (cuts_append_separator cut separates [['"']]),
        ih rest, List.cons_append]

/-- A newline and a quote close the string that a text leaves open. -/
theorem LeavesOpen.ofText_append {text : List Char} {pieces : List Piece} {contents : List Char}
    (leaves : LeavesOpen text pieces contents) : ofText (text ++ ['\n', '"']) =
      pieces ++ [⟨.token .string, '"' :: (contents ++ ['\n', '"'])⟩] := by
  rw [ofText, graphemes_append_newline_quote]
  exact divide_append_newline_quote leaves

/-- A newline and a quote open a string after a text that leaves none open. -/
theorem leavesOpen_append {text : List Char}
    (closed : ∀ piece ∈ ofText text, piece.role ≠ .unterminated) :
    LeavesOpen (text ++ ['\n', '"']) (ofText text ++ [⟨.newline, ['\n']⟩]) [] := by
  -- The newline divides the text from the quote, which is an open string without contents.
  have quote : ofText ['"'] = [⟨.unterminated, ['"']⟩] := by
    have read : graphemes ['"'] = [['"']] ++ [] := rfl
    rw [ofText, read, divide_append (.unterminated (by simp)), divide_nil]
    rfl
  rw [LeavesOpen, Scan.ofText_append_newline ['"'] closed, quote]
  simp

end Piece

namespace Scan

/-- Pieces none of which is an open string earn no report of one. -/
theorem fault_ne_of_closed {line : Nat} {pieces : List Piece}
    (closed : ∀ piece ∈ pieces, piece.role ≠ .unterminated) :
    ∀ diagnostic ∈ (ofPieces line pieces).diagnostics, diagnostic.fault ≠ .unterminatedString := by
  -- The other pieces are reported for an unexpected character or not at all.
  rw [diagnostics_ofPieces]
  intro diagnostic reported
  obtain ⟨⟨start, role, lexeme⟩, located, earned⟩ := List.mem_filterMap.mp reported
  have allowed := closed _ (mem_of_mem_located located)
  cases role with
  | unterminated => contradiction
  | unexpected =>
    obtain rfl := Option.some.inj earned
    exact Fault.noConfusion
  | _ => cases earned

variable {text contents : List Char} {pieces : List Piece}

/-- The tokens of a text that leaves a string open are those of the pieces before it. -/
theorem tokens_of_leavesOpen (leaves : Piece.LeavesOpen text pieces contents) :
    (ofText text).tokens =
      (ofPieces 1 pieces).tokens.dropLast ++ [.endOfInput (lineAfter text)] := by
  rw [ofText, leaves, tokens_ofPieces_append, leaves.eq_append]
  simp [ofPieces, addDiagnostic, lineAfter, Nat.add_assoc]

/-- An open string is reported on the last line, after all that the pieces before it earn. -/
theorem diagnostics_of_leavesOpen (leaves : Piece.LeavesOpen text pieces contents) :
    (ofText text).diagnostics =
      (ofPieces 1 pieces).diagnostics ++ [⟨lineAfter text, .unterminatedString⟩] := by
  rw [ofText, leaves, diagnostics_ofPieces_append, leaves.eq_append]
  simp [ofPieces, addDiagnostic, lineAfter, Nat.add_assoc]

/-- A text that is reported for an open string leaves one open. -/
theorem exists_leavesOpen {diagnostic : Diagnostic}
    (reported : diagnostic ∈ (ofText text).diagnostics)
    (fault : diagnostic.fault = .unterminatedString) :
    ∃ pieces contents, Piece.LeavesOpen text pieces contents := by
  -- If no piece were an open string, there would be no such report.
  by_contra none
  refine fault_ne_of_closed ?_ diagnostic reported fault
  intro piece member isOpen
  obtain ⟨earlier, later, divided⟩ := List.append_of_mem member
  obtain ⟨_, contents, leaves⟩ := Piece.leavesOpen_of_mem divided isOpen
  exact none ⟨earlier, contents, leaves⟩

/-- The report of an open string is the last one, and about the last line. -/
theorem last_of_unterminated {earlier later : List Diagnostic} {diagnostic : Diagnostic}
    (reported : (ofText text).diagnostics = earlier ++ diagnostic :: later)
    (fault : diagnostic.fault = .unterminatedString) :
    later = [] ∧ diagnostic.line = lineAfter text := by
  have member : diagnostic ∈ (ofText text).diagnostics := by
    rw [reported]
    exact List.mem_append_right _ List.mem_cons_self
  obtain ⟨pieces, contents, leaves⟩ := exists_leavesOpen member fault
  rw [diagnostics_of_leavesOpen leaves] at reported
  rcases List.eq_nil_or_concat' later with rfl | ⟨others, last, rfl⟩
  · -- With nothing after it, it is the report that comes last.
    obtain ⟨_, same⟩ := List.append_inj' reported rfl
    obtain rfl := List.singleton_inj.mp same
    exact ⟨rfl, rfl⟩
  · -- The report would come from a piece in front of the open string.
    rw [← List.cons_append, ← List.append_assoc] at reported
    obtain ⟨same, _⟩ := List.append_inj' reported rfl
    have earned : diagnostic ∈ (ofPieces 1 pieces).diagnostics := by
      rw [same]
      exact List.mem_append_right _ List.mem_cons_self
    exact absurd fault (fault_ne_of_closed leaves.role_ne diagnostic earned)

/-- A newline and a quote put the text on another line. -/
theorem lineAfter_append_newline_quote (text : List Char) :
    lineAfter (text ++ ['\n', '"']) = lineAfter text + 1 := by
  simp [lineAfter, newlines, Nat.add_assoc]

/-- Once it is closed, the string is a token on the line that its first quote is on. -/
theorem tokens_append_of_leavesOpen (leaves : Piece.LeavesOpen text pieces contents) :
    (ofText (text ++ ['\n', '"'])).tokens = (ofText text).tokens.dropLast ++
      [.ofLexeme .string ('"' :: (contents ++ ['\n', '"'])) (lineAfter (pieces.flatMap Piece.text)),
        .endOfInput (lineAfter text + 1)] := by
  rw [tokens_of_leavesOpen leaves, List.dropLast_concat, ofText, leaves.ofText_append,
    tokens_ofPieces_append, ← lineAfter_append_newline_quote, leaves.eq_append]
  simp [ofPieces, addToken, lineAfter, Nat.add_assoc]

/-- Nothing is left to report of it. -/
theorem diagnostics_append_of_leavesOpen (leaves : Piece.LeavesOpen text pieces contents) :
    (ofText (text ++ ['\n', '"'])).diagnostics = (ofText text).diagnostics.dropLast := by
  rw [diagnostics_of_leavesOpen leaves, List.dropLast_concat, ofText, leaves.ofText_append,
    diagnostics_ofPieces_append]
  simp [ofPieces, addToken]

/-- A text that leaves no string open gets no token from a newline and a quote. -/
theorem tokens_append_of_closed (closed : ∀ piece ∈ Piece.ofText text, piece.role ≠ .unterminated) :
    (ofText (text ++ ['\n', '"'])).tokens =
      (ofText text).tokens.dropLast ++ [.endOfInput (lineAfter text + 1)] := by
  rw [tokens_of_leavesOpen (Piece.leavesOpen_append closed), lineAfter_append_newline_quote,
    tokens_ofPieces_append]
  simp [ofPieces, ofText]

/-- It gets the report of an open string instead. -/
theorem diagnostics_append_of_closed
    (closed : ∀ piece ∈ Piece.ofText text, piece.role ≠ .unterminated) :
    (ofText (text ++ ['\n', '"'])).diagnostics =
      (ofText text).diagnostics ++ [⟨lineAfter text + 1, .unterminatedString⟩] := by
  rw [diagnostics_of_leavesOpen (Piece.leavesOpen_append closed), lineAfter_append_newline_quote,
    diagnostics_ofPieces_append]
  simp [ofPieces, ofText]

end Scan

/-- What a newline and a quote at the end of a source do to its scan. -/
structure Repairable (source : String) : Prop where
  ends : (tokenize source).tokens.getLast? = some (.endOfInput (Scan.lineAfter source.toList))
  /-- An open string is reported once at most: last of all, and on the last line. -/
  final : ∀ earlier diagnostic later,
    (tokenize source).diagnostics = earlier ++ diagnostic :: later →
      diagnostic.fault = .unterminatedString →
        later = [] ∧ diagnostic.line = Scan.lineAfter source.toList
  /-- If it is, the two characters close the string, and nothing else changes. -/
  closes : (∃ diagnostic ∈ (tokenize source).diagnostics,
      diagnostic.fault = .unterminatedString) →
    ∃ pieces contents, Piece.LeavesOpen source.toList pieces contents ∧
      source.toList = pieces.flatMap Piece.text ++ '"' :: contents ∧
      (tokenize (source ++ "\n\"")).diagnostics = (tokenize source).diagnostics.dropLast ∧
      (tokenize (source ++ "\n\"")).tokens = (tokenize source).tokens.dropLast ++
        [.ofLexeme .string ('"' :: (contents ++ ['\n', '"']))
            (Scan.lineAfter (pieces.flatMap Piece.text)),
          .endOfInput (Scan.lineAfter source.toList + 1)]
  /-- If it is not, they open a string of their own. -/
  opens : (∀ diagnostic ∈ (tokenize source).diagnostics,
      diagnostic.fault ≠ .unterminatedString) →
    (tokenize (source ++ "\n\"")).diagnostics = (tokenize source).diagnostics ++
        [⟨Scan.lineAfter source.toList + 1, .unterminatedString⟩] ∧
      (tokenize (source ++ "\n\"")).tokens = (tokenize source).tokens.dropLast ++
        [.endOfInput (Scan.lineAfter source.toList + 1)]

/-- An open string is reported last, and a newline and a quote close it or open another. -/
theorem repairable (source : String) : Repairable source := by
  have appended : (source ++ "\n\"").toList = source.toList ++ ['\n', '"'] := by simp
  refine ⟨?_, fun _ _ _ => Scan.last_of_unterminated, ?_, ?_⟩
  · rw [tokenize, Scan.tokens_ofText, List.getLast?_concat]
    rfl
  · rintro ⟨diagnostic, reported, fault⟩
    obtain ⟨pieces, contents, leaves⟩ := Scan.exists_leavesOpen reported fault
    refine ⟨pieces, contents, leaves, leaves.eq_append, ?_, ?_⟩
    · rw [tokenize, appended]
      exact Scan.diagnostics_append_of_leavesOpen leaves
    · rw [tokenize, appended]
      exact Scan.tokens_append_of_leavesOpen leaves
  · -- Without a report of one, no piece of the source is an open string.
    intro closed
    have closedPieces : ∀ piece ∈ Piece.ofText source.toList, piece.role ≠ .unterminated :=
      fun piece => (Piece.closed_of_diagnostics closed).role_ne
    constructor
    · rw [tokenize, appended]
      exact Scan.diagnostics_append_of_closed closedPieces
    · rw [tokenize, appended]
      exact Scan.tokens_append_of_closed closedPieces

-- A prefix takes in the quote behind it, so that only the one on the next line closes the string.
example : (tokenize "\"\u0600\"").diagnostics = [⟨1, .unterminatedString⟩] ∧
    (tokenize "\"\u0600\"\n\"").diagnostics = [] := by decide +kernel

end LoxTokens
