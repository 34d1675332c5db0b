import LoxTokens.Scan

/-! A scan read off its pieces, each taken together with the line it starts on. -/

namespace LoxTokens.Scan

/-- The pieces of a text with the lines they start on, when the first starts on a given line. -/
def located (line : Nat) : List Piece → List (Nat × Piece)
  | [] => []
  | piece :: later => (line, piece) :: located (line + newlines piece.text) later

/-- The token that a piece is, if it is one. -/
def tokenOf? : Nat × Piece → Option Token
  | (line, ⟨.token kind, text⟩) => some (.ofLexeme kind text line)
  | _ => none

/-- The diagnostic that a piece earns, if it earns one. -/
def diagnosticOf? : Nat × Piece → Option Diagnostic
  | (line, ⟨.unexpected, text⟩) => some ⟨line, .unexpectedCharacter (String.ofList text)⟩
  -- A string without an end is reported where the text ends, not where it starts.
  | (line, ⟨.unterminated, text⟩) => some ⟨line + newlines text, .unterminatedString⟩
  | _ => none

/-- Lines are counted over one stretch of text after the other. -/
@[simp] theorem newlines_append (left right : List Char) :
    newlines (left ++ right) = newlines left + newlines right :=
  List.count_append

/-- The tokens of a scan are those of its pieces, and the mark after them. -/
theorem tokens_ofPieces (line : Nat) (pieces : List Piece) :
    (ofPieces line pieces).tokens = (located line pieces).filterMap tokenOf? ++
      [.endOfInput (line + newlines (pieces.flatMap Piece.text))] := by
  -- Every piece moves the line on by what it holds, whether or not it is a token.
  induction pieces generalizing line with
  | nil => rfl
  | cons piece later ih =>
    obtain ⟨role, text⟩ := piece
    cases role <;>
      simp [ofPieces, located, List.filterMap_cons, tokenOf?, addToken, addDiagnostic, ih,
        Nat.add_assoc]

/-- The diagnostics of a scan are those of its pieces. -/
theorem diagnostics_ofPieces (line : Nat) (pieces : List Piece) :
    (ofPieces line pieces).diagnostics = (located line pieces).filterMap diagnosticOf? := by
  -- Every piece moves the line on, whether or not it earns a diagnostic.
  induction pieces generalizing line with
  | nil => rfl
  | cons piece later ih =>
    obtain ⟨role, text⟩ := piece
    cases role <;>
      simp [ofPieces, located, List.filterMap_cons, diagnosticOf?, addToken, addDiagnostic, ih]

/-- The tokens of a text are those of its pieces, and the mark on its last line. -/
theorem tokens_ofText (text : List Char) : (ofText text).tokens =
    (located 1 (Piece.ofText text)).filterMap tokenOf? ++ [.endOfInput (1 + newlines text)] := by
  rw [ofText, tokens_ofPieces, Piece.flatMap_text_ofText]

/-- The diagnostics of a text are those of its pieces. -/
theorem diagnostics_ofText (text : List Char) :
    (ofText text).diagnostics = (located 1 (Piece.ofText text)).filterMap diagnosticOf? :=
  diagnostics_ofPieces 1 (Piece.ofText text)

/-- Taking the lines away again leaves the pieces. -/
theorem map_located (line : Nat) (pieces : List Piece) :
    (located line pieces).map Prod.snd = pieces := by
  -- Only lines are put in front of the pieces.
  induction pieces generalizing line with
  | nil => rfl
  | cons piece later ih => simp [located, ih]

/-- A located piece is one of the pieces. -/
theorem mem_of_mem_located {line : Nat} {pieces : List Piece} {entry : Nat × Piece}
    (member : entry ∈ located line pieces) : entry.2 ∈ pieces := by
  -- The piece is left when the line is taken away.
  rw [← map_located line pieces]
  exact List.mem_map_of_mem member

/-- Pieces after others start on the lines those leave off at. -/
theorem located_append (line : Nat) (earlier later : List Piece) :
    located line (earlier ++ later) = located line earlier ++
      located (line + newlines (earlier.flatMap Piece.text)) later := by
  -- The line that the first pieces leave off at is the sum of all they end.
  induction earlier generalizing line with
  | nil => rfl
  | cons piece earlier ih => simp [located, ih, Nat.add_assoc]

/-- Starting farther down moves every piece by as many lines. -/
theorem located_add (lines line : Nat) (pieces : List Piece) :
    located (line + lines) pieces =
      (located line pieces).map fun entry => (entry.1 + lines, entry.2) := by
  -- The difference between the two lines stays the same from piece to piece.
  induction pieces generalizing line with
  | nil => rfl
  | cons piece later ih => simp [located, ← ih, Nat.add_right_comm]

/-- The tokens of pieces after others take the place of the mark at the end of those. -/
theorem tokens_ofPieces_append (line : Nat) (earlier later : List Piece) :
    (ofPieces line (earlier ++ later)).tokens = (ofPieces line earlier).tokens.dropLast ++
      (ofPieces (line + newlines (earlier.flatMap Piece.text)) later).tokens := by
  -- Only the last token of the first pieces is not one of them.
  simp [tokens_ofPieces, located_append, Nat.add_assoc]

/-- The diagnostics of pieces after others come after the diagnostics of those. -/
theorem diagnostics_ofPieces_append (line : Nat) (earlier later : List Piece) :
    (ofPieces line (earlier ++ later)).diagnostics = (ofPieces line earlier).diagnostics ++
      (ofPieces (line + newlines (earlier.flatMap Piece.text)) later).diagnostics := by
  -- Each piece earns its own diagnostic.
  simp [diagnostics_ofPieces, located_append]

/-- A token that is read off some pieces is one of them. -/
theorem exists_piece_of_token {line : Nat} {pieces : List Piece} {token : Token}
    (member : token ∈ (located line pieces).filterMap tokenOf?) : ∃ kind lexeme start,
      ⟨.token kind, lexeme⟩ ∈ pieces ∧ token = .ofLexeme kind lexeme start := by
  obtain ⟨⟨start, role, lexeme⟩, located, made⟩ := List.mem_filterMap.mp member
  cases role with
  | token kind =>
    exact ⟨kind, lexeme, start, mem_of_mem_located located, (Option.some.inj made).symm⟩
  -- No other role is a token.
  | _ => cases made

/-- A token of a text is the mark at its end, or one of its pieces. -/
theorem mem_tokens_ofText {text : List Char} {token : Token}
    (member : token ∈ (ofText text).tokens) :
    token = .endOfInput (1 + newlines text) ∨ ∃ kind lexeme line,
      ⟨.token kind, lexeme⟩ ∈ Piece.ofText text ∧ token = .ofLexeme kind lexeme line := by
  -- A token is read off a piece of its own kind, except for the mark at the end.
  rw [tokens_ofText, List.mem_append, List.mem_singleton] at member
  exact member.symm.imp_right exists_piece_of_token

/-- A report of an unexpected character is one of the pieces of the text. -/
theorem mem_diagnostics_ofText {text : List Char} {diagnostic : Diagnostic} {grapheme : String}
    (member : diagnostic ∈ (ofText text).diagnostics)
    (fault : diagnostic.fault = .unexpectedCharacter grapheme) :
    ⟨.unexpected, grapheme.toList⟩ ∈ Piece.ofText text := by
  -- Of the two roles that are reported, one shows a grapheme.
  rw [ofText, diagnostics_ofPieces] at member
  obtain ⟨⟨line, role, characters⟩, located, made⟩ := List.mem_filterMap.mp member
  have piece := mem_of_mem_located located
  cases role with
  | unexpected =>
    obtain rfl := Option.some.inj made
    obtain rfl : String.ofList characters = grapheme := by simpa using fault
    simpa using piece
  | unterminated =>
    obtain rfl := Option.some.inj made
    cases fault
  | _ => cases made

end LoxTokens.Scan
