import LoxTokens.Proofs.Grapheme
import LoxTokens.Proofs.Piece.Separator
import LoxTokens.Proofs.Scan.Located

/-! A newline divides a source text into two that are scanned on their own. -/

namespace LoxTokens

/-- The same token, so many lines farther down. -/
def Token.movedDown (lines : Nat) (token : Token) : Token :=
  { token with line := token.line + lines }

/-- The same diagnostic, so many lines farther down. -/
def Diagnostic.movedDown (lines : Nat) (diagnostic : Diagnostic) : Diagnostic :=
  { diagnostic with line := diagnostic.line + lines }

namespace Scan

/-- A piece farther down is the same token farther down. -/
theorem tokenOf?_add (lines line : Nat) (piece : Piece) :
    tokenOf? (line + lines, piece) = (tokenOf? (line, piece)).map (.movedDown lines) := by
  -- A token is on the line its piece starts on.
  obtain ⟨role, text⟩ := piece
  cases role <;> rfl

/-- A piece farther down earns the same diagnostic farther down. -/
theorem diagnosticOf?_add (lines line : Nat) (piece : Piece) :
    diagnosticOf? (line + lines, piece) = (diagnosticOf? (line, piece)).map (.movedDown lines) := by
  -- A string without an end is reported farther down, but as many lines as before.
  obtain ⟨role, text⟩ := piece
  cases role with
  | unterminated => simp [diagnosticOf?, Diagnostic.movedDown, Nat.add_right_comm]
  | _ => rfl

/-- Starting farther down moves every token by as many lines. -/
theorem tokens_ofPieces_add (lines line : Nat) (pieces : List Piece) :
    (ofPieces (line + lines) pieces).tokens =
      (ofPieces line pieces).tokens.map (.movedDown lines) := by
  -- The mark at the end moves along with the tokens.
  have moved : (tokenOf? ∘ fun entry : Nat × Piece => (entry.1 + lines, entry.2)) =
      Option.map (.movedDown lines) ∘ tokenOf? :=
    funext fun entry => tokenOf?_add lines entry.1 entry.2
  have mark : Token.endOfInput (line + lines + newlines (pieces.flatMap Piece.text)) =
      (Token.endOfInput (line + newlines (pieces.flatMap Piece.text))).movedDown lines := by
    simp [Token.movedDown, Token.endOfInput, Nat.add_right_comm]
  simp only [tokens_ofPieces, located_add, List.filterMap_map, moved, List.map_append,
    List.map_filterMap, mark]
  rfl

/-- Starting farther down moves every diagnostic by as many lines. -/
theorem diagnostics_ofPieces_add (lines line : Nat) (pieces : List Piece) :
    (ofPieces (line + lines) pieces).diagnostics =
      (ofPieces line pieces).diagnostics.map (.movedDown lines) := by
  -- Each piece is moved, and takes its diagnostic along.
  have moved : (diagnosticOf? ∘ fun entry : Nat × Piece => (entry.1 + lines, entry.2)) =
      Option.map (.movedDown lines) ∘ diagnosticOf? :=
    funext fun entry => diagnosticOf?_add lines entry.1 entry.2
  simp only [diagnostics_ofPieces, located_add, List.filterMap_map, moved, List.map_filterMap]
  rfl

/-- An unterminated piece is always reported. -/
theorem mem_diagnostics_of_unterminated {line : Nat} {pieces : List Piece} {text : List Char}
    (member : ⟨.unterminated, text⟩ ∈ pieces) :
    ∃ diagnostic ∈ (ofPieces line pieces).diagnostics,
      diagnostic.fault = .unterminatedString := by
  -- The piece starts on some line, and is reported from there.
  rw [← map_located line pieces] at member
  obtain ⟨⟨start, piece⟩, located, rfl⟩ := List.mem_map.mp member
  rw [diagnostics_ofPieces]
  exact ⟨⟨start + newlines text, .unterminatedString⟩,
    List.mem_filterMap.mpr ⟨_, located, rfl⟩, rfl⟩

/-- A text that leaves no string open is divided apart from what comes after its newline. -/
theorem ofText_append_newline {left : List Char} (right : List Char)
    (closed : ∀ piece ∈ Piece.ofText left, piece.role ≠ .unterminated) :
    Piece.ofText (left ++ '\n' :: right) =
      Piece.ofText left ++ ⟨.newline, ['\n']⟩ :: Piece.ofText right := by
  -- Nothing hides the newline, and every piece before it ends there at the latest.
  have separates : ∀ piece ∈ Piece.divide (graphemes left), Piece.Separates '\n' piece.role :=
    fun piece member => ⟨.inr rfl, closed piece member, fun _ => rfl⟩
  have newline : Piece.divide (['\n'] :: graphemes right) =
      ⟨.newline, ['\n']⟩ :: Piece.divide (graphemes right) := Piece.divide_append .newline
  rw [Piece.ofText, graphemes_append_ascii rfl (not_hidden_newline left),
    Piece.divide_append_separator separates]
  exact congrArg _ newline

/-- A newline after a text that leaves no string open splits its scan in two. -/
theorem ofText_split_newline {left : List Char} (right : List Char)
    (closed : ∀ piece ∈ Piece.ofText left, piece.role ≠ .unterminated) :
    (ofText (left ++ '\n' :: right)).tokens = (ofText left).tokens.dropLast ++
        (ofText right).tokens.map (.movedDown (1 + newlines left)) ∧
      (ofText (left ++ '\n' :: right)).diagnostics = (ofText left).diagnostics ++
        (ofText right).diagnostics.map (.movedDown (1 + newlines left)) := by
  -- The newline itself is a piece that adds nothing but one line.
  have start : 1 + newlines left + newlines ['\n'] = 1 + (1 + newlines left) := by
    have one : newlines ['\n'] = 1 := rfl
    omega
  have skipped (line : Nat) (later : List Piece) :
      ofPieces line (⟨.newline, ['\n']⟩ :: later) = ofPieces (line + newlines ['\n']) later := rfl
  constructor
  · rw [ofText, ofText_append_newline right closed, tokens_ofPieces_append,
      Piece.flatMap_text_ofText, skipped, start, tokens_ofPieces_add]
    rfl
  · rw [ofText, ofText_append_newline right closed, diagnostics_ofPieces_append,
      Piece.flatMap_text_ofText, skipped, start, diagnostics_ofPieces_add]
    rfl

end Scan

/--
A newline splits a scan in two.

When the text before it leaves no string open, the tokens and the diagnostics of the whole are
those of the text before, without its end, and those of the text after, so many lines farther down.
-/
theorem tokenize_append_newline (a b : String)
    (closed : ∀ diagnostic ∈ (tokenize a).diagnostics, diagnostic.fault ≠ .unterminatedString) :
    let lines := 1 + Scan.newlines a.toList
    (tokenize a).tokens.getLast? = some (.endOfInput lines) ∧
      (tokenize (a ++ "\n" ++ b)).tokens =
        (tokenize a).tokens.dropLast ++ (tokenize b).tokens.map (.movedDown lines) ∧
      (tokenize (a ++ "\n" ++ b)).diagnostics =
        (tokenize a).diagnostics ++ (tokenize b).diagnostics.map (.movedDown lines) := by
  -- Without such a report, no piece of the first text is an open string.
  intro lines
  have closedPieces : ∀ piece ∈ Piece.ofText a.toList, piece.role ≠ .unterminated := by
    rintro ⟨role, text⟩ member rfl
    obtain ⟨diagnostic, reported, fault⟩ := Scan.mem_diagnostics_of_unterminated member
    exact closed diagnostic reported fault
  have joined : (a ++ "\n" ++ b).toList = a.toList ++ '\n' :: b.toList := by simp
  obtain ⟨tokens, diagnostics⟩ := Scan.ofText_split_newline b.toList closedPieces
  refine ⟨?_, ?_, ?_⟩
  · simp [tokenize, Scan.ofText, Scan.tokens_ofPieces, Piece.flatMap_text_ofText, lines]
  · simpa only [tokenize, joined] using tokens
  · simpa only [tokenize, joined] using diagnostics

/-- Neither a prefix before the newline nor a mark after it reaches across. -/
theorem tokenize_append_newline_marked :
    let a := "\u0600\n12.\r"
    let b := "\u0301=\"x"
    (∀ diagnostic ∈ (tokenize a).diagnostics, diagnostic.fault ≠ .unterminatedString) ∧
      (tokenize a).tokens.getLast? = some (.endOfInput 2) ∧
      (tokenize (a ++ "\n" ++ b)).tokens =
        (tokenize a).tokens.dropLast ++ (tokenize b).tokens.map (.movedDown 2) ∧
      (tokenize (a ++ "\n" ++ b)).diagnostics =
        (tokenize a).diagnostics ++ (tokenize b).diagnostics.map (.movedDown 2) := by
  intro a b
  have closed : ∀ diagnostic ∈ (tokenize a).diagnostics,
      diagnostic.fault ≠ .unterminatedString := by
    unfold a
    decide +kernel
  have lines : 1 + Scan.newlines a.toList = 2 := by
    unfold a
    decide +kernel
  have split := tokenize_append_newline a b closed
  simp only [lines] at split
  exact ⟨closed, split⟩

end LoxTokens
