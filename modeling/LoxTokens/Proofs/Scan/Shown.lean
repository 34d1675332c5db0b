import LoxTokens.Proofs.Scan.Segments

/-! What a scan shows, lines aside: the tokens and the faults among its pieces. -/

namespace LoxTokens

/-- Whether a role shows neither in the tokens nor in the diagnostics of a scan. -/
def Role.isPassedOver : Role → Bool
  | .blank | .newline | .comment => true
  | _ => false

/-- Items that come to nothing may be left out beforehand. -/
theorem filterMap_filter_of_none {α β : Type} {f : α → Option β} {test : α → Bool}
    (nothing : ∀ item, test item = false → f item = none) (items : List α) :
    (items.filter test).filterMap f = items.filterMap f := by
  have same : (fun item => if test item then f item else none) = f := by
    funext item
    cases kept : test item <;> simp [kept, nothing]
  rw [List.filterMap_filter, same]

namespace Piece

/-- The pieces that are tokens or faults. -/
def shown (pieces : List Piece) : List Piece := pieces.filter (!·.role.isPassedOver)

/-- A piece that is passed over is not among those shown. -/
@[simp] theorem shown_cons_passedOver {piece : Piece} (passedOver : piece.role.isPassedOver)
    (later : List Piece) : shown (piece :: later) = shown later := by
  simp [shown, passedOver]

/-- A piece that is not passed over is shown in its place. -/
@[simp] theorem shown_cons {piece : Piece} (visible : piece.role.isPassedOver = false)
    (later : List Piece) : shown (piece :: later) = piece :: shown later := by
  simp [shown, visible]

@[simp] theorem shown_append (earlier later : List Piece) :
    shown (earlier ++ later) = shown earlier ++ shown later :=
  List.filter_append _ _

/-- An empty text has no pieces, and so shows none. -/
@[simp] theorem shown_ofText_nil : shown (ofText []) = [] := by
  simp [ofText, graphemes, Unicode.clusters, shown]

/-- What tells the token that a piece is from others. -/
def identity? : Piece → Option (Kind × String × Literal)
  -- The line is no part of it, so any line will do.
  | ⟨.token kind, text⟩ => some (Token.ofLexeme kind text 1).identity
  | _ => none

end Piece

namespace Scan

/-- The pieces that are tokens or faults, each with the line it starts on. -/
def visible (line : Nat) (pieces : List Piece) : List (Nat × Piece) :=
  (located line pieces).filter (!·.2.role.isPassedOver)

/-- A piece that is passed over leaves nothing to see but the lines it ends. -/
theorem visible_cons_passedOver {piece : Piece} (passedOver : piece.role.isPassedOver)
    (line : Nat) (later : List Piece) :
    visible line (piece :: later) = visible (line + newlines piece.text) later := by
  simp [visible, located, passedOver]

/-- Without their lines, the visible pieces are those that are shown. -/
theorem map_snd_visible (line : Nat) (pieces : List Piece) :
    (visible line pieces).map Prod.snd = Piece.shown pieces := by
  have same : (fun entry : Nat × Piece => !entry.2.role.isPassedOver) =
      (fun piece => !piece.role.isPassedOver) ∘ Prod.snd := rfl
  rw [visible, same, ← List.filter_map, map_located, Piece.shown]

/-- The tokens of a text are those of its visible pieces, and the mark on its last line. -/
theorem tokens_eq_visible (text : List Char) : (ofText text).tokens =
    (visible 1 (Piece.ofText text)).filterMap tokenOf? ++ [.endOfInput (1 + newlines text)] := by
  -- The pieces that are passed over are no tokens.
  have nothing (entry : Nat × Piece) (passedOver : (!entry.2.role.isPassedOver) = false) :
      tokenOf? entry = none := by
    obtain ⟨line, role, lexeme⟩ := entry
    cases role <;> first | rfl | contradiction
  rw [tokens_ofText, visible, filterMap_filter_of_none nothing]

/-- The diagnostics of a text are those of its visible pieces. -/
theorem diagnostics_eq_visible (text : List Char) :
    (ofText text).diagnostics = (visible 1 (Piece.ofText text)).filterMap diagnosticOf? := by
  -- The pieces that are passed over earn none.
  have nothing (entry : Nat × Piece) (passedOver : (!entry.2.role.isPassedOver) = false) :
      diagnosticOf? entry = none := by
    obtain ⟨line, role, lexeme⟩ := entry
    cases role <;> first | rfl | contradiction
  rw [diagnostics_ofText, visible, filterMap_filter_of_none nothing]

/-- Texts that look the same and end on the same line are scanned the same. -/
theorem ofText_eq_of_visible {text other : List Char}
    (same : visible 1 (Piece.ofText text) = visible 1 (Piece.ofText other))
    (lines : newlines text = newlines other) : ofText text = ofText other := by
  apply Scan.ext
  · rw [tokens_eq_visible, tokens_eq_visible, same, lines]
  · rw [diagnostics_eq_visible, diagnostics_eq_visible, same]

/-- The tokens of a text but the last are told by the pieces it shows. -/
theorem map_identity_tokens (text : List Char) :
    (ofText text).tokens.dropLast.map Token.identity =
      (Piece.shown (Piece.ofText text)).filterMap Piece.identity? := by
  -- The visible pieces have their identities on whatever lines they are.
  have same : (fun entry => (tokenOf? entry).map Token.identity) =
      Piece.identity? ∘ Prod.snd := by
    funext ⟨line, role, lexeme⟩
    cases role <;> rfl
  rw [tokens_eq_visible, List.dropLast_concat, List.map_filterMap, same, ← List.filterMap_map,
    map_snd_visible]

/-- The last token of a text is the mark at its end. -/
theorem map_identity_tokens_concat (text : List Char) :
    (ofText text).tokens.map Token.identity =
      (ofText text).tokens.dropLast.map Token.identity ++ [Token.identity (.endOfInput 1)] := by
  simp [tokens_ofText, Token.identity, Token.endOfInput]

/-- The faults of a text are told by the pieces it shows. -/
theorem map_fault_diagnostics (text : List Char) :
    (ofText text).diagnostics.map Diagnostic.fault =
      (Piece.shown (Piece.ofText text)).filterMap Piece.fault? := by
  -- So do the faults among them.
  have same : (fun entry => (diagnosticOf? entry).map Diagnostic.fault) =
      Piece.fault? ∘ Prod.snd := funext fault_diagnosticOf?
  rw [diagnostics_eq_visible, List.map_filterMap, same, ← List.filterMap_map, map_snd_visible]

end Scan

/-- Lists of tokens count as the same exactly when they share their identities, one by one. -/
theorem beq_iff_map_identity {left right : List Token} :
    (left == right) = true ↔ left.map Token.identity = right.map Token.identity := by
  induction left generalizing right with
  | nil => cases right <;> simp
  | cons token left ih =>
    cases right with
    | nil => simp
    | cons other right => simp [Token.beq_iff_identity, ih]

end LoxTokens
