import LoxTokens.Proofs.Scan.LineEnd

/-! Comments leave no trace in a scan, whatever is written in them. -/

namespace LoxTokens

namespace Piece

/-- A comment after some graphemes is not seen, unless a slash stands right before it. -/
theorem visible_append_comment {graphemes body : List Grapheme}
    (closed : ∀ piece ∈ divide graphemes, piece.role ≠ .unterminated)
    (apart : graphemes.getLast? ≠ some ['/']) (within : ∀ grapheme ∈ body, grapheme ≠ ['\n'])
    (line : Nat) : Scan.visible line (divide (graphemes ++ ['/'] :: ['/'] :: body)) =
      Scan.visible line (divide graphemes) := by
  -- On its own, the comment is a single piece that is passed over.
  have slashes : ∀ grapheme ∈ ['/'] :: ['/'] :: body, grapheme ≠ ['\n'] := by simpa using within
  have stops : StopsAt (!isJust '\n' ·) [] := by simp [StopsAt]
  have breaks : Breaks ['/'] := ⟨rfl, rfl, rfl, by decide⟩
  have unseen (line : Nat) : Scan.visible line (divide (['/'] :: ['/'] :: body)) = [] := by
    have divided := divide_append (Cuts.comment within stops)
    rw [List.append_nil, divide_nil] at divided
    rw [divided]
    rfl
  exact visible_append_unseen closed breaks (fun last => absurd last apart) slashes unseen line

end Piece

namespace Scan

/-- A comment at the end of a text is not noticed, if it starts in no lexeme. -/
theorem ofText_append_comment {text body : List Char}
    (ending : ∀ last, text.getLast? = some last → last ∈ [' ', '\t', '\r', '\n'])
    (closed : ∀ piece ∈ Piece.ofText text, piece.role ≠ .unterminated) (within : '\n' ∉ body) :
    ofText (text ++ '/' :: '/' :: body) = ofText text := by
  have shown : ¬Hidden text '/' := by
    -- What hides a character is a prefix right before it, and no separator is a prefix.
    rintro ⟨_, last, found, isPrefix⟩
    have separators : [' ', '\t', '\r', '\n'].all isAscii := rfl
    have ascii : isAscii last := List.all_eq_true.mp separators last (ending last found)
    rw [not_isAscii_of_prepend isPrefix] at ascii
    contradiction
  have notSlash : text.getLast? ≠ some '/' := fun last => absurd (ending '/' last) (by decide)
  have noNewline : ∀ grapheme ∈ graphemes body, grapheme ≠ ['\n'] :=
    ne_singleton_of_mem_graphemes within
  apply ofText_eq_of_visible
  · -- The two slashes are graphemes of their own, whatever marks the comment starts with.
    rw [Piece.ofText, Piece.ofText, graphemes_append_ascii rfl shown, graphemes_cons_ascii rfl]
    exact Piece.visible_append_comment closed (getLast?_graphemes_ne notSlash) noNewline 1
  · have none : newlines ('/' :: '/' :: body) = 0 := by
      simpa [newlines, List.count_eq_zero] using within
    rw [newlines_append, none, Nat.add_zero]

/-- What is scanned the same and leaves no string open is scanned the same in front of a newline. -/
theorem ofText_append_newline_congr {text other : List Char} (same : ofText text = ofText other)
    (closed : ∀ diagnostic ∈ (ofText text).diagnostics, diagnostic.fault ≠ .unterminatedString)
    (right : List Char) : ofText (text ++ '\n' :: right) = ofText (other ++ '\n' :: right) := by
  -- The newline splits both scans in two, and the right parts are those of the same text.
  have closedOther := closed
  rw [same] at closedOther
  obtain ⟨tokens, diagnostics⟩ :=
    ofText_split_newline right fun piece => (Piece.closed_of_diagnostics closed).role_ne
  obtain ⟨tokensOther, diagnosticsOther⟩ :=
    ofText_split_newline right fun piece => (Piece.closed_of_diagnostics closedOther).role_ne
  -- The mark at the end of a scan tells how many lines the right part is moved down.
  have lines : 1 + newlines text = 1 + newlines other := by
    have marks := congrArg (fun scan => scan.tokens.getLast?.map Token.line) same
    simpa [tokens_ofText, Token.endOfInput] using marks
  apply Scan.ext
  · rw [tokens, tokensOther, same, lines]
  · rw [diagnostics, diagnosticsOther, same, lines]

end Scan

/--
Comments are inert.

A comment that starts a line or stands behind a separator may be left out, and the scan stays the
same in its tokens, its diagnostics and their lines.
-/
theorem tokenize_comment (a b c : String)
    (ending : ∀ last, a.toList.getLast? = some last → last ∈ [' ', '\t', '\r', '\n'])
    (closed : ∀ diagnostic ∈ (tokenize a).diagnostics, diagnostic.fault ≠ .unterminatedString)
    (within : '\n' ∉ c.toList) :
    tokenize (a ++ "//" ++ c ++ "\n" ++ b) = tokenize (a ++ "\n" ++ b) ∧
      tokenize (a ++ "//" ++ c) = tokenize a := by
  have commented : (a ++ "//" ++ c).toList = a.toList ++ '/' :: '/' :: c.toList := by simp
  -- At the end of a text the comment is not noticed, and a newline divides what comes after it.
  have same : tokenize (a ++ "//" ++ c) = tokenize a := by
    rw [tokenize, commented]
    exact Scan.ofText_append_comment ending
      (fun piece => (Piece.closed_of_diagnostics closed).role_ne) within
  have closedToo := closed
  rw [← same] at closedToo
  refine ⟨?_, same⟩
  have joined := Scan.ofText_append_newline_congr same closedToo b.toList
  simpa [tokenize] using joined

/-- Neither a prefix that takes the blank in front of a comment nor one at its end makes a trace. -/
theorem tokenize_comment_marked :
    let a := "x = \u0600 "
    let b := "\u0301y \"open"
    let c := "\u0301 \" // 1.\r\u0600"
    (∀ last, a.toList.getLast? = some last → last ∈ [' ', '\t', '\r', '\n']) ∧
      (∀ diagnostic ∈ (tokenize a).diagnostics, diagnostic.fault ≠ .unterminatedString) ∧
      '\n' ∉ c.toList ∧
      tokenize (a ++ "//" ++ c ++ "\n" ++ b) = tokenize (a ++ "\n" ++ b) ∧
      tokenize (a ++ "//" ++ c) = tokenize a := by
  intro a b c
  have ending : ∀ last, a.toList.getLast? = some last → last ∈ [' ', '\t', '\r', '\n'] := by
    intro last found
    obtain rfl : ' ' = last := by simpa [a] using found
    exact List.mem_cons_self
  have closed : ∀ diagnostic ∈ (tokenize a).diagnostics,
      diagnostic.fault ≠ .unterminatedString := by
    unfold a
    decide +kernel
  have within : '\n' ∉ c.toList := by
    unfold c
    decide +kernel
  exact ⟨ending, closed, within, tokenize_comment a b c ending closed within⟩

end LoxTokens
