import LoxTokens.Proofs.Scan.Newline
import LoxTokens.Proofs.Scan.Shown

/-! Carriage returns and newlines show nothing, and leave what stands before them as it is. -/

namespace LoxTokens

namespace Piece

/-- A text leaves no string open. -/
def Closed (text : List Char) : Prop := ∀ piece ∈ shown (ofText text), piece.role ≠ .unterminated

/-- None of its pieces is an open string, whether or not it is one of those shown. -/
theorem Closed.role_ne {text : List Char} (closed : Closed text) {piece : Piece}
    (member : piece ∈ ofText text) : piece.role ≠ .unterminated := by
  intro isOpen
  exact closed piece (List.mem_filter.mpr ⟨member, by simp [isOpen, Role.isPassedOver]⟩) isOpen

/-- A grapheme goes on with no number, no word and no operator. -/
def Breaks (next : Grapheme) : Prop :=
  isDigit next = false ∧ isWordPart next = false ∧ isJust '=' next = false ∧ next ≠ ['.']

/-- What is passed over on its own is not seen after other graphemes either. -/
theorem visible_append_unseen {graphemes more : List Grapheme} {next : Grapheme}
    (closed : ∀ piece ∈ divide graphemes, piece.role ≠ .unterminated) (breaks : Breaks next)
    (slash : graphemes.getLast? = some ['/'] → isJust '/' next = false)
    (within : ∀ grapheme ∈ next :: more, grapheme ≠ ['\n'])
    (unseen : ∀ line, Scan.visible line (divide (next :: more)) = []) (line : Nat) :
    Scan.visible line (divide (graphemes ++ next :: more)) =
      Scan.visible line (divide graphemes) := by
  -- Every rule cuts off the same as before, until only what is appended is left.
  induction graphemes using cuts_induction generalizing line with
  | nil =>
    rw [List.nil_append, unseen, divide_nil]
    rfl
  | @cut role taken later cut ih =>
    rw [divide_append cut] at closed ⊢
    by_cases lastComment : role = .comment ∧ later = []
    · -- A comment at the end takes all of it in.
      obtain ⟨rfl, rfl⟩ := lastComment
      rw [List.append_nil, divide_append_of_comment cut within, divide_nil]
      rfl
    · -- A comment before the end has stopped at a newline, and a slash at another character.
      obtain ⟨digit, wordPart, equals, point⟩ := breaks
      have fails (last : later = []) (test : Grapheme → Bool) (asks : Asks role taken test) :
          test next = false := by
        cases asks with
        | digit => exact digit
        | wordPart => exact wordPart
        | equals => exact equals
        | slash => exact slash (by simp [last])
        | newline => exact absurd ⟨rfl, last⟩ lastComment
      have slashLater : later.getLast? = some ['/'] → isJust '/' next = false := by
        intro last
        exact slash (by simp [List.getLast?_append, last])
      have goesOn : role ≠ .unterminated := closed ⟨role, taken.flatten⟩ List.mem_cons_self
      have rest := ih (fun piece member => closed piece (.tail _ member)) slashLater
      rw [List.append_assoc, divide_append (cuts_append cut goesOn fails point digit more)]
      -- The piece is seen or passed over on the same line in both.
      simp only [Scan.visible, Scan.located, List.filter_cons] at rest ⊢
      rw [rest]

/-- A carriage return after some graphemes adds to what is passed over. -/
theorem shown_divide_append_return {graphemes : List Grapheme}
    (closed : ∀ piece ∈ divide graphemes, piece.role ≠ .unterminated) :
    shown (divide (graphemes ++ [['\r']])) = shown (divide graphemes) := by
  have breaks : Breaks ['\r'] := ⟨rfl, rfl, rfl, by decide⟩
  have blank : divide ([['\r']] ++ []) = ⟨.blank, ['\r']⟩ :: divide [] := divide_append (.blank rfl)
  have unseen (line : Nat) : Scan.visible line (divide [['\r']]) = [] := by
    rw [← List.append_nil [['\r']], blank, divide_nil]
    rfl
  rw [← Scan.map_snd_visible 1, ← Scan.map_snd_visible 1,
    visible_append_unseen closed breaks (fun _ => rfl) (by decide) unseen]

/-- Carriage returns after a text that leaves no string open show nothing. -/
theorem shown_ofText_append_returns {text returns : List Char} (closed : Closed text)
    (only : ∀ c ∈ returns, c = '\r') : shown (ofText (text ++ returns)) = shown (ofText text) := by
  induction returns generalizing text with
  | nil => rw [List.append_nil]
  | cons c returns ih =>
    obtain ⟨rfl, others⟩ := List.forall_mem_cons.mp only
    have one : shown (ofText (text ++ ['\r'])) = shown (ofText text) := by
      have read := graphemes_append_ascii rfl (not_hidden_return text) []
      have nothing : graphemes [] = [] := rfl
      rw [ofText, read, nothing]
      exact shown_divide_append_return fun piece => closed.role_ne
    have still : Closed (text ++ ['\r']) := by
      rw [Closed, one]
      exact closed
    rw [← one, ← ih still others, List.append_assoc]
    rfl

/-- What a newline divides is shown one after the other. -/
theorem shown_ofText_append_newline {left : List Char} (closed : Closed left) (right : List Char) :
    shown (ofText (left ++ '\n' :: right)) = shown (ofText left) ++ shown (ofText right) := by
  rw [Scan.ofText_append_newline right fun piece => closed.role_ne, shown_append,
    shown_cons_passedOver rfl]

/-- A text shows what its lines show, one after the other. -/
theorem shown_ofText_lines {lines : List (List Char)} (closed : ∀ line ∈ lines, Closed line)
    (rest : List Char) : shown (ofText (lines.flatMap (· ++ ['\n']) ++ rest)) =
      lines.flatMap (fun line => shown (ofText line)) ++ shown (ofText rest) := by
  induction lines with
  | nil => rfl
  | cons line later ih =>
    obtain ⟨first, others⟩ := List.forall_mem_cons.mp closed
    have split := shown_ofText_append_newline first (later.flatMap (· ++ ['\n']) ++ rest)
    rw [ih others] at split
    simpa using split

/-- A scan that reports no open string leaves none. -/
theorem closed_of_diagnostics {text : List Char}
    (closed : ∀ diagnostic ∈ (Scan.ofText text).diagnostics,
      diagnostic.fault ≠ .unterminatedString) : Closed text := by
  rintro ⟨role, lexeme⟩ member rfl
  obtain ⟨diagnostic, reported, fault⟩ :=
    Scan.mem_diagnostics_of_unterminated (List.mem_filter.mp member).1
  exact closed diagnostic reported fault

end Piece

end LoxTokens
