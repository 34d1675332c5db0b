import LoxTokens.Proofs.Piece.Characters
import LoxTokens.Proofs.Piece.Separator

/-! Lexemes that are read and cut off the same wherever a separator follows them. -/

namespace LoxTokens

/-- Graphemes that are read as they are in front of any text. -/
def SelfContained (taken : List Grapheme) : Prop :=
  ∀ rest, graphemes (taken.flatten ++ rest) = taken ++ graphemes rest

/-- ASCII characters are read as they are, one by one. -/
theorem selfContained_of_ascii {taken : List Grapheme}
    (ascii : ∀ grapheme ∈ taken, ∃ c, grapheme = [c] ∧ isAscii c) : SelfContained taken := by
  -- Each of them is read off the front, whatever comes after it.
  intro rest
  induction taken with
  | nil => rfl
  | cons first more ih =>
    obtain ⟨c, rfl, isOne⟩ := ascii first (by simp)
    have others := ih fun grapheme member => ascii grapheme (by simp [member])
    simpa [graphemes_cons_ascii isOne] using others

/-- Where an ASCII character is read alone, both sides of it are read on their own. -/
theorem graphemes_around_ascii {text : List Char} {left right : List Grapheme} {c : Char}
    (ascii : isAscii c) (read : graphemes text = left ++ [c] :: right) :
    ¬Hidden left.flatten c ∧ graphemes left.flatten = left ∧ graphemes right.flatten = right := by
  -- The character stands at the same place in the text however the sides are read.
  have placed : text = left.flatten ++ c :: right.flatten := by
    rw [← flatten_graphemes text, read]
    simp
  subst placed
  have shown : ¬Hidden left.flatten c :=
    (standsAlone_iff ascii).mp ⟨left, right, read, rfl⟩
  have apart := graphemes_append_ascii ascii shown right.flatten
  rw [read] at apart
  have place : left.flatten ++ [] = (graphemes left.flatten).flatten ++ [] := by
    rw [flatten_graphemes]
  obtain ⟨same, _⟩ := eq_of_same_place apart place (by simp) (by simp)
  rw [← same, List.append_cancel_left_eq, List.cons.injEq] at apart
  exact ⟨shown, same.symm, apart.2.symm⟩

/-- What was once read between two ASCII characters is read that way in front of any text. -/
theorem selfContained_between {text : List Char} {earlier body later : List Grapheme} {c d : Char}
    (opening : isAscii c) (closing : isAscii d)
    (read : graphemes text = earlier ++ [c] :: (body ++ [d] :: later)) :
    SelfContained ([c] :: (body ++ [[d]])) := by
  -- Neither what stood before the first one nor what stood after the second one took part.
  obtain ⟨_, _, inside⟩ := graphemes_around_ascii opening read
  obtain ⟨shown, same, _⟩ := graphemes_around_ascii closing inside
  intro rest
  have around := graphemes_append_ascii closing shown rest
  rw [same] at around
  simp [graphemes_cons_ascii opening, around]

namespace Piece

/-- Separators are ASCII. -/
theorem isAscii_of_separator {c : Char} (separator : isBlank c ∨ c = '\n') : isAscii c := by
  simp only [isBlank, Bool.or_eq_true, decide_eq_true_eq] at separator
  rcases separator with ((rfl | rfl) | rfl) | rfl <;> rfl

/-- Punctuation is ASCII. -/
theorem isAscii_of_punctuation : ∀ entry ∈ punctuation, isAscii entry.1 = true := by decide

/-- Operators start with ASCII characters. -/
theorem isAscii_of_operators : ∀ entry ∈ operators, isAscii entry.1 = true := by decide

/-- Every lexeme but a string is made of single ASCII characters. -/
theorem ascii_of_cuts {kind : Kind} {taken later : List Grapheme}
    (cut : Cuts (.token kind) taken later) (notString : kind ≠ .string) :
    ∀ grapheme ∈ taken, ∃ c, grapheme = [c] ∧ isAscii c := by
  -- What starts a lexeme is listed, and what goes on with it is digits or parts of a word.
  have first {c : Char} (ascii : isAscii c) {rest : List Grapheme}
      (others : ∀ grapheme ∈ rest, ∃ d, grapheme = [d] ∧ isAscii d) :
      ∀ grapheme ∈ [c] :: rest, ∃ d, grapheme = [d] ∧ isAscii d :=
    List.forall_mem_cons.mpr ⟨⟨c, rfl, ascii⟩, others⟩
  have nothing : ∀ grapheme ∈ ([] : List Grapheme), ∃ d, grapheme = [d] ∧ isAscii d := by simp
  have run {digits : List Grapheme} (all : ∀ grapheme ∈ digits, isDigit grapheme = true) :
      ∀ grapheme ∈ digits, ∃ d, grapheme = [d] ∧ isAscii d := by
    intro grapheme member
    obtain ⟨d, rfl, digit⟩ := eq_singleton_of_isDigit (all grapheme member)
    exact ⟨d, rfl, isAscii_of_isDigit digit⟩
  cases cut with
  | string => contradiction
  | whole digit digits =>
    exact first (isAscii_of_startsPiece (by simp [startsPiece, digit])) (run digits)
  | decimal digit digits _ fraction =>
    refine first (isAscii_of_startsPiece (by simp [startsPiece, digit])) ?_
    intro grapheme member
    rcases List.mem_append.mp member with inDigits | inFraction
    · exact run digits grapheme inDigits
    · exact first rfl (run fraction) grapheme inFraction
  | word letter more =>
    refine first (isAscii_of_startsPiece (by simp [startsPiece, letter])) ?_
    intro grapheme member
    obtain ⟨d, rfl, part⟩ := eq_singleton_of_isWordPart (more grapheme member)
    exact ⟨d, rfl, isAscii_of_inWord part⟩
  | slash => exact first rfl nothing
  | punctuation listed => exact first (isAscii_of_punctuation _ listed) nothing
  | alone listed => exact first (isAscii_of_operators _ listed) nothing
  | paired listed => exact first (isAscii_of_operators _ listed) (first rfl nothing)

/-- The graphemes of a lexeme are read as they are in front of any text. -/
theorem selfContained_of_cuts {kind : Kind} {text : List Char}
    {earlier taken later : List Grapheme} (cut : Cuts (.token kind) taken later)
    (read : graphemes text = earlier ++ taken ++ later) : SelfContained taken := by
  -- A string holds any characters, but it stands between two quotes.
  by_cases isString : kind = .string
  · subst isString
    obtain ⟨body, rfl, _⟩ := eq_of_cuts_string cut
    have quoted : graphemes text = earlier ++ ['"'] :: (body ++ ['"'] :: later) := by
      simpa using read
    exact selfContained_between rfl rfl quoted
  · exact selfContained_of_ascii (ascii_of_cuts cut isString)

/-- A rule cuts off the same when nothing follows. -/
theorem cuts_nil {role : Role} {taken later : List Grapheme} (cut : Cuts role taken later) :
    Cuts role taken [] := by
  by_cases isOpen : role = .unterminated
  · -- Nothing follows an open string in any case.
    subst isOpen
    cases cut with
    | unterminated within => exact .unterminated within
  · exact cuts_of_stops cut isOpen (fun _ _ _ => by simp [StopsAt])
      fun _ => by simp [FractionFollows]

/-- A piece that is a lexeme, and the same one wherever a separator or nothing follows it. -/
def Standing (piece : Piece) : Prop :=
  ∃ kind taken, piece = ⟨.token kind, taken.flatten⟩ ∧ SelfContained taken ∧
    Cuts (.token kind) taken []

/-- The lexemes of a text are such pieces. -/
theorem standing_of_mem {text lexeme : List Char} {kind : Kind}
    (member : ⟨.token kind, lexeme⟩ ∈ ofText text) : Standing ⟨.token kind, lexeme⟩ := by
  obtain ⟨before, after, divided⟩ := List.append_of_mem member
  obtain ⟨earlier, taken, later, read, cut, rfl, _⟩ := exists_cuts_of_divide divided
  exact ⟨kind, taken, rfl, selfContained_of_cuts cut read, cuts_nil cut⟩

/-- In front of a separator or of nothing, such a piece is divided from the rest of the text. -/
theorem Standing.ofText_append {piece : Piece} (standing : piece.Standing) {rest : List Char}
    (separated : ∀ c, rest.head? = some c → isBlank c ∨ c = '\n') :
    ofText (piece.text ++ rest) = piece :: ofText rest := by
  -- The separator is a grapheme of its own, and the rule of the lexeme cuts in front of it.
  obtain ⟨kind, taken, rfl, contained, cut⟩ := standing
  have cutHere : Cuts (.token kind) taken (graphemes rest) := by
    cases rest with
    | nil => exact cut
    | cons c rest =>
      have separator := separated c rfl
      rw [graphemes_cons_ascii (isAscii_of_separator separator)]
      exact cuts_append_separator cut ⟨separator, by simp, by simp⟩ (graphemes rest)
  rw [ofText, contained rest]
  exact divide_append cutHere

/-- No two such pieces are cut off a text in front of separators. -/
theorem Standing.eq_of_append {left right : Piece} (standing : left.Standing)
    (standingToo : right.Standing) {c : Char} (separator : isBlank c ∨ c = '\n')
    {rest others : List Char} (same : left.text ++ c :: rest = right.text ++ c :: others) :
    left = right := by
  have separated (more : List Char) : ∀ d, (c :: more).head? = some d → isBlank d ∨ d = '\n' := by
    intro d found
    obtain rfl : c = d := Option.some.inj found
    exact separator
  have cut := standing.ofText_append (separated rest)
  rw [same, standingToo.ofText_append (separated others)] at cut
  exact (List.cons.inj cut).1.symm

end Piece

end LoxTokens
