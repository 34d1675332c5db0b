import LoxTokens.Proofs.Grapheme
import LoxTokens.Proofs.Piece.Rules

/-! What the lexical rules ask of graphemes, asked of the characters in them. -/

namespace LoxTokens

/-- The first character of a text is a grapheme of its own if it is of a sort kept apart. -/
theorem Apart.eq_cons {sort : Char → Bool} {graphemes : List Grapheme}
    (apart : Apart sort graphemes) {c : Char} {rest : List Char}
    (starts : graphemes.flatten = c :: rest) (sorted : sort c) :
    ∃ more, graphemes = [c] :: more ∧ more.flatten = rest := by
  -- The first grapheme starts with the character, and so is nothing else.
  cases graphemes with
  | nil => cases starts
  | cons first more =>
    obtain ⟨present, alone⟩ := apart first (by simp)
    cases first with
    | nil => contradiction
    | cons head tail =>
      obtain ⟨rfl, same⟩ : head = c ∧ tail ++ more.flatten = rest := by simpa using starts
      obtain rfl : tail = [] := by simpa using alone head (by simp) sorted
      exact ⟨more, rfl, same⟩

/-- A text whose characters satisfy a test is without those that fail it. -/
theorem not_mem_of_all {test : Char → Bool} {text : List Char} {c : Char}
    (all : ∀ d ∈ text, test d = true) (fails : test c = false) : c ∉ text := by
  -- The character would have to satisfy the test as well.
  intro found
  simp [all c found] at fails

namespace Piece

/-- Letters and digits are ASCII characters. -/
theorem isAscii_of_isAlphanum {c : Char} (alphanumeric : c.isAlphanum) : isAscii c := by
  -- Their ranges all lie in the first half of a byte.
  have either : c.isAlphanum = (c.isAlpha || c.isDigit) := rfl
  rw [either, Bool.or_eq_true, isAlpha_iff, isDigit_iff] at alphanumeric
  simp only [isAscii, decide_eq_true_eq]
  omega

/-- Digits are ASCII characters. -/
theorem isAscii_of_isDigit {c : Char} (digit : c.isDigit) : isAscii c :=
  isAscii_of_isAlphanum (by simp [Char.isAlphanum, digit])

/-- What can go on in a word is an ASCII character. -/
theorem isAscii_of_inWord {c : Char} (part : c.isAlphanum || c = '_') : isAscii c := by
  simp only [Bool.or_eq_true, decide_eq_true_eq] at part
  rcases part with alphanumeric | rfl
  · exact isAscii_of_isAlphanum alphanumeric
  · rfl

/-- Only ASCII characters start anything. -/
theorem isAscii_of_startsPiece {c : Char} (starts : startsPiece c) : isAscii c := by
  -- Letters and digits are ASCII, and the other characters are listed one by one.
  by_cases alphanumeric : c.isAlphanum
  · exact isAscii_of_isAlphanum alphanumeric
  · simp only [Char.isAlphanum, Bool.or_eq_true, not_or, Bool.not_eq_true] at alphanumeric
    simp only [startsPiece, isBlank, startsWord, alphanumeric, punctuation, operators,
      List.any_cons, List.any_nil, Bool.or_eq_true, decide_eq_true_eq, Bool.or_assoc] at starts
    -- What is left is a list of single characters.
    repeat' rcases starts with starts | starts
    all_goals rfl

/-- A digit is a single character. -/
theorem eq_singleton_of_isDigit {grapheme : Grapheme} (digit : isDigit grapheme) :
    ∃ c, grapheme = [c] ∧ c.isDigit := by
  -- The test fails for every grapheme of another length.
  unfold isDigit at digit
  split at digit
  · exact ⟨_, rfl, digit⟩
  · contradiction

/-- A part of a word is a single character. -/
theorem eq_singleton_of_isWordPart {grapheme : Grapheme} (part : isWordPart grapheme) :
    ∃ c, grapheme = [c] ∧ (c.isAlphanum || c = '_') := by
  -- The test fails for every grapheme of another length.
  unfold isWordPart at part
  split at part
  · exact ⟨_, rfl, part⟩
  · contradiction

/-- The characters of a run satisfy a test if each of its graphemes is one that does. -/
theorem all_flatten {test : Grapheme → Bool} {charTest : Char → Bool} {run : List Grapheme}
    (single : ∀ grapheme, test grapheme → ∃ c, grapheme = [c] ∧ charTest c)
    (all : ∀ grapheme ∈ run, test grapheme = true) : ∀ c ∈ run.flatten, charTest c = true := by
  -- A character of the run is the whole of its grapheme.
  intro c found
  obtain ⟨grapheme, member, inside⟩ := List.mem_flatten.mp found
  obtain ⟨other, rfl, passes⟩ := single grapheme (all grapheme member)
  obtain rfl : c = other := by simpa using inside
  exact passes

end Piece

end LoxTokens
