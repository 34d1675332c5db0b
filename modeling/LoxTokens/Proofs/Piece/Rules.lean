import LoxTokens.Piece
import LoxTokens.Proofs.Token.Kind

/-! The lexical rules: what may be cut off the front of a list of graphemes, and as what. -/

namespace LoxTokens.Piece

/-- Characters that are a lexeme by themselves, whatever follows them. -/
def punctuation : List (Char × Kind) :=
  [('(', .leftParen), (')', .rightParen), ('{', .leftBrace), ('}', .rightBrace),
    (';', .semicolon), (',', .comma), ('.', .dot), ('-', .minus), ('+', .plus), ('*', .star)]

/-- Characters that are one lexeme alone, and another one together with an equals sign. -/
def operators : List (Char × Kind × Kind) :=
  [('!', .bang, .bangEqual), ('=', .equal, .equalEqual), ('<', .less, .lessEqual),
    ('>', .greater, .greaterEqual)]

/-- The letters are two ranges of ASCII characters. -/
theorem isAlpha_iff {c : Char} :
    c.isAlpha ↔ (65 ≤ c.toNat ∧ c.toNat ≤ 90) ∨ (97 ≤ c.toNat ∧ c.toNat ≤ 122) := by
  -- Both ranges are tested by their code points.
  have upper : c.isUpper ↔ 65 ≤ c.toNat ∧ c.toNat ≤ 90 := decide_eq_true_iff
  have lower : c.isLower ↔ 97 ≤ c.toNat ∧ c.toNat ≤ 122 :=
    (Bool.and_eq_true _ _).to_iff.trans (and_congr decide_eq_true_iff decide_eq_true_iff)
  have letter : c.isAlpha = (c.isUpper || c.isLower) := rfl
  rw [letter, Bool.or_eq_true, upper, lower]

/-- The digits are one range of ASCII characters. -/
theorem isDigit_iff {c : Char} : c.isDigit ↔ 48 ≤ c.toNat ∧ c.toNat ≤ 57 :=
  Char.isDigit_iff_toNat

/-- Whether a character is passed over without ending a line. -/
def isBlank (c : Char) : Bool := c = ' ' || c = '\t' || c = '\r'

/-- Whether a character starts anything at all. -/
def startsPiece (c : Char) : Bool :=
  isBlank c || c = '\n' || c = '/' || c = '"' || c.isDigit || startsWord c ||
    punctuation.any (c = ·.1) || operators.any (c = ·.1)

/-- A run of items that satisfy a test does not go on into what follows it. -/
def StopsAt {α : Type} (test : α → Bool) (later : List α) : Prop :=
  ∀ next, later.head? = some next → test next = false

/-- Such a run is all that is taken while the test holds. -/
theorem takeWhile_append_of_stopsAt {α : Type} {test : α → Bool} {taken later : List α}
    (all : ∀ item ∈ taken, test item = true) (stops : StopsAt test later) :
    (taken ++ later).takeWhile test = taken := by
  -- The run takes every item it can, and the next one fails the test.
  rw [List.takeWhile_append_of_pos all]
  cases later with
  | nil => simp
  | cons next more => simp [stops next rfl]

/-- What follows such a run is all that is left when the test fails. -/
theorem dropWhile_append_of_stopsAt {α : Type} {test : α → Bool} {taken later : List α}
    (all : ∀ item ∈ taken, test item = true) (stops : StopsAt test later) :
    (taken ++ later).dropWhile test = later := by
  -- What the run leaves starts with the item that fails the test.
  rw [List.dropWhile_append_of_pos all]
  cases later with
  | nil => rfl
  | cons next more => simp [stops next rfl]

/-- A point and a digit come next, so that a number does not end here. -/
def FractionFollows (later : List Grapheme) : Prop :=
  ∃ digit more, later = ['.'] :: digit :: more ∧ isDigit digit = true

/-- What each rule cuts off a list of graphemes, and what must follow for it to end there. -/
inductive Cuts : Role → List Grapheme → List Grapheme → Prop
  | blank {c later} : isBlank c → Cuts .blank [[c]] later
  | newline {later} : Cuts .newline [['\n']] later
  -- A comment leaves the newline that ends it.
  | comment {body later} : (∀ grapheme ∈ body, grapheme ≠ ['\n']) →
      StopsAt (!isJust '\n' ·) later → Cuts .comment (['/'] :: ['/'] :: body) later
  | unterminated {body} : (∀ grapheme ∈ body, grapheme ≠ ['"']) →
      Cuts .unterminated (['"'] :: body) []
  | string {body later} : (∀ grapheme ∈ body, grapheme ≠ ['"']) →
      Cuts (.token .string) (['"'] :: (body ++ [['"']])) later
  | whole {c digits later} : c.isDigit → (∀ grapheme ∈ digits, isDigit grapheme) →
      StopsAt isDigit later → ¬FractionFollows later →
      Cuts (.token .number) ([c] :: digits) later
  | decimal {c digits fraction later} : c.isDigit → (∀ grapheme ∈ digits, isDigit grapheme) →
      fraction ≠ [] → (∀ grapheme ∈ fraction, isDigit grapheme) → StopsAt isDigit later →
      Cuts (.token .number) ([c] :: (digits ++ ['.'] :: fraction)) later
  | word {c more later} : startsWord c → (∀ grapheme ∈ more, isWordPart grapheme) →
      StopsAt isWordPart later →
      Cuts (.token (.ofWord (String.ofList (c :: more.flatten)))) ([c] :: more) later
  | slash {later} : StopsAt (isJust '/') later → Cuts (.token .slash) [['/']] later
  | punctuation {c kind later} : (c, kind) ∈ punctuation → Cuts (.token kind) [[c]] later
  | alone {c alone paired later} : (c, alone, paired) ∈ operators →
      StopsAt (isJust '=') later → Cuts (.token alone) [[c]] later
  | paired {c alone paired later} : (c, alone, paired) ∈ operators →
      Cuts (.token paired) [[c], ['=']] later
  -- Whatever no other rule reads is a fault, a grapheme at a time.
  | unexpected {grapheme later} : (∀ c, grapheme = [c] → startsPiece c = false) →
      Cuts .unexpected [grapheme] later

/-- The tests that rules make of the grapheme after a piece of some role. -/
inductive Asks : Role → List Grapheme → (Grapheme → Bool) → Prop
  | digit {role taken} : Asks role taken isDigit
  | wordPart {role taken} : Asks role taken isWordPart
  | equals {role taken} : Asks role taken (isJust '=')
  | slash {role} : Asks role [['/']] (isJust '/')
  | newline {taken} : Asks .comment taken (!isJust '\n' ·)

/-- A rule cuts off the same in front of other graphemes that fail its tests if the first did. -/
theorem cuts_of_stops {role : Role} {taken later other : List Grapheme}
    (cut : Cuts role taken later) (closed : role ≠ .unterminated)
    (stops : ∀ test, Asks role taken test → StopsAt test later → StopsAt test other)
    (ends : ¬FractionFollows later → ¬FractionFollows other) : Cuts role taken other := by
  -- Nothing else about what follows is a premise of any rule but that of open strings.
  cases cut with
  | blank blank => exact .blank blank
  | newline => exact .newline
  | comment within stop => exact .comment within (stops _ .newline stop)
  | unterminated => contradiction
  | string within => exact .string within
  | whole first digits stop noFraction =>
    exact .whole first digits (stops _ .digit stop) (ends noFraction)
  | decimal first digits some fraction stop =>
    exact .decimal first digits some fraction (stops _ .digit stop)
  | word letter parts stop => exact .word letter parts (stops _ .wordPart stop)
  | slash stop => exact .slash (stops _ .slash stop)
  | punctuation listed => exact .punctuation listed
  | alone listed stop => exact .alone listed (stops _ .equals stop)
  | paired listed => exact .paired listed
  | unexpected nothing => exact .unexpected nothing

/-- A string is what stands between two quotes that are graphemes of their own. -/
theorem eq_of_cuts_string {taken later : List Grapheme} (cut : Cuts (.token .string) taken later) :
    ∃ body, taken = ['"'] :: (body ++ [['"']]) ∧ ∀ grapheme ∈ body, grapheme ≠ ['"'] := by
  -- The kind of a word is computed, so it takes a lemma to tell words from strings.
  generalize is : Role.token .string = role at cut
  cases cut with
  | @string body _ within => exact ⟨body, rfl, within⟩
  | word => exact absurd (Role.token.inj is).symm (Kind.ofWord_ne (by decide) rfl _)
  | punctuation listed =>
    cases Role.token.inj is
    simp [punctuation] at listed
  | alone listed =>
    cases Role.token.inj is
    simp [operators] at listed
  | paired listed =>
    cases Role.token.inj is
    simp [operators] at listed
  | _ => cases is

/-- A fault is one grapheme, and starts nothing if it is one character. -/
theorem eq_of_cuts_unexpected {taken later : List Grapheme} (cut : Cuts .unexpected taken later) :
    ∃ grapheme, taken = [grapheme] ∧ ∀ c, grapheme = [c] → startsPiece c = false := by
  cases cut with
  | @unexpected grapheme _ nothing => exact ⟨grapheme, rfl, nothing⟩

end LoxTokens.Piece
