import LoxTokens.Proofs.Piece.Divide

/-! A blank or a newline ends what stands before it, so that both sides are divided apart. -/

namespace LoxTokens

/-- Whether a role takes no separators: strings may hold some, and so may what is passed over. -/
def Role.isSolid : Role → Bool
  | .token .string | .unterminated | .blank | .newline | .comment => false
  | _ => true

namespace Piece

/-- A character ends a piece of some role whatever follows the two of them. -/
def Separates (c : Char) (role : Role) : Prop :=
  -- Strings go on past every separator, and comments past all of them but the newline.
  (isBlank c ∨ c = '\n') ∧ role ≠ .unterminated ∧ (role = .comment → c = '\n')

/-- A run that stops at what follows it still does when more is appended that fails its test. -/
theorem stopsAt_append {test : Grapheme → Bool} {later : List Grapheme} {next : Grapheme}
    (stops : StopsAt test later) (fails : later = [] → test next = false) (more : List Grapheme) :
    StopsAt test (later ++ next :: more) := by
  -- What comes next is what came next, or else the appended grapheme.
  cases later with
  | nil =>
    intro first found
    cases found
    exact fails rfl
  | cons first others =>
    intro grapheme found
    exact stops grapheme found

/-- A grapheme that is neither the point of a fraction nor a digit starts no fraction. -/
theorem not_fractionFollows_append {next : Grapheme} {later : List Grapheme}
    (notPoint : next ≠ ['.']) (notDigit : isDigit next = false) (ends : ¬FractionFollows later)
    (more : List Grapheme) : ¬FractionFollows (later ++ next :: more) := by
  -- The grapheme would be the point, the digit, or something after the two.
  intro follows
  obtain ⟨digit, others, same, isOne⟩ := follows
  match later with
  | [] =>
    obtain ⟨isPoint, _⟩ := List.cons.inj same
    exact notPoint isPoint
  | [point] =>
    obtain ⟨_, rest⟩ := List.cons.inj same
    obtain ⟨rfl, _⟩ := List.cons.inj rest
    simp [notDigit] at isOne
  | point :: second :: rest =>
    obtain ⟨rfl, rest⟩ := List.cons.inj same
    obtain ⟨rfl, _⟩ := List.cons.inj rest
    exact ends ⟨second, _, rfl, isOne⟩

/-- A rule cuts off the same when a grapheme that ends the piece and more text are appended. -/
theorem cuts_append {next : Grapheme} {role : Role} {taken later : List Grapheme}
    (cut : Cuts role taken later) (closed : role ≠ .unterminated)
    (fails : later = [] → ∀ test, Asks role taken test → test next = false)
    (notPoint : next ≠ ['.']) (notDigit : isDigit next = false) (more : List Grapheme) :
    Cuts role taken (later ++ next :: more) := by
  -- If nothing else follows, the grapheme comes right after the piece and must not go on with it.
  refine cuts_of_stops cut closed ?_ ?_
  · intro test asks stops
    exact stopsAt_append stops (fun last => fails last test asks) more
  · intro ends
    exact not_fractionFollows_append notPoint notDigit ends more

/-- A separator goes on with no number, no word, no comment and no operator. -/
theorem separator_fails {c : Char} (blank : isBlank c ∨ c = '\n') :
    isDigit [c] = false ∧ isWordPart [c] = false ∧ isJust '/' [c] = false ∧
      isJust '=' [c] = false ∧ c ≠ '.' := by
  -- There are four separators, and each test is decided for each of them.
  simp only [isBlank, Bool.or_eq_true, decide_eq_true_eq] at blank
  rcases blank with ((rfl | rfl) | rfl) | rfl <;> decide

/-- Nor does a separator start any of them. -/
theorem separator_starts_nothing {c : Char} (blank : isBlank c ∨ c = '\n') :
    startsWord c = false ∧ (∀ entry ∈ punctuation, entry.1 ≠ c) ∧
      ∀ entry ∈ operators, entry.1 ≠ c := by
  simp only [isBlank, Bool.or_eq_true, decide_eq_true_eq] at blank
  rcases blank with ((rfl | rfl) | rfl) | rfl <;> decide

/-- No separator is among what the rule of a solid role cuts off. -/
theorem ne_separator_of_cuts {c : Char} {role : Role} {taken later : List Grapheme}
    (cut : Cuts role taken later) (solid : role.isSolid) (separator : isBlank c ∨ c = '\n') :
    ∀ grapheme ∈ taken, grapheme ≠ [c] := by
  -- What starts a piece is listed, and what goes on with it passes a test that separators fail.
  obtain ⟨digit, wordPart, slash, equals, point⟩ := separator_fails separator
  obtain ⟨letter, listed, operator⟩ := separator_starts_nothing separator
  have first {d : Char} (other : d ≠ c) {rest : List Grapheme}
      (within : ∀ grapheme ∈ rest, grapheme ≠ [c]) :
      ∀ grapheme ∈ [d] :: rest, grapheme ≠ [c] := by simpa [other] using within
  have run {test : Grapheme → Bool} {rest : List Grapheme} (fails : test [c] = false)
      (all : ∀ grapheme ∈ rest, test grapheme = true) : ∀ grapheme ∈ rest, grapheme ≠ [c] := by
    rintro grapheme member rfl
    simp [all _ member] at fails
  have notDigit {d : Char} (isOne : d.isDigit) : d ≠ c := by
    rintro rfl
    simp [isDigit, isOne] at digit
  cases cut with
  | whole isOne digits => exact first (notDigit isOne) (run digit digits)
  | decimal isOne digits _ fraction =>
    refine first (notDigit isOne) ?_
    intro grapheme member
    rcases List.mem_append.mp member with inDigits | inFraction
    · exact run digit digits grapheme inDigits
    · exact first (Ne.symm point) (run digit fraction) grapheme inFraction
  | word isLetter more =>
    refine first ?_ (run wordPart more)
    rintro rfl
    simp [isLetter] at letter
  | slash => exact first (by simpa [isJust, eq_comm] using slash) (by simp)
  | punctuation entry => exact first (listed _ entry) (by simp)
  | alone entry => exact first (operator _ entry) (by simp)
  | paired entry =>
    exact first (operator _ entry) (first (by simpa [isJust, eq_comm] using equals) (by simp))
  | unexpected nothing =>
    rintro grapheme member rfl
    obtain rfl := List.mem_singleton.mp member
    rcases separator with blank | rfl
    · simpa [startsPiece, blank] using nothing c rfl
    · exact absurd (nothing '\n' rfl) (by decide)
  | newline | blank | comment | unterminated | string => contradiction
/-- A rule cuts off the same when a separator and more text are appended. -/
theorem cuts_append_separator {c : Char} {role : Role} {taken later : List Grapheme}
    (cut : Cuts role taken later) (separates : Separates c role) (more : List Grapheme) :
    Cuts role taken (later ++ [c] :: more) := by
  obtain ⟨blank, closed, commentEnds⟩ := separates
  obtain ⟨digit, wordPart, slash, equals, point⟩ := separator_fails blank
  have fails (test : Grapheme → Bool) (asks : Asks role taken test) : test [c] = false := by
    cases asks with
    | digit => exact digit
    | wordPart => exact wordPart
    | equals => exact equals
    | slash => exact slash
    | newline => simp [isJust, commentEnds rfl]
  exact cuts_append cut closed (fun _ => fails) (by simpa using point) digit more

/-- A comment at the end goes on with whatever holds no newline. -/
theorem divide_append_of_comment {taken more : List Grapheme} (cut : Cuts .comment taken [])
    (within : ∀ grapheme ∈ more, grapheme ≠ ['\n']) :
    divide (taken ++ more) = [⟨.comment, (taken ++ more).flatten⟩] := by
  cases cut with
  | @comment body _ before _ =>
    have longer : ∀ grapheme ∈ body ++ more, grapheme ≠ ['\n'] :=
      List.forall_mem_append.mpr ⟨before, within⟩
    have stops : StopsAt (!isJust '\n' ·) [] := by simp [StopsAt]
    have divided := divide_append (Cuts.comment longer stops)
    rwa [List.append_nil, divide_nil] at divided

/-- At a separator, what stands before it and what starts with it are divided apart. -/
theorem divide_append_separator {c : Char} {graphemes : List Grapheme}
    (separates : ∀ piece ∈ divide graphemes, Separates c piece.role) (more : List Grapheme) :
    divide (graphemes ++ [c] :: more) = divide graphemes ++ divide ([c] :: more) := by
  -- Every rule cuts off the same as before, until only the separator is left.
  induction graphemes using cuts_induction with
  | nil => simp
  | @cut role taken later cut ih =>
    rw [divide_append cut] at separates ⊢
    have first := separates ⟨role, taken.flatten⟩ (by simp)
    rw [List.append_assoc, divide_append (cuts_append_separator cut first more),
      ih fun piece member => separates piece (by simp [member]), List.cons_append]

end Piece

end LoxTokens
