import LoxTokens.Proofs.Piece.Rules

/-! Dividing a text follows the lexical rules, and the rules leave it no choice. -/

namespace LoxTokens.Piece

/-- The graphemes of a run are the longest prefix that satisfies its test. -/
theorem take_run (test : Grapheme → Bool) (rest : List Grapheme) :
    rest.take (run test rest) = rest.takeWhile test :=
  (List.prefix_iff_eq_take.mp (List.takeWhile_prefix test)).symm

/-- What follows a run starts where its test fails. -/
theorem drop_run (test : Grapheme → Bool) (rest : List Grapheme) :
    rest.drop (run test rest) = rest.dropWhile test := by
  -- A grapheme that fails the test is where both the count and the run end.
  induction rest with
  | nil => rfl
  | cons grapheme rest ih =>
    by_cases passes : test grapheme <;> simp_all [run]

/-- Every grapheme of a run satisfies its test. -/
theorem all_of_takeWhile {test : Grapheme → Bool} {rest : List Grapheme} :
    ∀ grapheme ∈ rest.takeWhile test, test grapheme = true :=
  List.all_eq_true.mp List.all_takeWhile

/-- A run stops at what follows it. -/
theorem stopsAt_dropWhile (test : Grapheme → Bool) (rest : List Grapheme) :
    StopsAt test (rest.dropWhile test) := by
  -- What is left starts with the first grapheme that fails.
  intro next found
  have fails := List.head?_dropWhile_not test rest
  rw [found] at fails
  simpa using fails

/-- A run that stops at what follows it is measured exactly. -/
theorem run_append {test : Grapheme → Bool} {taken later : List Grapheme}
    (all : ∀ grapheme ∈ taken, test grapheme = true) (stops : StopsAt test later) :
    run test (taken ++ later) = taken.length := by
  -- Only the run itself is counted.
  rw [run, takeWhile_append_of_stopsAt all stops]

/-- A grapheme other than a given character is not just that character. -/
theorem isJust_eq_false {c : Char} {grapheme : Grapheme} :
    isJust c grapheme = false ↔ grapheme ≠ [c] := by simp [isJust]

/-- An operator is cut off with the equals sign that follows it, if one does. -/
theorem cuts_operatorTail {c : Char} {alone paired : Kind} (rest : List Grapheme)
    (listed : (c, alone, paired) ∈ operators) :
    Cuts (operatorTail alone paired rest).1
      ([c] :: rest.take (operatorTail alone paired rest).2)
      (rest.drop (operatorTail alone paired rest).2) := by
  -- The next grapheme is the equals sign of a longer operator, or it is not.
  cases rest with
  | nil => exact .alone listed (by simp [StopsAt])
  | cons next more =>
    by_cases equals : next = ['=']
    · subst equals
      exact .paired listed
    · simp only [operatorTail, List.head?_cons, Option.any_some, isJust_eq_false.mpr equals]
      exact .alone listed (by simpa [StopsAt, isJust] using equals)

/-- A slash is cut off alone or as the start of a comment. -/
theorem cuts_slashTail (rest : List Grapheme) :
    Cuts (slashTail rest).1 (['/'] :: rest.take (slashTail rest).2)
      (rest.drop (slashTail rest).2) := by
  -- The next grapheme is the second slash of a comment, or it is not.
  cases rest with
  | nil => exact .slash (by simp [StopsAt])
  | cons next more =>
    by_cases slash : next = ['/']
    · subst slash
      -- The second slash is part of what runs up to the newline.
      have taken : (['/'] :: more).takeWhile (!isJust '\n' ·) =
          ['/'] :: more.takeWhile (!isJust '\n' ·) := by simp [isJust]
      have dropped : (['/'] :: more).dropWhile (!isJust '\n' ·) =
          more.dropWhile (!isJust '\n' ·) := by simp [isJust]
      have comment : slashTail (['/'] :: more) =
          (.comment, run (!isJust '\n' ·) (['/'] :: more)) := by simp [slashTail, isJust]
      rw [comment, take_run, drop_run, taken, dropped]
      refine .comment ?_ (stopsAt_dropWhile _ _)
      intro grapheme member
      simpa [isJust] using all_of_takeWhile grapheme member
    · simp only [slashTail, List.head?_cons, Option.any_some, isJust_eq_false.mpr slash]
      exact .slash (by simpa [StopsAt, isJust] using slash)

/-- A string is cut off through its closing quote, or whole when it has none. -/
theorem cuts_stringTail (rest : List Grapheme) :
    Cuts (stringTail rest).1 (['"'] :: rest.take (stringTail rest).2)
      (rest.drop (stringTail rest).2) := by
  -- Either a quote is left after the contents, or nothing is.
  have contents : ∀ grapheme ∈ rest.takeWhile (!isJust '"' ·), grapheme ≠ ['"'] := by
    intro grapheme member
    simpa [isJust] using all_of_takeWhile grapheme member
  cases closing : rest.dropWhile (!isJust '"' ·) with
  | nil =>
    simp only [stringTail, drop_run, closing, take_run]
    exact .unterminated contents
  | cons quote more =>
    have isQuote : quote = ['"'] := by
      have stops := stopsAt_dropWhile (!isJust '"' ·) rest quote (by rw [closing]; rfl)
      simpa [isJust] using stops
    simp only [stringTail, drop_run, closing, List.take_add, List.drop_add_one_eq_tail_drop,
      take_run, List.take_succ_cons, List.take_zero, List.tail_cons, isQuote]
    exact .string contents

/-- A number is cut off with its fraction, if it has one. -/
theorem cuts_numberTail {c : Char} (rest : List Grapheme) (digit : c.isDigit) :
    Cuts (.token .number) ([c] :: rest.take (numberTail rest)) (rest.drop (numberTail rest)) := by
  -- A fraction needs both the point after the digits and a digit after the point.
  have digits : ∀ grapheme ∈ rest.takeWhile isDigit, isDigit grapheme = true :=
    all_of_takeWhile
  have stops := stopsAt_dropWhile isDigit rest
  cases following : rest.dropWhile isDigit with
  | nil =>
    have length : numberTail rest = run isDigit rest := by
      simp [numberTail, drop_run, following]
    rw [length, take_run, drop_run]
    exact .whole digit digits stops (by simp [FractionFollows, following])
  | cons point more =>
    by_cases fraction : point = ['.'] ∧ 0 < run isDigit more
    · obtain ⟨rfl, some⟩ := fraction
      have length : numberTail rest = run isDigit rest + (run isDigit more + 1) := by
        simp [numberTail, drop_run, following, isJust, some]
        omega
      rw [length, List.take_add, ← List.drop_drop, take_run, drop_run, following,
        List.take_succ_cons, List.drop_succ_cons, take_run, drop_run]
      refine .decimal digit digits ?_ all_of_takeWhile (stopsAt_dropWhile isDigit more)
      exact List.ne_nil_of_length_pos some
    · have length : numberTail rest = run isDigit rest := by
        have isNone : (isJust '.' point && decide (0 < run isDigit more)) = false := by
          simpa [isJust] using fraction
        simp [numberTail, drop_run, following, isNone]
      rw [length, take_run, drop_run]
      refine .whole digit digits stops ?_
      intro follows
      obtain ⟨next, others, same, nextDigit⟩ := follows
      rw [following, List.cons.injEq] at same
      exact fraction ⟨same.1, by simp [run, same.2, nextDigit]⟩

/-- A word is cut off as far as it goes. -/
theorem cuts_wordTail {c : Char} (rest : List Grapheme) (letter : startsWord c) :
    Cuts (wordTail c rest).1 ([c] :: rest.take (wordTail c rest).2)
      (rest.drop (wordTail c rest).2) := by
  -- The word takes the whole run, and its kind is computed from what it takes.
  simp only [wordTail, take_run, drop_run]
  exact .word letter all_of_takeWhile (stopsAt_dropWhile isWordPart rest)

/-- What starts with a single character is cut off by a rule. -/
theorem cuts_startingWith (c : Char) (rest : List Grapheme) :
    Cuts (startingWith c rest).1 ([c] :: rest.take (startingWith c rest).2)
      (rest.drop (startingWith c rest).2) := by
  -- One branch for each character that starts something, and then the rest.
  unfold startingWith
  split
  iterate 10 exact .punctuation (by decide)
  iterate 4 exact cuts_operatorTail rest (by decide)
  · exact cuts_slashTail rest
  · exact cuts_stringTail rest
  iterate 3 exact .blank rfl
  · exact .newline
  · split
    · exact cuts_numberTail rest (by assumption)
    · split
      · exact cuts_wordTail rest (by assumption)
      · refine .unexpected ?_
        intro other same
        obtain rfl : c = other := by simpa using same
        simp_all [startsPiece, isBlank, punctuation, operators]

/-- What starts with a grapheme is cut off by a rule. -/
theorem cuts_starting (first : Grapheme) (rest : List Grapheme) :
    Cuts (starting first rest).1 (first :: rest.take (starting first rest).2)
      (rest.drop (starting first rest).2) := by
  -- Only a grapheme of a single character can start anything but a fault.
  unfold starting
  split
  · exact cuts_startingWith _ rest
  · refine .unexpected ?_
    intro c same
    subst same
    simp_all

@[simp] theorem divide_nil : divide [] = [] := by rw [divide]

/-- One step of dividing, by how much the first grapheme takes. -/
theorem divide_of_starting {first : Grapheme} {role : Role} {taken later : List Grapheme}
    (begun : starting first (taken ++ later) = (role, taken.length)) :
    divide (first :: (taken ++ later)) = ⟨role, first ++ taken.flatten⟩ :: divide later := by
  -- What the first grapheme takes is measured, so the list is cut where it ends.
  rw [divide, begun]
  simp

/-- Punctuation is cut off alone. -/
theorem startingWith_punctuation {c : Char} {kind : Kind} (listed : (c, kind) ∈ punctuation)
    (rest : List Grapheme) : startingWith c rest = (.token kind, 0) := by
  -- The table lists these branches.
  simp only [punctuation, List.mem_cons, Prod.mk.injEq, List.not_mem_nil, or_false] at listed
  rcases listed with ⟨rfl, rfl⟩ | ⟨rfl, rfl⟩ | ⟨rfl, rfl⟩ | ⟨rfl, rfl⟩ | ⟨rfl, rfl⟩ |
    ⟨rfl, rfl⟩ | ⟨rfl, rfl⟩ | ⟨rfl, rfl⟩ | ⟨rfl, rfl⟩ | ⟨rfl, rfl⟩ <;> rfl

/-- An operator looks for an equals sign. -/
theorem startingWith_operator {c : Char} {alone paired : Kind}
    (listed : (c, alone, paired) ∈ operators) (rest : List Grapheme) :
    startingWith c rest = operatorTail alone paired rest := by
  -- The table lists these branches.
  simp only [operators, List.mem_cons, Prod.mk.injEq, List.not_mem_nil, or_false] at listed
  rcases listed with ⟨rfl, rfl, rfl⟩ | ⟨rfl, rfl, rfl⟩ | ⟨rfl, rfl, rfl⟩ | ⟨rfl, rfl, rfl⟩ <;> rfl

/-- A blank is cut off alone. -/
theorem startingWith_blank {c : Char} (blank : isBlank c) (rest : List Grapheme) :
    startingWith c rest = (.blank, 0) := by
  -- There are three blanks.
  simp only [isBlank, Bool.or_eq_true, decide_eq_true_eq] at blank
  rcases blank with (rfl | rfl) | rfl <;> rfl

/-- A digit starts a number. -/
theorem startingWith_digit {c : Char} (digit : c.isDigit) (rest : List Grapheme) :
    startingWith c rest = (.token .number, numberTail rest) := by
  -- No character with a branch of its own is a digit.
  unfold startingWith
  split
  all_goals first | contradiction | simp [digit]

/-- A digit starts no word. -/
theorem isDigit_of_startsWord {c : Char} (letter : startsWord c) : c.isDigit = false := by
  -- The ranges of letters and of digits do not meet.
  simp only [startsWord, Bool.or_eq_true, decide_eq_true_eq] at letter
  rcases letter with letter | rfl
  · rw [isAlpha_iff] at letter
    rw [← Bool.not_eq_true, isDigit_iff]
    omega
  · rfl

/-- A letter or an underscore starts a word. -/
theorem startingWith_letter {c : Char} (letter : startsWord c) (rest : List Grapheme) :
    startingWith c rest = wordTail c rest := by
  -- No character with a branch of its own is a letter, and no letter is a digit.
  unfold startingWith
  split
  all_goals first | contradiction | simp [letter, isDigit_of_startsWord letter]

/-- A grapheme that starts nothing is a fault. -/
theorem starting_unexpected {grapheme : Grapheme}
    (nothing : ∀ c, grapheme = [c] → startsPiece c = false) (rest : List Grapheme) :
    starting grapheme rest = (.unexpected, 0) := by
  -- A single character falls through every branch, and other graphemes have none.
  unfold starting
  split
  · rename_i c
    have nothing := nothing c rfl
    unfold startingWith
    split
    -- Only the last branch is about a character that starts nothing.
    all_goals first | exact absurd nothing (by decide) | skip
    simp only [startsPiece, Bool.or_eq_false_iff] at nothing
    simp [nothing]
  · rfl

/-- A number without a fraction ends where its digits do. -/
theorem numberTail_whole {digits later : List Grapheme}
    (all : ∀ grapheme ∈ digits, isDigit grapheme = true) (stops : StopsAt isDigit later)
    (ends : ¬FractionFollows later) : numberTail (digits ++ later) = digits.length := by
  -- The digits are counted, and what follows them is no fraction.
  have length := run_append all stops
  simp only [numberTail, length, List.drop_left]
  cases later with
  | nil => rfl
  | cons point more =>
    simp only
    split
    · rename_i fraction
      -- A point with a digit after it would be a fraction.
      simp only [isJust, run, Bool.and_eq_true, decide_eq_true_eq] at fraction
      obtain ⟨rfl, some⟩ := fraction
      cases more with
      | nil => simp at some
      | cons digit others =>
        refine absurd ⟨digit, others, rfl, ?_⟩ ends
        by_cases isOne : isDigit digit
        · exact isOne
        · simp [isOne] at some
    · rfl

/-- A number with a fraction ends where the digits after its point do. -/
theorem numberTail_decimal {digits fraction later : List Grapheme}
    (all : ∀ grapheme ∈ digits, isDigit grapheme = true) (some : fraction ≠ [])
    (rest : ∀ grapheme ∈ fraction, isDigit grapheme = true) (stops : StopsAt isDigit later) :
    numberTail ((digits ++ ['.'] :: fraction) ++ later) =
      (digits ++ ['.'] :: fraction).length := by
  -- The point stops the first run of digits and lets the second one in.
  have point : StopsAt isDigit (['.'] :: (fraction ++ later)) := by
    intro next found
    cases found
    rfl
  have length := run_append all point
  have positive := List.length_pos_iff.mpr some
  simp only [List.append_assoc, List.cons_append]
  simp [numberTail, length, run_append rest stops, isJust, positive]
  omega

/-- Dividing cuts off what a rule does, and goes on with what follows. -/
theorem divide_append {role : Role} {taken later : List Grapheme}
    (cut : Cuts role taken later) :
    divide (taken ++ later) = ⟨role, taken.flatten⟩ :: divide later := by
  cases cut with
  | blank blank => exact divide_of_starting (startingWith_blank blank _)
  | newline => exact divide_of_starting rfl
  | @comment body _ within stops =>
    have length : run (!isJust '\n' ·) ((['/'] :: body) ++ later) = (['/'] :: body).length :=
      run_append (by simpa [isJust] using within) stops
    exact divide_of_starting (congrArg (Prod.mk Role.comment) length)
  | @unterminated body within =>
    have length : run (!isJust '"' ·) (body ++ []) = body.length :=
      run_append (by simpa [isJust] using within) (by simp [StopsAt])
    apply divide_of_starting
    simp only [List.append_nil] at length ⊢
    simp [starting, startingWith, stringTail, length]
  | @string body _ within =>
    have length : run (!isJust '"' ·) (body ++ ['"'] :: later) = body.length :=
      run_append (by simpa [isJust] using within) (by simp [StopsAt, isJust])
    apply divide_of_starting
    simp [starting, startingWith, stringTail, length]
  | whole digit digits stops ends =>
    apply divide_of_starting
    simp [starting, startingWith_digit digit, numberTail_whole digits stops ends]
  | decimal digit digits some rest stops =>
    apply divide_of_starting
    rw [starting, startingWith_digit digit, numberTail_decimal digits some rest stops]
  | word letter more stops =>
    apply divide_of_starting
    simp [starting, startingWith_letter letter, wordTail, run_append more stops]
  | slash stops =>
    apply divide_of_starting
    cases later with
    | nil => rfl
    | cons next more => simp [starting, startingWith, slashTail, stops next rfl]
  | punctuation listed => exact divide_of_starting (startingWith_punctuation listed _)
  | alone listed stops =>
    apply divide_of_starting
    rw [starting, startingWith_operator listed]
    cases later with
    | nil => rfl
    | cons next more => simp [operatorTail, stops next rfl]
  | paired listed => exact divide_of_starting (startingWith_operator listed _)
  | unexpected nothing => exact divide_of_starting (starting_unexpected nothing _)

/-- What holds of nothing and is kept by every rule holds of every list of graphemes. -/
theorem cuts_induction {motive : List Grapheme → Prop} (nil : motive [])
    (cut : ∀ {role taken later}, Cuts role taken later → motive later → motive (taken ++ later))
    (graphemes : List Grapheme) : motive graphemes := by
  fun_induction divide graphemes with
  | case1 => exact nil
  | case2 first rest role length begun ih =>
    have first := cut (cuts_starting first rest) (by simpa [begun] using ih)
    simpa using first

/-- Every piece was cut off by the rule of its role, right after the pieces in front of it. -/
theorem exists_cuts_of_divide {graphemes : List Grapheme} {before after : List Piece}
    {piece : Piece} (divided : divide graphemes = before ++ piece :: after) :
    ∃ earlier taken later, graphemes = earlier ++ taken ++ later ∧
      Cuts piece.role taken later ∧ piece.text = taken.flatten ∧
        earlier.flatten = before.flatMap text ∧ divide later = after := by
  -- The induction follows the rules, so that the first piece is always the one just cut off.
  induction graphemes using cuts_induction generalizing before with
  | nil => simp at divided
  | @cut role taken later cut ih =>
    rw [divide_append cut] at divided
    cases before with
    | nil =>
      obtain ⟨rfl, same⟩ := List.cons.inj divided
      exact ⟨[], taken, later, rfl, cut, rfl, rfl, same⟩
    | cons first before =>
      obtain ⟨rfl, rest⟩ := List.cons.inj divided
      obtain ⟨earlier, inner, others, rfl, cut', same, place, left⟩ := ih rest
      exact ⟨taken ++ earlier, inner, others, by simp, cut', same, by simp [place], left⟩

/-- A string that is divided off holds graphemes between two quotes, and no quote among them. -/
theorem exists_contents_of_mem {graphemes : List Grapheme} {lexeme : List Char}
    (member : ⟨.token .string, lexeme⟩ ∈ divide graphemes) : ∃ body : List Grapheme,
      lexeme = '"' :: (body.flatten ++ ['"']) ∧
        ∀ grapheme ∈ body, grapheme ∈ graphemes ∧ grapheme ≠ ['"'] := by
  obtain ⟨before, after, placed⟩ := List.append_of_mem member
  obtain ⟨earlier, taken, later, divided, cut, same, _⟩ := exists_cuts_of_divide placed
  obtain ⟨body, rfl, within⟩ := eq_of_cuts_string cut
  refine ⟨body, by simpa using same, ?_⟩
  intro grapheme inside
  exact ⟨by rw [divided]; simp [inside], within grapheme inside⟩

end LoxTokens.Piece
