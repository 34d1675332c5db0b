import LoxTokens.Proofs.Walk.Invariant

/-! One step of a walk for each of its stages, none of which fails. -/

namespace LoxTokens

/-- Operators are not names, and so keep their kinds. -/
theorem Kind.settled_operators : ∀ entry ∈ Piece.operators,
    ∀ lexeme, entry.2.1.settled lexeme = entry.2.1 ∧ entry.2.2.settled lexeme = entry.2.2 := by
  simp [Piece.operators, Kind.settled]

/-- A list whose first item satisfies a test has a first item. -/
theorem exists_cons_of_any {α : Type} {test : α → Bool} {items : List α}
    (first : items.head?.any test = true) :
    ∃ item more, items = item :: more ∧ test item = true := by
  cases items with
  | nil => contradiction
  | cons item more => exact ⟨item, more, rfl, first⟩

/-- A run stops at a list whose first item does not satisfy its test. -/
theorem stopsAt_of_not_any {α : Type} {test : α → Bool} {items : List α}
    (first : ¬items.head?.any test = true) : Piece.StopsAt test items := by
  intro next found
  simpa [found] using first

/-- A blank is one character. -/
theorem Walk.eq_singleton_of_isBlank {grapheme : Grapheme} (blank : isBlank grapheme = true) :
    ∃ c, grapheme = [c] ∧ Piece.isBlank c = true := by
  unfold isBlank at blank
  split at blank
  · exact ⟨_, rfl, blank⟩
  · contradiction

/-- What the first grapheme of a lexeme starts, it fits. -/
theorem Stage.fits_opened {next : Grapheme} {more : List Grapheme} (opens : Opens (next :: more)) :
    (opened next).Fits [next] more := by
  obtain ⟨notNewline, notBlank, slash⟩ := opens next more rfl
  unfold opened
  split
  · -- One branch for each character that starts a lexeme, and then the rest.
    split
    iterate 10 exact .punctuation (by decide)
    · exact .slash (slash rfl)
    iterate 4 exact ⟨_, rfl, by decide⟩
    · exact ⟨[], rfl, by simp⟩
    · split
      · exact ⟨_, [], rfl, by assumption, by simp⟩
      · split
        · exact ⟨_, [], rfl, by assumption, by simp⟩
        · refine ⟨rfl, .unexpected ?_⟩
          intro other same
          obtain rfl := List.singleton_inj.mp same
          simp_all [Piece.startsPiece, Walk.isBlank, Piece.punctuation, Piece.operators]
  · refine ⟨rfl, .unexpected ?_⟩
    intro c same
    simp_all

/-- What a grapheme starts is in hand. -/
theorem Stage.inHand_opened (grapheme : Grapheme) : (opened grapheme).inHand = true := by
  unfold opened
  split
  · split <;> try split
    all_goals try split
    all_goals rfl
  · rfl

namespace Walk

section

variable {text : List Char} {passed taken later : List Grapheme} {cursor : Cursor} {found : Scan}

/-- A lexeme that is all taken is made into its token. -/
theorem Stands.complete {kind : Kind}
    (stands : Stands text passed taken later ⟨cursor, .complete kind, found⟩) :
    ∃ next, Leads text ⟨cursor, .complete kind, found⟩ next := by
  have cut : Piece.Cuts (.token (kind.settled taken.flatten)) taken later := stands.fits
  have place : cursor.At text passed taken later := stands.cursor
  let token := Token.ofLexeme (kind.settled taken.flatten) taken.flatten cursor.startLine
  have step : step? ⟨cursor, .complete kind, found⟩ =
      some ⟨cursor, .between, found.followedBy ⟨[token], []⟩⟩ := by
    rw [step?, place.token?_eq cut]
    rfl
  refine ⟨_, stands.find step rfl rfl (by simp [Stage.weight]) ?_⟩
  rw [Piece.divide_append cut, place.line_eq]
  rfl

/-- A fault is reported on the line it is on. -/
theorem Stands.fault {grapheme : Grapheme}
    (stands : Stands text passed taken later ⟨cursor, .fault grapheme, found⟩) :
    ∃ next, Leads text ⟨cursor, .fault grapheme, found⟩ next := by
  obtain ⟨rfl, cut⟩ : taken = [grapheme] ∧ Piece.Cuts .unexpected taken later := stands.fits
  have place : cursor.At text passed [grapheme] later := stands.cursor
  -- Nothing but a string goes on past the line it starts on.
  have sameLine : cursor.line = cursor.startLine := by
    have inText : ∀ other ∈ [grapheme], other ∈ graphemes text :=
      fun other member => place.mem_graphemes other (List.mem_append_left later member)
    rw [place.line_eq, Cursor.newlines_of_cuts inText cut rfl, Nat.add_zero]
  refine ⟨_, stands.find rfl rfl rfl (by simp [Stage.weight]) ?_⟩
  have flat : [grapheme].flatten = grapheme := by simp
  rw [Piece.divide_append cut, place.line_eq, flat]
  rw [place.line_eq, flat] at sameLine
  simp [Scan.ofPieces, Scan.followedBy, Scan.addDiagnostic, sameLine]

/-- An operator takes the equals sign that turns it into another one. -/
theorem Stands.operator {alone paired : Kind}
    (stands : Stands text passed taken later ⟨cursor, .operator alone paired, found⟩) :
    ∃ next, Leads text ⟨cursor, .operator alone paired, found⟩ next := by
  obtain ⟨c, rfl, listed⟩ : ∃ c, taken = [[c]] ∧ (c, alone, paired) ∈ Piece.operators := stands.fits
  have sees := stands.cursor.sees
  by_cases equals : later.head?.any (Piece.isJust '=')
  · obtain ⟨next, more, rfl, same⟩ := exists_cons_of_any equals
    obtain rfl : next = ['='] := by simpa [Piece.isJust] using same
    have step : step? ⟨cursor, .operator alone paired, found⟩ =
        some ⟨cursor.advance 0, .complete paired, found⟩ := by simp [step?, sees, same]
    refine ⟨_, stands.take step rfl rfl rfl ?_⟩
    rw [Stage.Fits, (Kind.settled_operators _ listed _).2]
    exact .paired listed
  · have step : step? ⟨cursor, .operator alone paired, found⟩ =
        some ⟨cursor, .complete alone, found⟩ := by simp [step?, sees, equals]
    refine ⟨_, stands.close step rfl rfl (by simp [Stage.weight]) ?_⟩
    rw [(Kind.settled_operators _ listed _).1]
    exact .alone listed (stopsAt_of_not_any equals)

/-- A string takes what comes, up to a quote, and is reported when there is none. -/
theorem Stands.string (stands : Stands text passed taken later ⟨cursor, .string, found⟩) :
    ∃ next, Leads text ⟨cursor, .string, found⟩ next := by
  obtain ⟨body, rfl, within⟩ : ∃ body, taken = ['"'] :: body ∧
    ∀ grapheme ∈ body, grapheme ≠ ['"'] := stands.fits
  have place : cursor.At text passed (['"'] :: body) later := stands.cursor
  have sees := place.sees
  cases later with
  | nil =>
    have step : step? ⟨cursor, .string, found⟩ = some ⟨cursor, .between,
        found.followedBy ⟨[], [⟨cursor.line, .unterminatedString⟩]⟩⟩ := by
      simp [step?, sees, addDiagnostic]
    refine ⟨_, stands.find step rfl rfl (by simp [Stage.weight]) ?_⟩
    rw [Piece.divide_append (.unterminated within), place.line_eq]
    rfl
  | cons next more =>
    have grown (notQuote : next ≠ ['"']) : Stage.string.Fits (['"'] :: body ++ [next]) more :=
      ⟨body ++ [next], rfl, by simpa [or_imp, forall_and, notQuote] using within⟩
    by_cases newline : next = ['\n']
    · subst newline
      have step : step? ⟨cursor, .string, found⟩ = some ⟨cursor.advance 1, .string, found⟩ := by
        simp [step?, sees, Piece.isJust]
      exact ⟨_, stands.take step rfl rfl rfl (grown (by simp))⟩
    · have oneLine := place.newlines_eq_zero newline
      by_cases quote : next = ['"']
      · subst quote
        have step : step? ⟨cursor, .string, found⟩ =
            some ⟨cursor.advance 0, .complete .string, found⟩ := by simp [step?, sees, Piece.isJust]
        exact ⟨_, stands.take step rfl rfl oneLine (Piece.Cuts.string within)⟩
      · have step : step? ⟨cursor, .string, found⟩ =
            some ⟨cursor.advance 0, .string, found⟩ := by
          simp [step?, sees, Piece.isJust, newline, quote]
        exact ⟨_, stands.take step rfl rfl oneLine (grown quote)⟩

/-- A number takes digits, and the point between two of them. -/
theorem Stands.whole (stands : Stands text passed taken later ⟨cursor, .whole, found⟩) :
    ∃ next, Leads text ⟨cursor, .whole, found⟩ next := by
  obtain ⟨c, digits, rfl, digit, all⟩ : ∃ c digits, taken = [c] :: digits ∧ c.isDigit ∧
    ∀ grapheme ∈ digits, Piece.isDigit grapheme := stands.fits
  have place : cursor.At text passed ([c] :: digits) later := stands.cursor
  have sees := place.sees
  have seesNext := place.seesNext
  by_cases goesOn : later.head?.any Piece.isDigit
  · obtain ⟨next, more, rfl, isDigit⟩ := exists_cons_of_any goesOn
    have step : step? ⟨cursor, .whole, found⟩ = some ⟨cursor.advance 0, .whole, found⟩ := by
      simp [step?, sees, isDigit]
    have oneLine := place.newlines_of_test isDigit rfl
    refine ⟨_, stands.take step rfl rfl oneLine ⟨c, digits ++ [next], rfl, digit, ?_⟩⟩
    simpa [or_imp, forall_and, isDigit] using all
  by_cases fraction : later.head?.any (Piece.isJust '.') && later.tail.head?.any Piece.isDigit
  · obtain ⟨point, isDigit⟩ := (Bool.and_eq_true _ _).mp fraction
    obtain ⟨next, more, rfl, isPoint⟩ := exists_cons_of_any point
    obtain rfl : next = ['.'] := by simpa [Piece.isJust] using isPoint
    have step : step? ⟨cursor, .whole, found⟩ = some ⟨cursor.advance 0, .fraction, found⟩ := by
      rw [step?, sees, seesNext, sees, if_neg goesOn, if_pos fraction]
    refine ⟨_, stands.take step rfl rfl rfl ⟨c, digits, [], rfl, digit, all, by simp, ?_⟩⟩
    intro _
    exact exists_cons_of_any isDigit
  · have step : step? ⟨cursor, .whole, found⟩ = some ⟨cursor, .complete .number, found⟩ := by
      rw [step?, sees, seesNext, sees, if_neg goesOn, if_neg fraction]
    refine ⟨_, stands.close step rfl rfl (by simp [Stage.weight]) ?_⟩
    refine .whole digit all (stopsAt_of_not_any goesOn) ?_
    rintro ⟨next, more, rfl, isDigit⟩
    simp [Piece.isJust, isDigit] at fraction

/-- The digits behind a point are taken as long as there are more. -/
theorem Stands.fraction (stands : Stands text passed taken later ⟨cursor, .fraction, found⟩) :
    ∃ next, Leads text ⟨cursor, .fraction, found⟩ next := by
  obtain ⟨c, digits, fraction, rfl, digit, all, rest, present⟩ := stands.fits
  have sees := stands.cursor.sees
  by_cases goesOn : later.head?.any Piece.isDigit
  · obtain ⟨next, more, rfl, isDigit⟩ := exists_cons_of_any goesOn
    have step : step? ⟨cursor, .fraction, found⟩ = some ⟨cursor.advance 0, .fraction, found⟩ := by
      simp [step?, sees, isDigit]
    have oneLine := stands.cursor.newlines_of_test isDigit rfl
    refine ⟨_, stands.take step rfl rfl oneLine
      ⟨c, digits, fraction ++ [next], by simp, digit, all, ?_, by simp⟩⟩
    simpa [or_imp, forall_and, isDigit] using rest
  · have step : step? ⟨cursor, .fraction, found⟩ = some ⟨cursor, .complete .number, found⟩ := by
      simp [step?, sees, goesOn]
    refine ⟨_, stands.close step rfl rfl (by simp [Stage.weight]) ?_⟩
    refine .decimal digit all ?_ rest (stopsAt_of_not_any goesOn)
    intro empty
    obtain ⟨next, more, rfl, isDigit⟩ := present empty
    simp [isDigit] at goesOn

/-- A word is taken as long as it goes on. -/
theorem Stands.word (stands : Stands text passed taken later ⟨cursor, .word, found⟩) :
    ∃ next, Leads text ⟨cursor, .word, found⟩ next := by
  obtain ⟨c, parts, rfl, letter, all⟩ : ∃ c more, taken = [c] :: more ∧ Piece.startsWord c ∧
    ∀ grapheme ∈ more, Piece.isWordPart grapheme := stands.fits
  have sees := stands.cursor.sees
  by_cases goesOn : later.head?.any Piece.isWordPart
  · obtain ⟨next, more, rfl, isPart⟩ := exists_cons_of_any goesOn
    have step : step? ⟨cursor, .word, found⟩ = some ⟨cursor.advance 0, .word, found⟩ := by
      simp [step?, sees, isPart]
    have oneLine := stands.cursor.newlines_of_test isPart rfl
    refine ⟨_, stands.take step rfl rfl oneLine ⟨c, parts ++ [next], rfl, letter, ?_⟩⟩
    simpa [or_imp, forall_and, isPart] using all
  · have step : step? ⟨cursor, .word, found⟩ = some ⟨cursor, .complete .identifier, found⟩ := by
      simp [step?, sees, goesOn]
    refine ⟨_, stands.close step rfl rfl (by simp [Stage.weight]) ?_⟩
    exact .word letter all (stopsAt_of_not_any goesOn)

/-- A comment is passed over as long as it goes on. -/
theorem Stands.comment (stands : Stands text passed taken later ⟨cursor, .comment, found⟩) :
    ∃ next, Leads text ⟨cursor, .comment, found⟩ next := by
  have unfinished : cursor.finished = false := stands.unfinished (.inr rfl)
  have sees := stands.cursor.sees
  by_cases goesOn : later.head?.any (!Piece.isJust '\n' ·)
  · obtain ⟨next, more, rfl, inside⟩ := exists_cons_of_any goesOn
    have step : step? ⟨cursor, .comment, found⟩ = some ⟨cursor.advance 0, .comment, found⟩ := by
      simp [step?, sees, inside]
    have oneLine := stands.cursor.newlines_eq_zero (by simpa [Piece.isJust] using inside)
    refine ⟨_, stands.advance step (by simp) oneLine trivial ?_⟩
    simp [owed, Stage.inHand, Cursor.advance, inside]
  · have step : step? ⟨cursor, .comment, found⟩ = some ⟨cursor, .between, found⟩ := by
      simp [step?, sees, goesOn]
    -- What is left of the comment is nothing, and so the next piece is owed.
    have ended : later.dropWhile (!Piece.isJust '\n' ·) = later := by
      cases later with
      | nil => rfl
      | cons next more => simpa using goesOn
    refine ⟨_, stands.turn step unfinished (by simp) ?_ trivial ?_⟩
    · simp [Stage.weight, sees, goesOn]
    · simp [owed, Stage.inHand, ended]

/-- At the end the mark is handed out, and once it was, the walk ends. -/
theorem Stands.atEnd (stands : Stands text passed [] [] ⟨cursor, .opening, found⟩) :
    ∃ next, Leads text ⟨cursor, .opening, found⟩ next := by
  have place : cursor.At text passed [] [] := stands.cursor
  have accounted := stands.accounted
  cases finished : cursor.finished with
  | true =>
    have step : step? ⟨cursor, .opening, found⟩ = some ⟨cursor, .ended, found⟩ := by
      simp [step?, place.peek, finished]
    refine ⟨_, step, ⟨passed, [], [], place, trivial, ?_, fun _ => finished, ?_⟩,
      ahead_lt (by simp [Stage.weight])⟩
    · exact fun _ => ⟨rfl, rfl⟩
    · simpa [owed, finished] using accounted
  | false =>
    have step : step? ⟨cursor, .opening, found⟩ = some ⟨cursor.finish, .between,
        found.followedBy ⟨[.endOfInput cursor.line], []⟩⟩ := by
      simp [step?, place.peek, finished, addToken]
    refine ⟨_, step, ⟨passed, [], [], place.finish, trivial, ?_, ?_, ?_⟩, ?_⟩
    · exact fun _ => ⟨rfl, rfl⟩
    · intro ended
      cases ended
    · -- All that was owed is the mark at the end.
      have sameLine : cursor.line = cursor.startLine := place.line_eq
      simpa [owed, finished, Cursor.finish, Stage.inHand, Scan.ofPieces, sameLine] using accounted
    · rw [ahead_eq ⟨cursor, .opening, found⟩ place,
        ahead_eq ⟨cursor.finish, .between, _⟩ place.finish]
      simp [Stage.weight, finished, Cursor.finish]

/-- A lexeme is opened by its first grapheme, if there is one. -/
theorem Stands.opening (stands : Stands text passed taken later ⟨cursor, .opening, found⟩) :
    ∃ next, Leads text ⟨cursor, .opening, found⟩ next := by
  obtain ⟨rfl, opens⟩ : taken = [] ∧ Stage.Opens later := stands.fits
  have place : cursor.At text passed [] later := stands.cursor
  cases later with
  | nil => exact stands.atEnd
  | cons next more =>
    have step : step? ⟨cursor, .opening, found⟩ =
        some ⟨cursor.advance 0, .opened next, found⟩ := by simp [step?, place.peek]
    have oneLine := place.newlines_eq_zero (opens next more rfl).1
    exact ⟨_, stands.take step rfl (Stage.inHand_opened next) oneLine (Stage.fits_opened opens)⟩

/-- A grapheme that is a piece to pass over is passed over. -/
theorem Stands.passOver {lines : Nat} {role : Role}
    (stands : Stands text passed taken (next :: later) ⟨cursor, .between, found⟩)
    (step : step? ⟨cursor, .between, found⟩ = some ⟨cursor.advance lines, .between, found⟩)
    (cut : Piece.Cuts role [next] later) (passedOver : role.isPassedOver = true)
    (counted : Scan.newlines next = lines) :
    Leads text ⟨cursor, .between, found⟩ ⟨cursor.advance lines, .between, found⟩ := by
  refine stands.advance step (by simp) counted trivial ?_
  intro unfinished
  have passes := Scan.ofPieces_passedOver cut passedOver cursor.line
  simp only [List.flatten_singleton, counted, List.singleton_append] at passes
  simp [owed, Stage.inHand, Cursor.advance, unfinished, passes]

/-- Two slashes start a comment, which is passed over grapheme by grapheme. -/
theorem Stands.enterComment
    (stands : Stands text passed taken (['/'] :: ['/'] :: later) ⟨cursor, .between, found⟩)
    (step : step? ⟨cursor, .between, found⟩ = some ⟨cursor, .comment, found⟩) :
    Leads text ⟨cursor, .between, found⟩ ⟨cursor, .comment, found⟩ := by
  have unfinished : cursor.finished = false := stands.unfinished (.inl (by simp))
  let body := later.takeWhile (!Piece.isJust '\n' ·)
  let rest := later.dropWhile (!Piece.isJust '\n' ·)
  have cut : Piece.Cuts .comment (['/'] :: ['/'] :: body) rest := by
    refine .comment ?_ (Piece.stopsAt_dropWhile _ _)
    intro grapheme member
    simpa [Piece.isJust] using Piece.all_of_takeWhile grapheme member
  have whole : ['/'] :: ['/'] :: later = (['/'] :: ['/'] :: body) ++ rest := by
    simp [body, rest, List.takeWhile_append_dropWhile]
  -- A comment stops in front of the newline that ends its line.
  have inText : ∀ grapheme ∈ ['/'] :: ['/'] :: body, grapheme ∈ graphemes text := by
    intro grapheme member
    refine stands.cursor.mem_graphemes grapheme (List.mem_append_right taken ?_)
    rw [whole]
    exact List.mem_append_left rest member
  have oneLine := Cursor.newlines_of_cuts inText cut rfl
  refine stands.turn step unfinished (by simp) ?_ trivial ?_
  · simp [Stage.weight, stands.cursor.sees, Piece.isJust]
  · have passes := Scan.ofPieces_passedOver cut rfl cursor.line
    rw [oneLine, Nat.add_zero, ← whole] at passes
    have dropped : (['/'] :: ['/'] :: later).dropWhile (!Piece.isJust '\n' ·) = rest := by
      simp [Piece.isJust, rest]
    simp [owed, Stage.inHand, unfinished, passes, dropped]

/-- A lexeme is opened in front of what does not start as something to pass over. -/
theorem Stands.resync (stands : Stands text passed taken later ⟨cursor, .between, found⟩)
    (step : step? ⟨cursor, .between, found⟩ = some ⟨cursor.resync, .opening, found⟩)
    (opens : Stage.Opens later) :
    Leads text ⟨cursor, .between, found⟩ ⟨cursor.resync, .opening, found⟩ := by
  have place := stands.cursor.resync
  refine ⟨step, ⟨passed ++ taken, [], later, place, ⟨rfl, opens⟩, ?_, ?_, ?_⟩, ?_⟩
  · exact fun finished => ⟨(stands.finished finished).1, rfl⟩
  · intro ended
    cases ended
  · simpa [owed, Stage.inHand, Cursor.resync] using stands.accounted
  · -- The bound does not depend on where the lexeme in hand starts.
    show ahead ⟨cursor, .opening, found⟩ < ahead ⟨cursor, .between, found⟩
    exact ahead_lt (by simp [Stage.weight])

/-- Blanks, newlines and comments are passed over, and then a lexeme is opened. -/
theorem Stands.between (stands : Stands text passed taken later ⟨cursor, .between, found⟩) :
    ∃ next, Leads text ⟨cursor, .between, found⟩ next := by
  have sees := stands.cursor.sees
  have seesNext := stands.cursor.seesNext
  cases later with
  | nil =>
    have step : step? ⟨cursor, .between, found⟩ = some ⟨cursor.resync, .opening, found⟩ := by
      simp [step?, sees]
    exact ⟨_, stands.resync step (by simp [Stage.Opens])⟩
  | cons next more =>
    by_cases newline : next = ['\n']
    · subst newline
      have step : step? ⟨cursor, .between, found⟩ = some ⟨cursor.advance 1, .between, found⟩ := by
        simp [step?, sees, Piece.isJust]
      exact ⟨_, stands.passOver step .newline rfl rfl⟩
    have oneLine := stands.cursor.newlines_eq_zero newline
    by_cases blank : isBlank next
    · have step : step? ⟨cursor, .between, found⟩ = some ⟨cursor.advance 0, .between, found⟩ := by
        simp [step?, sees, Piece.isJust, newline, blank]
      obtain ⟨c, rfl, isBlank⟩ := eq_singleton_of_isBlank blank
      exact ⟨_, stands.passOver step (.blank isBlank) rfl oneLine⟩
    by_cases comment : Piece.isJust '/' next && more.head?.any (Piece.isJust '/')
    · have step : step? ⟨cursor, .between, found⟩ = some ⟨cursor, .comment, found⟩ := by
        simp [step?, sees, seesNext, Piece.isJust, newline, blank] at comment ⊢
        simp [comment]
      obtain ⟨slash, again⟩ := (Bool.and_eq_true _ _).mp comment
      obtain ⟨second, rest, rfl, isSecond⟩ := exists_cons_of_any again
      obtain rfl : next = ['/'] := by simpa [Piece.isJust] using slash
      obtain rfl : second = ['/'] := by simpa [Piece.isJust] using isSecond
      exact ⟨_, stands.enterComment step⟩
    · have step : step? ⟨cursor, .between, found⟩ = some ⟨cursor.resync, .opening, found⟩ := by
        simp [step?, sees, seesNext, Piece.isJust, newline, blank] at comment ⊢
        simpa using comment
      refine ⟨_, stands.resync step ?_⟩
      rintro _ _ ⟨⟩
      refine ⟨newline, by simpa using blank, ?_⟩
      intro slash
      refine stopsAt_of_not_any fun again => comment ?_
      simp [Piece.isJust, slash, again]

/-- A sound walk that has not ended takes a step, and comes nearer to its end. -/
theorem Sound.exists_leads {walk : Walk} (sound : walk.Sound text) (running : walk.stage ≠ .ended) :
    ∃ next, Leads text walk next := by
  obtain ⟨passed, taken, later, stands⟩ := sound
  obtain ⟨cursor, stage, found⟩ := walk
  cases stage with
  | between => exact stands.between
  | comment => exact stands.comment
  | opening => exact stands.opening
  | operator alone paired => exact stands.operator
  | string => exact stands.string
  | whole => exact stands.whole
  | fraction => exact stands.fraction
  | word => exact stands.word
  | complete kind => exact stands.complete
  | fault grapheme => exact stands.fault
  | ended => contradiction

end

end Walk

end LoxTokens
