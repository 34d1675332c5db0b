import LoxTokens.Proofs.Piece.Characters
import LoxTokens.Proofs.Scan.Lines
import LoxTokens.Proofs.Scan.Shown
import LoxTokens.Proofs.Text.LineEnds

/-! It makes no difference to a scan whether its lines end in one character or in two. -/

namespace LoxTokens

/-- Whether a character takes part in line ends. -/
def isLineEnd (c : Char) : Bool := c = '\r' || c = '\n'

/-- A carriage return and a newline are two graphemes. -/
theorem return_ne_newline : (['\r'] : Grapheme) ≠ ['\n'] := by decide

/-- Both of them are always graphemes of their own. -/
theorem lineEnds_apart (text : List Char) : Apart isLineEnd (graphemes text) := by
  have cases (c : Char) (lineEnd : isLineEnd c = true) : c = '\r' ∨ c = '\n' := by
    simpa [isLineEnd] using lineEnd
  refine apart_of_not_hidden ?_ ?_ text
  · intro c lineEnd
    rcases cases c lineEnd with rfl | rfl <;> rfl
  · intro c lineEnd
    rcases cases c lineEnd with rfl | rfl
    · exact not_hidden_return
    · exact not_hidden_newline

/-- The characters are unified when the graphemes are. -/
theorem Apart.flatten_unified {graphemes : List Grapheme} (apart : Apart isLineEnd graphemes) :
    (dropBefore ['\r'] ['\n'] graphemes).flatten = unifyLineEnds graphemes.flatten := by
  -- A return that is a grapheme is dropped for the next grapheme, and a character for the next one.
  rw [unifyLineEnds_eq]
  induction graphemes with
  | nil => rfl
  | cons first rest ih =>
    have apartRest : Apart isLineEnd rest :=
      apart.of_subset fun grapheme member => List.mem_cons_of_mem _ member
    have later := ih apartRest
    by_cases isReturn : first = ['\r']
    · subst isReturn
      by_cases follows : rest.head? = some ['\n']
      · -- The return is dropped from the graphemes, and from the characters as well.
        obtain ⟨more, rfl⟩ := List.head?_eq_some_iff.mp follows
        rw [dropBefore, if_pos ⟨rfl, follows⟩, later]
        exact (dropBefore_append_pair (by decide) [] more.flatten).symm
      · -- A newline that came next would be a grapheme of its own.
        have other : rest.flatten.head? ≠ some '\n' := by
          intro found
          obtain ⟨more, starts⟩ := List.head?_eq_some_iff.mp found
          obtain ⟨others, rfl, _⟩ := apartRest.eq_cons starts rfl
          exact follows rfl
        rw [dropBefore_cons_of_head_ne follows, List.flatten_cons, List.flatten_cons, later]
        exact (dropBefore_cons_of_head_ne other).symm
    · -- No other grapheme holds a return.
      have without : '\r' ∉ first := fun inside =>
        isReturn ((apart first List.mem_cons_self).2 '\r' inside rfl)
      rw [dropBefore_cons_of_ne isReturn, List.flatten_cons, List.flatten_cons, later,
        dropBefore_append fun last => absurd (List.mem_of_getLast? last) without,
        dropBefore_eq_self_of_item without]

/-- A text is read in the same way when its line ends are unified, whatever stands before it. -/
theorem graphemes_append_dropBefore {before : List Char} (within : '\n' ∉ before)
    (text : List Char) : graphemes (dropBefore '\r' '\n' (before ++ text)) =
      dropBefore ['\r'] ['\n'] (graphemes (before ++ text)) := by
  -- The induction is on the text, whose first line is gathered until its newline is met.
  have unpaired {line : List Char} (noNewline : '\n' ∉ line) :
      dropBefore ['\r'] ['\n'] (graphemes line) = graphemes line :=
    dropBefore_eq_self_of_next fun member => ne_singleton_of_mem_graphemes noNewline _ member rfl
  induction text generalizing before with
  | nil => rw [List.append_nil, dropBefore_eq_self_of_next within, unpaired within]
  | cons c text ih =>
    by_cases newline : c = '\n'
    · subst newline
      have later :
          graphemes (dropBefore '\r' '\n' text) = dropBefore ['\r'] ['\n'] (graphemes text) :=
        ih List.not_mem_nil
      by_cases paired : before.getLast? = some '\r'
      · -- Neither the return nor the newline is hidden, so that both are read on their own.
        obtain ⟨line, rfl⟩ := List.getLast?_eq_some_iff.mp paired
        have noNewline : '\n' ∉ line := fun inside => within (List.mem_append_left _ inside)
        rw [List.append_assoc, List.singleton_append, dropBefore_append_pair (by decide),
          dropBefore_eq_self_of_next noNewline,
          graphemes_append_ascii rfl (not_hidden_newline line), later,
          graphemes_append_ascii rfl (not_hidden_return line), graphemes_cons_ascii rfl,
          dropBefore_append_pair return_ne_newline, unpaired noNewline]
      · -- The newline ends the line by itself, in the characters and in the graphemes.
        have apart : (graphemes before).getLast? ≠ some ['\r'] := getLast?_graphemes_ne paired
        rw [dropBefore_append (fun last => absurd last paired),
          dropBefore_eq_self_of_next within, dropBefore_cons_of_ne (by decide),
          graphemes_append_ascii rfl (not_hidden_newline before), later,
          graphemes_append_ascii rfl (not_hidden_newline before),
          dropBefore_append (fun last => absurd last apart), unpaired within,
          dropBefore_cons_of_ne return_ne_newline.symm]
    · -- Any other character belongs to the line that is gathered.
      have longer : '\n' ∉ before ++ [c] := by simp [within, Ne.symm newline]
      have gathered := ih longer
      rwa [List.append_assoc, List.singleton_append] at gathered

/-- Reading a text with unified line ends gives its graphemes without the same returns. -/
theorem graphemes_unifyLineEnds (text : List Char) :
    graphemes (unifyLineEnds text) = dropBefore ['\r'] ['\n'] (graphemes text) := by
  rw [unifyLineEnds_eq]
  exact graphemes_append_dropBefore List.not_mem_nil text

/-- What is not passed over is solid or a string, closed or not. -/
theorem Role.passedOver_or_solid (role : Role) :
    role.isPassedOver ∨ role.isSolid ∨ role = .unterminated ∨ role = .token .string := by
  cases role with
  | token kind => cases kind <;> simp [Role.isSolid]
  | _ => simp [Role.isSolid, Role.isPassedOver]

namespace Piece

/-- A run that stops at what follows it still does when paired returns are dropped from that. -/
theorem stopsAt_dropBefore {test : Grapheme → Bool} {later : List Grapheme}
    (stops : StopsAt test later) (fails : test ['\n'] = false) :
    StopsAt test (dropBefore ['\r'] ['\n'] later) := by
  -- What comes next is the newline of a pair, or what came next in any case.
  intro first found
  obtain ⟨rest, same⟩ := List.head?_eq_some_iff.mp found
  by_cases newline : first = ['\n']
  · rw [newline, fails]
  · obtain ⟨_, rfl, _⟩ := exists_cons_of_dropBefore newline same return_ne_newline
    exact stops first rfl

/-- No fraction comes up when paired returns are dropped. -/
theorem not_fractionFollows_dropBefore {later : List Grapheme} (ends : ¬FractionFollows later) :
    ¬FractionFollows (dropBefore ['\r'] ['\n'] later) := by
  rintro ⟨digit, more, same, isOne⟩
  have notNewline : digit ≠ ['\n'] := by
    rintro rfl
    contradiction
  -- Neither the point nor the digit is a newline, so that nothing stood between the two.
  obtain ⟨rest, rfl, after⟩ := exists_cons_of_dropBefore (by decide) same return_ne_newline
  obtain ⟨others, rfl, _⟩ := exists_cons_of_dropBefore notNewline after return_ne_newline
  exact ends ⟨digit, others, rfl, isOne⟩

/-- A rule cuts off the same when paired returns are dropped from what follows. -/
theorem cuts_dropBefore_later {role : Role} {taken later : List Grapheme}
    (cut : Cuts role taken later) (closed : role ≠ .unterminated) :
    Cuts role taken (dropBefore ['\r'] ['\n'] later) := by
  refine cuts_of_stops cut closed ?_ not_fractionFollows_dropBefore
  intro test asks stops
  -- A newline fails every test there is.
  have fails : test ['\n'] = false := by cases asks <;> rfl
  exact stopsAt_dropBefore stops fails

/-- A rule cuts off a piece without its paired returns as a piece of the same role. -/
theorem cuts_dropBefore {role : Role} {taken later : List Grapheme}
    (cut : Cuts role taken later) :
    Cuts role (dropBefore ['\r'] ['\n'] taken) (dropBefore ['\r'] ['\n'] later) := by
  -- Only strings have pairs in them, and their quotes stay where they are.
  have contents {body : List Grapheme} (within : ∀ grapheme ∈ body, grapheme ≠ ['"']) :
      ∀ grapheme ∈ dropBefore ['\r'] ['\n'] body, grapheme ≠ ['"'] :=
    fun grapheme member => within grapheme (mem_of_mem_dropBefore member)
  cases several : role.holdsNewlines with
  | false =>
    have noNewline : ['\n'] ∉ taken := fun member => ne_newline_of_cuts cut several _ member rfl
    have closed : role ≠ .unterminated := by
      rintro rfl
      contradiction
    rw [dropBefore_eq_self_of_next noNewline]
    exact cuts_dropBefore_later cut closed
  | true =>
    rcases Role.eq_of_holdsNewlines several with rfl | rfl | rfl
    · cases cut with
      | newline => exact .newline
    · cases cut with
      | unterminated within =>
        rw [dropBefore_cons_of_ne (by decide)]
        exact .unterminated (contents within)
    · obtain ⟨body, rfl, within⟩ := eq_of_cuts_string cut
      have apart : body.getLast? = some ['\r'] → [['"']].head? ≠ some ['\n'] := fun _ => by decide
      rw [dropBefore_cons_of_ne (by decide), dropBefore_append apart]
      exact .string (contents within)

/-- A piece that ends in a return right before a newline is one that is passed over. -/
theorem isPassedOver_of_pair {role : Role} {init taken more later : List Grapheme}
    (cut : Cuts role taken later) (ends : taken = init ++ [['\r']])
    (follows : later = ['\n'] :: more) : role.isPassedOver = true := by
  rcases Role.passedOver_or_solid role with passedOver | solid | rfl | rfl
  · exact passedOver
  · -- Solid pieces hold no separator.
    have inside : ['\r'] ∈ taken := by simp [ends]
    exact absurd rfl (ne_separator_of_cuts cut solid (.inl rfl) _ inside)
  · -- Nothing at all follows an open string.
    cases cut
    cases follows
  · -- A closed string ends in a quote.
    obtain ⟨body, rfl, _⟩ := eq_of_cuts_string cut
    have joined : (['"'] :: body) ++ [['"']] = init ++ [['\r']] := ends
    obtain ⟨_, last⟩ := List.append_inj' joined rfl
    cases last

/-- A comment loses the return at its end, and a return alone is gone altogether. -/
theorem cuts_init_of_pair {role : Role} {init taken more later : List Grapheme}
    (cut : Cuts role taken later) (ends : taken = init ++ [['\r']])
    (follows : later = ['\n'] :: more) :
    Cuts role init (['\n'] :: more) ∨ init = [] := by
  have passedOver := isPassedOver_of_pair cut ends follows
  have split {front : List Grapheme} {last : Grapheme} (same : front ++ [last] = init ++ [['\r']]) :
      front = init ∧ last = ['\r'] := by simpa using same
  cases cut with
  | @blank c =>
    obtain ⟨nothing, _⟩ := split (show [] ++ [[c]] = _ from ends)
    exact .inr nothing.symm
  | newline =>
    obtain ⟨_, other⟩ := split (show [] ++ [['\n']] = _ from ends)
    cases other
  | @comment body _ within stops =>
    rcases List.eq_nil_or_concat' body with rfl | ⟨shorter, last, rfl⟩
    · obtain ⟨_, other⟩ := split (show [['/']] ++ [['/']] = _ from ends)
      cases other
    · -- What is left of the comment stops at the same newline.
      obtain ⟨rfl, _⟩ := split (show (['/'] :: ['/'] :: shorter) ++ [last] = _ from ends)
      have withinShorter : ∀ grapheme ∈ shorter, grapheme ≠ ['\n'] :=
        fun grapheme member => within grapheme (List.mem_append_left _ member)
      rw [follows] at stops
      exact .inl (.comment withinShorter stops)
  | _ => simp [Role.isPassedOver] at passedOver

/-- What is left of a piece is cut off as before, unless it is passed over and nothing is left. -/
theorem exists_kept {role : Role} {taken later : List Grapheme} (cut : Cuts role taken later) :
    ∃ kept, dropBefore ['\r'] ['\n'] (taken ++ later) = kept ++ dropBefore ['\r'] ['\n'] later ∧
      (kept = dropBefore ['\r'] ['\n'] taken ∧ Cuts role kept (dropBefore ['\r'] ['\n'] later) ∨
        role.isPassedOver ∧ (Cuts role kept (dropBefore ['\r'] ['\n'] later) ∨ kept = [])) := by
  by_cases pair : taken.getLast? = some ['\r'] ∧ later.head? = some ['\n']
  · -- The return at the end of the piece is paired with the newline after it.
    obtain ⟨init, ends⟩ := List.getLast?_eq_some_iff.mp pair.1
    obtain ⟨more, follows⟩ := List.head?_eq_some_iff.mp pair.2
    refine ⟨dropBefore ['\r'] ['\n'] init, ?_, .inr ⟨isPassedOver_of_pair cut ends follows, ?_⟩⟩
    · rw [ends, follows, List.append_assoc, List.singleton_append,
        dropBefore_append_pair return_ne_newline, dropBefore_cons_of_ne return_ne_newline.symm]
    · rcases cuts_init_of_pair cut ends follows with cutInit | rfl
      · rw [← follows] at cutInit
        exact .inl (cuts_dropBefore cutInit)
      · exact .inr rfl
  · -- No pair stands across the end of the piece.
    refine ⟨dropBefore ['\r'] ['\n'] taken, ?_, .inl ⟨rfl, cuts_dropBefore cut⟩⟩
    exact dropBefore_append fun last follows => pair ⟨last, follows⟩

/-- The same piece with unified line ends. -/
def unified (piece : Piece) : Piece := { piece with text := unifyLineEnds piece.text }

end Piece

namespace Scan

/-- Unifying line ends loses no newline. -/
@[simp] theorem newlines_unifyLineEnds (text : List Char) :
    newlines (unifyLineEnds text) = newlines text := by
  rw [unifyLineEnds_eq]
  exact count_dropBefore (by decide) text

/-- What is seen of graphemes is seen with unified line ends when paired returns are dropped. -/
theorem visible_dropBefore {graphemes : List Grapheme} (apart : Apart isLineEnd graphemes)
    (line : Nat) : visible line (Piece.divide (dropBefore ['\r'] ['\n'] graphemes)) =
      (visible line (Piece.divide graphemes)).map fun entry => (entry.1, entry.2.unified) := by
  -- The induction follows the rules, each of which cuts off what is kept of its piece.
  induction graphemes using Piece.cuts_induction generalizing line with
  | nil => simp [dropBefore, visible, located]
  | @cut role taken later cut ih =>
    have apartTaken : Apart isLineEnd taken :=
      apart.of_subset fun grapheme member => List.mem_append_left _ member
    have apartLater : Apart isLineEnd later :=
      apart.of_subset fun grapheme member => List.mem_append_right _ member
    obtain ⟨kept, dropped, left⟩ := Piece.exists_kept cut
    -- No newline is dropped, so that the pieces after this one start where they did.
    have lines : newlines kept.flatten = newlines taken.flatten := by
      have count := congrArg (fun graphemes => newlines graphemes.flatten) dropped
      simpa [apart.flatten_unified, apartLater.flatten_unified] using count.symm
    have rest := ih apartLater (line + newlines taken.flatten)
    rw [dropped, Piece.divide_append cut]
    rcases left with ⟨rfl, cutKept⟩ | ⟨passedOver, left⟩
    · -- A piece that keeps its role is seen on its line, if it is one that is seen.
      rw [Piece.divide_append cutKept, apartTaken.flatten_unified]
      simp only [visible, located, List.filter_cons, newlines_unifyLineEnds] at rest ⊢
      rw [rest]
      cases role.isPassedOver <;> rfl
    · have skipped (pieces : List Piece) (text : List Char) :
          visible line (⟨role, text⟩ :: pieces) = visible (line + newlines text) pieces :=
        visible_cons_passedOver passedOver line pieces
      rcases left with cutKept | rfl
      · rw [Piece.divide_append cutKept, skipped, skipped, lines, rest]
      · -- What is gone altogether has ended no line.
        rw [skipped, ← rest, ← lines]
        rfl

end Scan

/-- A text in which every pair of a carriage return and a newline is a newline alone. -/
def unified (text : String) : String := String.ofList (unifyLineEnds text.toList)

/-- The contents of a string with unified line ends; nothing else has any. -/
def Literal.unified : Literal → Literal
  | .string contents => .string (LoxTokens.unified contents)
  | other => other

/-- The same token of a lexeme with unified line ends. -/
def Token.unified (token : Token) : Token :=
  { token with lexeme := LoxTokens.unified token.lexeme, literal := token.literal.unified }

/-- Line ends next to the quotes of a string are not torn apart by them. -/
theorem unifyLineEnds_quoted (contents : List Char) :
    unifyLineEnds ('"' :: (contents ++ ['"'])) = '"' :: (unifyLineEnds contents ++ ['"']) := by
  have apart : contents.getLast? = some '\r' → ['"'].head? ≠ some '\n' := fun _ => by decide
  rw [unifyLineEnds_eq, unifyLineEnds_eq, dropBefore_cons_of_ne (by decide),
    dropBefore_append apart]
  rfl

/-- A text without newlines has no pairs. -/
theorem unifyLineEnds_eq_self {text : List Char} (oneLine : '\n' ∉ text) :
    unifyLineEnds text = text := by
  rw [unifyLineEnds_eq, dropBefore_eq_self_of_next oneLine]

namespace Scan

/-- A piece with unified line ends is the same token with unified line ends. -/
theorem tokenOf?_unified {text : List Char} {piece : Piece} (member : piece ∈ Piece.ofText text)
    (line : Nat) : tokenOf? (line, piece.unified) = (tokenOf? (line, piece)).map Token.unified := by
  obtain ⟨role, lexeme⟩ := piece
  cases role with
  | token kind =>
    by_cases isString : kind = .string
    · subst isString
      -- Both the lexeme and the value go from quote to quote.
      obtain ⟨body, rfl, _⟩ := Piece.exists_contents_of_mem member
      simp [tokenOf?, Piece.unified, Token.unified, Token.ofLexeme, Literal.unified,
        Literal.ofQuoted, unified, unifyLineEnds_quoted]
    · -- Any other token is on one line, and so is the same as before.
      have oneLine : '\n' ∉ lexeme := by
        intro found
        have several := Piece.holdsNewlines_of_mem member found
        cases kind <;> simp_all [Role.holdsNewlines]
      have whole : unifyLineEnds lexeme = lexeme := unifyLineEnds_eq_self oneLine
      cases kind <;>
        simp_all [tokenOf?, Piece.unified, Token.unified, Token.ofLexeme, Literal.unified,
          Literal.ofNumeral, unified]
  | _ => rfl

/-- A piece with unified line ends earns the same diagnostic. -/
theorem diagnosticOf?_unified {text : List Char} {piece : Piece}
    (member : piece ∈ Piece.ofText text) (line : Nat) :
    diagnosticOf? (line, piece.unified) = diagnosticOf? (line, piece) := by
  obtain ⟨role, characters⟩ := piece
  cases role with
  | unexpected =>
    have oneLine : '\n' ∉ characters := by
      intro found
      have several := Piece.holdsNewlines_of_mem member found
      contradiction
    simp [diagnosticOf?, Piece.unified, unifyLineEnds_eq_self oneLine]
  | unterminated => simp [diagnosticOf?, Piece.unified]
  | _ => rfl

/-- What is seen of a text is seen with unified line ends when those of the text are. -/
theorem visible_unifyLineEnds (text : List Char) :
    visible 1 (Piece.ofText (unifyLineEnds text)) =
      (visible 1 (Piece.ofText text)).map fun entry => (entry.1, entry.2.unified) := by
  rw [Piece.ofText, graphemes_unifyLineEnds]
  exact visible_dropBefore (lineEnds_apart text) 1

end Scan

/--
The style of line ends does not matter.

When every pair of a carriage return and a newline is replaced by a newline, the same is done to the
tokens, and the kinds, the numbers, the diagnostics and all lines stay as they are.
-/
theorem tokenize_unified (source : String) :
    (tokenize (unified source)).tokens = (tokenize source).tokens.map Token.unified ∧
      (tokenize (unified source)).diagnostics = (tokenize source).diagnostics := by
  -- The scan is read off what is seen of the text, entry by entry.
  have characters : (unified source).toList = unifyLineEnds source.toList := String.toList_ofList
  have present {entry : Nat × Piece} (seen : entry ∈ Scan.visible 1 (Piece.ofText source.toList)) :
      entry.2 ∈ Piece.ofText source.toList :=
    Scan.mem_of_mem_located (List.mem_filter.mp seen).1
  constructor
  · have mark (line : Nat) : (Token.endOfInput line).unified = .endOfInput line := rfl
    rw [tokenize, tokenize, characters, Scan.tokens_eq_visible, Scan.tokens_eq_visible,
      Scan.visible_unifyLineEnds, Scan.newlines_unifyLineEnds, List.filterMap_map,
      List.map_append, List.map_filterMap, List.map_singleton, mark]
    refine congrArg (· ++ _) (List.filterMap_congr ?_)
    exact fun entry seen => Scan.tokenOf?_unified (present seen) entry.1
  · rw [tokenize, tokenize, characters, Scan.diagnostics_eq_visible, Scan.diagnostics_eq_visible,
      Scan.visible_unifyLineEnds, List.filterMap_map]
    exact List.filterMap_congr fun entry seen => Scan.diagnosticOf?_unified (present seen) entry.1

-- Of several returns in front of a newline, only the last makes up a pair with it.
example : unified "\"a\r\r\nb\" // c\r\n" = "\"a\r\nb\" // c\n" := by decide +kernel

end LoxTokens
