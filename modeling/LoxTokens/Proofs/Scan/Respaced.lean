import LoxTokens.Proofs.Piece.Standing
import LoxTokens.Proofs.Scan.Shown

/-! Lexemes spaced out anew are scanned into the tokens they came from. -/

namespace LoxTokens

/-- Lexemes in a row, with a gap in front of each of them and one after the last. -/
def spaced (gap : Nat → String) : List String → String
  | [] => gap 0
  | lexeme :: later => gap 0 ++ lexeme ++ spaced (fun i => gap (i + 1)) later

/-- The lexemes of a source, without the empty one at its end. -/
def lexemes (source : String) : List String :=
  (tokenize source).tokens.dropLast.map Token.lexeme

namespace Piece

/-- The text of a piece. -/
def spelling (piece : Piece) : String := String.ofList piece.text

/-- A separator in front of a text is a piece of its own that is passed over. -/
theorem ofText_cons_separator {c : Char} (separator : isBlank c ∨ c = '\n') (rest : List Char) :
    ∃ role : Role, role.isPassedOver ∧ ofText (c :: rest) = ⟨role, [c]⟩ :: ofText rest := by
  -- Blanks and newlines have rules of their own, which ask nothing of what follows.
  have read : ofText (c :: rest) = divide ([[c]] ++ graphemes rest) :=
    congrArg divide (graphemes_cons_ascii (isAscii_of_separator separator) rest)
  rw [read]
  rcases separator with blank | rfl
  · exact ⟨.blank, rfl, divide_append (.blank blank)⟩
  · exact ⟨.newline, rfl, divide_append .newline⟩

/-- Separators in front of a text show nothing. -/
theorem shown_separators_append {gap : List Char} (separators : ∀ c ∈ gap, isBlank c ∨ c = '\n')
    (rest : List Char) : shown (ofText (gap ++ rest)) = shown (ofText rest) := by
  induction gap with
  | nil => rfl
  | cons c gap ih =>
    obtain ⟨role, passedOver, read⟩ := ofText_cons_separator (separators c (by simp)) (gap ++ rest)
    have others := ih fun d member => separators d (by simp [member])
    rw [List.cons_append, read, shown_cons_passedOver passedOver, others]

/-- A row that starts with a gap starts with a separator, if it has a first character. -/
theorem separator_of_head?_spaced {gap : Nat → String} {row : List String}
    (separators : ∀ c ∈ (gap 0).toList, isBlank c ∨ c = '\n') (apart : row ≠ [] → gap 0 ≠ "")
    {c : Char} (found : (spaced gap row).toList.head? = some c) : isBlank c ∨ c = '\n' := by
  -- Only a gap after the last lexeme may be empty, and then nothing follows it.
  have inGap : c ∈ (gap 0).toList := by
    cases row with
    | nil => exact List.mem_of_mem_head? found
    | cons lexeme later =>
      have present : (gap 0).toList ≠ [] := by simpa using apart (by simp)
      obtain ⟨first, rest, starts⟩ := List.exists_cons_of_ne_nil present
      simp_all [spaced]
  exact separators c inGap

/-- A row of lexemes with separators around them shows the lexemes. -/
theorem shown_spaced {pieces : List Piece} (standing : ∀ piece ∈ pieces, piece.Standing)
    (gap : Nat → String)
    (separators : ∀ i ≤ pieces.length, ∀ c ∈ (gap i).toList, isBlank c ∨ c = '\n')
    (apart : ∀ i, 0 < i → i < pieces.length → gap i ≠ "") :
    shown (ofText (spaced gap (pieces.map spelling)).toList) = pieces := by
  -- The first gap is passed over, and the first lexeme ends where the next gap starts.
  induction pieces generalizing gap with
  | nil =>
    have passedOver := shown_separators_append (separators 0 (Nat.zero_le _)) []
    simpa [spaced] using passedOver
  | cons piece later ih =>
    let row := (spaced (fun i => gap (i + 1)) (later.map spelling)).toList
    have separated : ∀ c, row.head? = some c → isBlank c ∨ c = '\n' := by
      intro c found
      refine separator_of_head?_spaced (separators 1 (by simp)) ?_ found
      intro more
      exact apart 1 (by simp) (by simpa [List.length_pos_iff] using more)
    have others := ih (fun other member => standing other (by simp [member]))
      (fun i => gap (i + 1)) (fun i within => separators (i + 1) (by simpa using within))
      (fun i positive within => apart (i + 1) (by omega) (by simpa using within))
    have cut := (standing piece (by simp)).ofText_append separated
    have visible : piece.role.isPassedOver = false := by
      obtain ⟨kind, taken, rfl, _⟩ := standing piece (by simp)
      rfl
    have text : (spaced gap ((piece :: later).map spelling)).toList =
        (gap 0).toList ++ (piece.text ++ row) := by simp [spaced, spelling, row]
    rw [text, shown_separators_append (separators 0 (Nat.zero_le _)), cut, shown_cons visible,
      others]

/-- The pieces that are tokens. -/
def lexical (pieces : List Piece) : List Piece := pieces.filter (·.identity?.isSome)

/-- Only pieces that are tokens have an identity. -/
theorem filterMap_identity?_lexical (pieces : List Piece) :
    (lexical pieces).filterMap identity? = pieces.filterMap identity? := by
  have kept : (fun piece : Piece => if piece.identity?.isSome then piece.identity? else none) =
      identity? := by
    funext ⟨role, text⟩
    cases role <;> rfl
  rw [lexical, List.filterMap_filter, kept]

/-- Tokens are spelled as their pieces are. -/
theorem map_spelling_lexical (pieces : List Piece) :
    (lexical pieces).map spelling = (pieces.filterMap identity?).map (·.2.1) := by
  induction pieces with
  | nil => rfl
  | cons piece later ih =>
    obtain ⟨role, text⟩ := piece
    cases role with
    | token kind => exact congrArg (String.ofList text :: ·) ih
    | _ => exact ih

/-- The pieces of a text that are tokens can be set in any row. -/
theorem standing_of_mem_lexical {text : List Char} {piece : Piece}
    (member : piece ∈ lexical (shown (ofText text))) : piece.Standing := by
  obtain ⟨visible, isToken⟩ := List.mem_filter.mp member
  have inText := (List.mem_filter.mp visible).1
  obtain ⟨role, lexeme⟩ := piece
  cases role with
  | token kind => exact standing_of_mem inText
  | _ => contradiction

/-- No piece that is a token is a fault. -/
theorem filterMap_fault?_lexical (pieces : List Piece) :
    (lexical pieces).filterMap fault? = [] := by
  rw [List.filterMap_eq_nil_iff]
  intro ⟨role, text⟩ member
  have isToken := (List.mem_filter.mp member).2
  cases role with
  | token kind => rfl
  | _ => contradiction

end Piece

/--
Scanning the lexemes of a source anew gives its tokens back.

Between any two lexemes there must be a separator; what they are, and how many, makes no
difference, and neither does what the lexemes stood between in the source.
-/
theorem tokenize_spaced (source : String) (gap : Nat → String)
    (separators : ∀ i ≤ (lexemes source).length, ∀ c ∈ (gap i).toList,
      c ∈ [' ', '\t', '\r', '\n'])
    (apart : ∀ i, 0 < i → i < (lexemes source).length → gap i ≠ "") :
    ((tokenize (spaced gap (lexemes source))).tokens == (tokenize source).tokens) = true ∧
      (tokenize (spaced gap (lexemes source))).diagnostics = [] := by
  -- The lexemes are those of the pieces that are tokens, and those pieces are all that shows.
  let pieces := Piece.lexical (Piece.shown (Piece.ofText source.toList))
  have spelled : lexemes source = pieces.map Piece.spelling := by
    have identities := congrArg (List.map (·.2.1)) (Scan.map_identity_tokens source.toList)
    rw [← Piece.map_spelling_lexical, List.map_map] at identities
    exact identities
  have count : (lexemes source).length = pieces.length := by rw [spelled, List.length_map]
  have blank : ∀ i ≤ pieces.length, ∀ c ∈ (gap i).toList, Piece.isBlank c ∨ c = '\n' := by
    intro i within c member
    simpa [Piece.isBlank, or_assoc] using separators i (count ▸ within) c member
  have shown : Piece.shown (Piece.ofText (spaced gap (lexemes source)).toList) = pieces := by
    rw [spelled]
    exact Piece.shown_spaced (fun _ => Piece.standing_of_mem_lexical) gap blank (count ▸ apart)
  constructor
  · rw [beq_iff_map_identity, tokenize, tokenize, Scan.map_identity_tokens_concat,
      Scan.map_identity_tokens, shown, Piece.filterMap_identity?_lexical,
      ← Scan.map_identity_tokens, ← Scan.map_identity_tokens_concat]
  · have faults := Scan.map_fault_diagnostics (spaced gap (lexemes source)).toList
    rw [shown, Piece.filterMap_fault?_lexical] at faults
    exact List.map_eq_nil_iff.mp faults

/-- A string keeps its hidden quote, and gives up the mark that stood behind it. -/
theorem tokenize_spaced_marked :
    let source := "=\u0301=\"\u0600\"\"\u0301;@\n1./ /"
    let gap := fun i : Nat => if i = 0 then "" else "\r\n"
    lexemes source = ["=", "=", "\"\u0600\"\"", ";", "1", ".", "/", "/"] ∧
      (∀ i ≤ (lexemes source).length, ∀ c ∈ (gap i).toList, c ∈ [' ', '\t', '\r', '\n']) ∧
      (∀ i, 0 < i → i < (lexemes source).length → gap i ≠ "") ∧
      ((tokenize (spaced gap (lexemes source))).tokens == (tokenize source).tokens) = true ∧
      (tokenize (spaced gap (lexemes source))).diagnostics = [] := by
  intro source gap
  have scanned : lexemes source = ["=", "=", "\"\u0600\"\"", ";", "1", ".", "/", "/"] := by
    unfold source
    decide +kernel
  have separators : ∀ i ≤ (lexemes source).length, ∀ c ∈ (gap i).toList,
      c ∈ [' ', '\t', '\r', '\n'] := by
    intro i _ c member
    by_cases first : i = 0
    · simp [gap, first] at member
    · have either : c = '\r' ∨ c = '\n' := by simpa [gap, first] using member
      rcases either with rfl | rfl <;> decide
  have apart : ∀ i, 0 < i → i < (lexemes source).length → gap i ≠ "" := by
    intro i positive _
    simp [gap, Nat.ne_of_gt positive]
  exact ⟨scanned, separators, apart, tokenize_spaced source gap separators apart⟩

end LoxTokens
