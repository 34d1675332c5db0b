import LoxTokens.Grapheme

/-! ASCII characters at cluster boundaries: what they join, and what joins them. -/

namespace LoxTokens.Unicode

/-- The class of an ASCII character needs no table. -/
theorem BreakClass.ofChar_ascii {c : Char} (ascii : isAscii c) : ofChar c = ofAscii c := by
  -- The tables only start where ASCII ends.
  have small : c.toNat < 0x80 := by simpa [isAscii] using ascii
  simp [ofChar, small]

/-- A character is a carriage return exactly when its class says so. -/
theorem BreakClass.ofChar_eq_carriageReturn {c : Char} :
    ofChar c = .carriageReturn ↔ c = '\r' := by
  constructor
  · intro same
    unfold ofChar at same
    split at same
    · unfold ofAscii at same
      split at same
      · assumption
      · repeat' split at same
        all_goals cases same
    · -- No table holds a line end, so no character beyond ASCII has the class of one.
      unfold ofCode at same
      repeat' split at same
      all_goals cases same
  · intro same
    subst same
    rfl

/-- An ASCII character is a line end, another control, or an ordinary character. -/
theorem BreakClass.ofChar_ascii_cases {c : Char} (ascii : isAscii c) :
    (ofChar c = .carriageReturn ∧ c = '\r') ∨ (ofChar c = .lineFeed ∧ c = '\n') ∨
      ofChar c = .control ∨ ofChar c = .other := by
  -- These are the four branches for a character below the tables.
  rw [ofChar_ascii ascii]
  unfold ofAscii
  split
  · exact .inl ⟨rfl, by assumption⟩
  · split
    · exact .inr (.inl ⟨rfl, by assumption⟩)
    · split
      · exact .inr (.inr (.inl rfl))
      · exact .inr (.inr (.inr rfl))

/-- An ASCII character is of no class but those four. -/
theorem BreakClass.ofChar_ascii_ne {c : Char} (ascii : isAscii c) {kind : BreakClass}
    (beyond : kind ∉ [.carriageReturn, .lineFeed, .control, .other]) : ofChar c ≠ kind := by
  intro same
  subst same
  rcases ofChar_ascii_cases ascii with ⟨same, _⟩ | ⟨same, _⟩ | same | same <;>
    simp [same] at beyond

/-- No ASCII character is a pictograph. -/
theorem isPictograph_ascii {c : Char} (ascii : isAscii c) : isPictograph c = false := by
  -- The first pictograph is the copyright sign.
  have small : c.toNat < 0x80 := by simpa [isAscii] using ascii
  exact Ranges.has_below (by omega : c.toNat < 0xA9)

/-- No ASCII character is a consonant of a conjunct. -/
theorem isConsonant_ascii {c : Char} (ascii : isAscii c) : isConsonant c = false := by
  -- The first of them is a Devanagari letter.
  have small : c.toNat < 0x80 := by simpa [isAscii] using ascii
  exact Ranges.has_below (by omega : c.toNat < 0x915)

/-- No ASCII character stands inside a conjunct. -/
theorem isConjunctMark_ascii {c : Char} (ascii : isAscii c) : isConjunctMark c = false := by
  -- Only marks and joiners stand there, and none of them is ASCII.
  rcases BreakClass.ofChar_ascii_cases ascii with ⟨kind, _⟩ | ⟨kind, _⟩ | kind | kind <;>
    simp [isConjunctMark, kind]

/--
An ASCII character goes on with a cluster only after a prefix, or as the second half of a line end.

A prefix takes in ordinary characters alone, so no line end and no other control.
-/
theorem continuesCluster_ascii {last next : Char} {earlier : List Char} (ascii : isAscii next) :
    continuesCluster (last :: earlier) next = true ↔
      (last = '\r' ∧ next = '\n') ∨
        (BreakClass.ofChar last = .prepend ∧ BreakClass.ofChar next = .other) := by
  -- Each class of an ASCII character meets every class of the character before it.
  rw [← BreakClass.ofChar_eq_carriageReturn]
  rcases BreakClass.ofChar_ascii_cases ascii with ⟨kind, same⟩ | ⟨kind, same⟩ | kind | kind
  · subst same
    cases before : BreakClass.ofChar last <;> simp [continuesCluster, before, kind]
  · subst same
    cases before : BreakClass.ofChar last <;> simp [continuesCluster, before, kind]
  · have notLineEnd : next ≠ '\n' := by
      intro same
      subst same
      contradiction
    cases before : BreakClass.ofChar last <;>
      simp [continuesCluster, before, kind, notLineEnd]
  · have notLineEnd : next ≠ '\n' := by
      intro same
      subst same
      contradiction
    -- An ordinary character can join a conjunct or an emoji, but no ASCII character does.
    cases before : BreakClass.ofChar last <;>
      simp [continuesCluster, before, kind, notLineEnd, isConsonant_ascii ascii,
        isPictograph_ascii ascii]

end LoxTokens.Unicode
