import LoxTokens.Token.Basic

/-! What kinds a word can have, and which tokens carry no value. -/

namespace LoxTokens

namespace Kind

/-- The kind of a reserved spelling is a reserved word. -/
theorem isKeyword_of_ofKeyword? {word : String} {kind : Kind}
    (found : ofKeyword? word = some kind) : kind.isKeyword = true := by
  -- Each spelling in the table has a reserved word for its kind.
  unfold ofKeyword? at found
  split at found
  all_goals first | (obtain rfl := Option.some.inj found; rfl) | contradiction

/-- A word is a name or a reserved word. -/
theorem ofWord_cases (word : String) :
    ofWord word = .identifier ∨ (ofWord word).isKeyword = true := by
  -- A word is looked up first, and is a name when it is not found.
  cases found : ofKeyword? word with
  | none => exact .inl (by simp [ofWord, found])
  | some kind =>
    refine .inr ?_
    simpa [ofWord, found] using isKeyword_of_ofKeyword? found

/-- No word is a literal, an operator or the mark at the end. -/
theorem ofWord_ne {kind : Kind} (notName : kind ≠ .identifier) (plain : kind.isKeyword = false)
    (word : String) : ofWord word ≠ kind := by
  -- The kind would have to be a name or a reserved word.
  intro same
  subst same
  rcases ofWord_cases word with isName | reserved
  · exact notName isName
  · simp [reserved] at plain

/-- No word carries a value. -/
theorem hasLiteral_ofWord (word : String) : (ofWord word).hasLiteral = false := by
  -- Neither names nor reserved words have a value.
  rcases ofWord_cases word with isName | reserved
  · rw [isName]
    rfl
  · cases kind : ofWord word <;> simp_all [isKeyword, hasLiteral]

end Kind

/-- A token whose kind carries no value has none. -/
theorem Token.ofLexeme_absent {kind : Kind} (valueless : kind.hasLiteral = false)
    (lexeme : List Char) (line : Nat) :
    ofLexeme kind lexeme line = ⟨kind, String.ofList lexeme, .absent, line⟩ := by
  -- Only numbers and strings have their value read off the lexeme.
  cases kind <;> first | rfl | contradiction

end LoxTokens
