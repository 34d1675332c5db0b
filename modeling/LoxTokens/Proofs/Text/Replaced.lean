import LoxTokens.Proofs.Text.Utf8

/-! Where the replacements of broken stretches stand in the text that bytes are decoded to. -/

namespace LoxTokens.Utf8

/-- The character that a stretch is decoded to. -/
def Stretch.shown : Stretch → Char
  | char c => c
  | broken _ => '\uFFFD'

/-- The text in front of each broken stretch, when there is some text before all of them. -/
def replacedFrom (before : List Char) : List Stretch → List (List Char)
  | [] => []
  | .char c :: later => replacedFrom (before ++ [c]) later
  | .broken _ :: later => before :: replacedFrom (before ++ ['\uFFFD']) later

/-- The text in front of each replacement in the text that bytes are decoded to, in order. -/
def replaced (bytes : List UInt8) : List (List Char) := replacedFrom [] (stretches bytes)

/-- Bytes are decoded stretch by stretch. -/
theorem map_shown_stretches (bytes : List UInt8) :
    (stretches bytes).map Stretch.shown = decodeLossy bytes := rfl

/-- Stretches after others come after the text of those. -/
theorem replacedFrom_append (before : List Char) (earlier later : List Stretch) :
    replacedFrom before (earlier ++ later) =
      replacedFrom before earlier ++ replacedFrom (before ++ earlier.map Stretch.shown) later := by
  -- Each stretch moves the text in front on by the character that it is decoded to.
  induction earlier generalizing before with
  | nil => simp [replacedFrom]
  | cons stretch earlier ih =>
    cases stretch <;> simp [replacedFrom, ih, Stretch.shown]

/-- At each of the places, there is a replacement character. -/
theorem exists_of_mem_replacedFrom {before place : List Char} {stretches : List Stretch}
    (member : place ∈ replacedFrom before stretches) :
    ∃ left right, stretches.map Stretch.shown = left ++ '\uFFFD' :: right ∧
      before ++ left = place := by
  -- The place is in front of the first stretch, or it is one of those of the others.
  induction stretches generalizing before with
  | nil => cases member
  | cons stretch later ih =>
    cases stretch with
    | char c =>
      obtain ⟨left, right, shown, rfl⟩ := ih member
      exact ⟨c :: left, right, by simp [shown, Stretch.shown], by simp⟩
    | broken bytes =>
      rcases List.mem_cons.mp member with rfl | member
      · exact ⟨[], later.map Stretch.shown, rfl, by simp⟩
      · obtain ⟨left, right, shown, rfl⟩ := ih member
        exact ⟨'\uFFFD' :: left, right, by simp [shown, Stretch.shown], by simp⟩

/-- There are at least as many replacement characters, since some may not stand for anything. -/
theorem length_replacedFrom_le (before : List Char) (stretches : List Stretch) :
    (replacedFrom before stretches).length ≤ (stretches.map Stretch.shown).count '\uFFFD' := by
  -- Every broken stretch adds one to both, and another stretch may add one to the count.
  induction stretches generalizing before with
  | nil => simp [replacedFrom]
  | cons stretch later ih =>
    cases stretch with
    | char c =>
      have more := ih (before ++ [c])
      simp only [replacedFrom, List.map_cons, Stretch.shown, List.count_cons]
      omega
    | broken bytes =>
      have more := ih (before ++ ['\uFFFD'])
      simp only [replacedFrom, List.map_cons, Stretch.shown, List.count_cons_self, List.length_cons]
      omega

/-- Where nothing is replaced, all stretches are characters. -/
theorem exists_of_replacedFrom_eq_nil {before : List Char} {stretches : List Stretch}
    (none : replacedFrom before stretches = []) :
    ∃ text : List Char, stretches = text.map .char := by
  induction stretches generalizing before with
  | nil => exact ⟨[], rfl⟩
  | cons stretch later ih =>
    cases stretch with
    | char c =>
      obtain ⟨text, rfl⟩ := ih none
      exact ⟨c :: text, rfl⟩
    -- A broken stretch would have its place in the list.
    | broken bytes => cases none

/-- In bytes that are no text, something is replaced. -/
theorem replaced_ne_nil {bytes : List UInt8} (noText : ∀ text, bytes ≠ encode text) :
    replaced bytes ≠ [] := by
  intro none
  obtain ⟨text, read⟩ := exists_of_replacedFrom_eq_nil none
  exact noText text (encode_of_stretches read).symm

end LoxTokens.Utf8
