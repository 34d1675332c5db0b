import LoxTokens.Proofs.Walk.Stages
import Mathlib.Algebra.BigOperators.Group.List.Basic
import Mathlib.Logic.Relation

/-! No walk over a source ever fails: it stays within its bounds, and ends with the whole scan. -/

namespace LoxTokens

/-- The graphemes of a text are no more than its bytes. -/
theorem length_graphemes_le (text : List Char) :
    (graphemes text).length ≤ Utf8.byteLength text := by
  have positive : ∀ length ∈ (graphemes text).map List.length, 1 ≤ length := by
    intro length member
    obtain ⟨grapheme, inside, rfl⟩ := List.mem_map.mp member
    exact List.length_pos_iff.mpr (ne_nil_of_mem_graphemes inside)
  -- Every grapheme has a character, and every character a byte.
  calc (graphemes text).length
      ≤ ((graphemes text).map List.length).sum := by
        simpa using List.length_le_sum_of_one_le _ positive
    _ = text.length := by rw [← List.length_flatten, flatten_graphemes]
    _ ≤ Utf8.byteLength text := Utf8.length_le_byteLength text

/-- The cursor is on a text, and neither its indices nor its lines are out of bounds. -/
structure Cursor.Within (text : List Char) (cursor : Cursor) : Prop where
  source : cursor.source = text
  /-- The first grapheme starts at the first byte. -/
  first : ∀ entry, cursor.graphemes.head? = some entry → entry.1 = 0
  /-- Each grapheme starts where the bytes of the one before it end. -/
  contiguous : cursor.graphemes.IsChain fun one next => next.1 = one.1 + Utf8.byteLength one.2
  whole : (cursor.graphemes.map Prod.snd).flatten = text
  ordered : cursor.start ≤ cursor.current
  bounded : cursor.current ≤ cursor.graphemes.length
  /-- What is between the start and the next grapheme is a slice of the text. -/
  sliced : cursor.lexeme? =
    some ((cursor.graphemes.map Prod.snd).take cursor.current |>.drop cursor.start).flatten
  /-- The counters stay below a number that depends on the text alone. -/
  counted : cursor.graphemes.length ≤ Utf8.byteLength text
  startLine : cursor.startLine ≤ cursor.line
  line : cursor.line ≤ 1 + Utf8.byteLength text

/-- A cursor between graphemes of a text is within its bounds. -/
theorem Cursor.At.within {cursor : Cursor} {text : List Char}
    {passed taken later : List Grapheme} (stands : cursor.At text passed taken later) :
    cursor.Within text := by
  have graphemes : cursor.graphemes.map Prod.snd = passed ++ (taken ++ later) := by
    rw [stands.graphemes, map_snd_placedFrom, stands.divided]
  have length : cursor.graphemes.length = passed.length + (taken.length + later.length) := by
    simpa using congrArg List.length graphemes
  have ahead : text = (passed ++ taken).flatten ++ later.flatten := by
    rw [← flatten_graphemes text, stands.divided]
    simp
  refine {
    source := stands.source
    first := ?first
    contiguous := ?contiguous
    whole := ?whole
    ordered := ?ordered
    bounded := ?bounded
    sliced := ?sliced
    counted := ?counted
    startLine := ?startLine
    line := ?line }
  case first =>
    intro entry found
    rw [stands.graphemes] at found
    cases texts : LoxTokens.graphemes text with
    | nil => simp [texts, placedFrom] at found
    | cons grapheme more =>
      obtain rfl : (0, grapheme) = entry := by simpa [texts, placedFrom] using found
      rfl
  case contiguous =>
    rw [stands.graphemes]
    exact isChain_placedFrom 0 _
  case whole => rw [stands.graphemes, map_snd_placedFrom, flatten_graphemes]
  case ordered =>
    rw [stands.start, stands.current]
    exact Nat.le_add_right _ _
  case bounded =>
    rw [stands.current, length]
    omega
  case sliced =>
    rw [stands.lexeme?, graphemes, stands.start, stands.current, ← List.append_assoc,
      ← List.length_append, List.take_left, List.drop_left]
  case counted =>
    have same : cursor.graphemes.length = (LoxTokens.graphemes text).length := by
      rw [length, stands.divided]
      simp
    rw [same]
    exact length_graphemes_le text
  case startLine =>
    rw [stands.line_eq]
    exact Nat.le_add_right _ _
  case line =>
    -- A line is ended by a character in front of the cursor, which takes a byte.
    have fewer : Scan.newlines (passed ++ taken).flatten ≤ (passed ++ taken).flatten.length :=
      List.count_le_length
    have bytes := Utf8.length_le_byteLength (passed ++ taken).flatten
    rw [stands.line, Scan.lineAfter, ahead, Utf8.byteLength_append]
    omega

namespace Walk

/-- A walk comes to another one by some number of steps. -/
def Reaches (walk other : Walk) : Prop :=
  Relation.ReflTransGen (fun one next => one.step? = some next) walk other

/-- A walk over a text is sound at its start. -/
theorem exists_ofText? (text : List Char) : ∃ walk, ofText? text = some walk ∧ walk.Sound text := by
  obtain ⟨cursor, made, stands, unfinished⟩ := Cursor.exists_ofText? text
  refine ⟨⟨cursor, .between, ⟨[], []⟩⟩, by rw [ofText?, made]; rfl, [], [], graphemes text, ?_⟩
  refine .ofUnfinished stands unfinished (by simp) trivial ?_
  -- Nothing was found, and all of the scan is owed.
  have firstLine : cursor.line = 1 := stands.line
  simp [Scan.followedBy, owed, unfinished, Stage.inHand, firstLine, Scan.ofText, Piece.ofText]

/-- A sound walk takes a step, to a walk that is sound. -/
theorem Sound.exists_step {text : List Char} {walk : Walk} (sound : walk.Sound text) :
    ∃ next, walk.step? = some next ∧ next.Sound text := by
  by_cases ended : walk.stage = .ended
  · refine ⟨walk, ?_, sound⟩
    obtain ⟨cursor, stage, found⟩ := walk
    obtain rfl : stage = .ended := ended
    rfl
  · obtain ⟨next, leads⟩ := sound.exists_leads ended
    exact ⟨next, leads.step, leads.sound⟩

/-- What a sound walk comes to is sound. -/
theorem Sound.of_reaches {text : List Char} {walk other : Walk} (sound : walk.Sound text)
    (reaches : walk.Reaches other) : other.Sound text := by
  induction reaches with
  | refl => exact sound
  | tail _ step ih =>
    obtain ⟨next, stepped, soundNext⟩ := ih.exists_step
    rw [step, Option.some.injEq] at stepped
    rwa [stepped]

/-- A sound walk ends, and has then found the scan of its text. -/
theorem Sound.exists_ended {text : List Char} {walk : Walk} (sound : walk.Sound text) :
    ∃ last, walk.Reaches last ∧ last.stage = .ended ∧ last.found = .ofText text := by
  -- Every step brings the walk nearer to its end.
  induction bound : walk.ahead using Nat.strongRecOn generalizing walk with
  | ind steps ih =>
    by_cases ended : walk.stage = .ended
    · obtain ⟨passed, taken, later, stands⟩ := sound
      have finished := stands.ended ended
      refine ⟨walk, .refl, ended, ?_⟩
      simpa [owed, finished] using stands.accounted
    · obtain ⟨next, leads⟩ := sound.exists_leads ended
      have nearer : next.ahead < steps := bound ▸ leads.nearer
      obtain ⟨last, reaches, final⟩ := ih _ nearer leads.sound rfl
      exact ⟨last, .head leads.step reaches, final⟩

end Walk

/--
A walk over any source never fails.

Its clusters can be cut. Wherever it comes to, its graphemes are contiguous and make up the source,
its indices are within them, and it can take its next step: every slice that it takes is between
boundaries of characters, and every numeral it hands to the reader is read. It comes to its end, and
has then found the tokens and the diagnostics of the source.
-/
theorem walk_safe (source : String) :
    ∃ first, Walk.ofText? source.toList = some first ∧
      (∀ walk, first.Reaches walk →
        walk.cursor.Within source.toList ∧ ∃ next, walk.step? = some next) ∧
      ∃ last, first.Reaches last ∧ last.stage = .ended ∧ last.found = tokenize source := by
  obtain ⟨first, made, sound⟩ := Walk.exists_ofText? source.toList
  refine ⟨first, made, ?_, sound.exists_ended⟩
  intro walk reaches
  obtain ⟨passed, taken, later, stands⟩ := sound.of_reaches reaches
  have soundWalk : walk.Sound source.toList := ⟨passed, taken, later, stands⟩
  obtain ⟨next, step, _⟩ := soundWalk.exists_step
  exact ⟨stands.cursor.within, next, step⟩

end LoxTokens
