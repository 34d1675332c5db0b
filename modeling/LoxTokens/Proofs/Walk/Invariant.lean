import LoxTokens.Proofs.Scan.Shown
import LoxTokens.Proofs.Walk.Step

/-! What a walk keeps track of: where it stands in a text, and what it still owes of the scan. -/

namespace LoxTokens

/-- The graphemes to come do not start with what is passed over between lexemes. -/
def Stage.Opens (later : List Grapheme) : Prop :=
  ∀ next more, later = next :: more → next ≠ ['\n'] ∧ Walk.isBlank next = false ∧
    (next = ['/'] → Piece.StopsAt (Piece.isJust '/') more)

/-- What a stage has seen of the graphemes taken, and may know about those to come. -/
def Stage.Fits (taken later : List Grapheme) : Stage → Prop
  | .between | .comment | .ended => True
  | .opening => taken = [] ∧ Opens later
  | .operator alone paired => ∃ c, taken = [[c]] ∧ (c, alone, paired) ∈ Piece.operators
  | .string => ∃ body, taken = ['"'] :: body ∧ ∀ grapheme ∈ body, grapheme ≠ ['"']
  | .whole => ∃ c digits, taken = [c] :: digits ∧ c.isDigit ∧
      ∀ grapheme ∈ digits, Piece.isDigit grapheme
  | .fraction => ∃ c digits fraction, taken = [c] :: (digits ++ ['.'] :: fraction) ∧ c.isDigit ∧
      (∀ grapheme ∈ digits, Piece.isDigit grapheme) ∧
      (∀ grapheme ∈ fraction, Piece.isDigit grapheme) ∧
      -- The point is only taken in front of a digit.
      (fraction = [] → ∃ next more, later = next :: more ∧ Piece.isDigit next)
  | .word => ∃ c more, taken = [c] :: more ∧ Piece.startsWord c ∧
      ∀ grapheme ∈ more, Piece.isWordPart grapheme
  | .complete kind => Piece.Cuts (.token (kind.settled taken.flatten)) taken later
  | .fault grapheme => taken = [grapheme] ∧ Piece.Cuts .unexpected taken later

/-- Whether a stage is that of a lexeme, or of a fault, in hand. -/
def Stage.inHand : Stage → Bool
  | .between | .comment | .ended => false
  | _ => true

/-- Whether the mark at the end can have been handed out. -/
def Stage.mayBeLast : Stage → Bool
  | .between | .opening | .ended => true
  | _ => false

/-- How far a stage is from the next grapheme that is taken, or from the end. -/
def Stage.weight (cursor : Cursor) : Stage → Nat
  | .ended => 0
  | .opening => 2
  | .between => 3
  -- A comment goes on up to a newline.
  | .comment => if cursor.sees (!Piece.isJust '\n' ·) then 2 else 4
  | .complete _ | .fault _ => 5
  | _ => 6

/-- A piece that is passed over leaves nothing but the lines that it ends. -/
theorem Scan.ofPieces_passedOver {role : Role} {run rest : List Grapheme}
    (cut : Piece.Cuts role run rest) (passedOver : role.isPassedOver = true) (line : Nat) :
    ofPieces line (Piece.divide (run ++ rest)) =
      ofPieces (line + newlines run.flatten) (Piece.divide rest) := by
  rw [Piece.divide_append cut]
  cases role with
  | blank | newline | comment => rfl
  | _ => cases passedOver

namespace Walk

/-- What is still to be found: it starts with the lexeme in hand, if there is one. -/
def owed (walk : Walk) (taken later : List Grapheme) : Scan :=
  if walk.cursor.finished then ⟨[], []⟩
  else if walk.stage.inHand then
    .ofPieces walk.cursor.startLine (Piece.divide (taken ++ later))
  else .ofPieces walk.cursor.line (Piece.divide
    (match walk.stage with
    | .comment => later.dropWhile (!Piece.isJust '\n' ·)
    | _ => later))

/-- The walk stands between graphemes of a text, and loses track of nothing that the text holds. -/
structure Stands (text : List Char) (passed taken later : List Grapheme) (walk : Walk) : Prop where
  cursor : walk.cursor.At text passed taken later
  fits : walk.stage.Fits taken later
  finished : walk.cursor.finished = true → later = [] ∧ walk.stage.mayBeLast = true
  ended : walk.stage = .ended → walk.cursor.finished = true
  /-- What was found and what is still to be found are the scan of the text. -/
  accounted : walk.found.followedBy (walk.owed taken later) = .ofText text

/-- The walk stands somewhere between graphemes of a text. -/
def Sound (text : List Char) (walk : Walk) : Prop :=
  ∃ passed taken later, walk.Stands text passed taken later

/-- A bound on the steps that a walk has ahead of it. -/
def ahead (walk : Walk) : Nat :=
  8 * (walk.cursor.graphemes.length - walk.cursor.current) +
    walk.stage.weight walk.cursor +
    if walk.cursor.finished then 0 else 4

/-- A step leads from a walk to a sound one, which is nearer to its end. -/
structure Leads (text : List Char) (walk next : Walk) : Prop where
  step : walk.step? = some next
  sound : next.Sound text
  nearer : next.ahead < walk.ahead

section

variable {text : List Char} {passed taken later : List Grapheme} {next : Grapheme}
  {cursor : Cursor} {stage other : Stage} {found : Scan} {walk : Walk}

/-- No stage has a great weight. -/
theorem weight_le (stage : Stage) (cursor : Cursor) : stage.weight cursor ≤ 6 := by
  unfold Stage.weight
  split <;> try split
  all_goals decide

/-- The bound on the steps ahead, by the graphemes to come. -/
theorem ahead_eq (walk : Walk) (stands : walk.cursor.At text passed taken later) :
    walk.ahead = 8 * later.length + walk.stage.weight walk.cursor +
      if walk.cursor.finished then 0 else 4 := by
  rw [ahead, stands.remaining]

/-- Where nothing is taken, a walk comes nearer to its end as its stage does. -/
theorem ahead_lt {more : Scan} (closer : other.weight cursor < stage.weight cursor) :
    ahead ⟨cursor, other, more⟩ < ahead ⟨cursor, stage, found⟩ :=
  Nat.add_lt_add_right (Nat.add_lt_add_left closer _) _

/-- The mark at the end is not handed out while there is anything to come, or to be made. -/
theorem Stands.unfinished (stands : walk.Stands text passed taken later)
    (more : later ≠ [] ∨ walk.stage.mayBeLast = false) : walk.cursor.finished = false := by
  cases finished : walk.cursor.finished with
  | false => rfl
  | true =>
    obtain ⟨nothing, last⟩ := stands.finished finished
    rcases more with more | more
    · contradiction
    · simp [last] at more

/-- Until the mark at the end is handed out, a walk has nothing to know about it. -/
theorem Stands.ofUnfinished (place : walk.cursor.At text passed taken later)
    (unfinished : walk.cursor.finished = false) (goesOn : walk.stage ≠ .ended)
    (fits : walk.stage.Fits taken later)
    (accounted : walk.found.followedBy (walk.owed taken later) = .ofText text) :
    walk.Stands text passed taken later where
  cursor := place
  fits := fits
  finished := by simp [unfinished]
  ended := by simp [goesOn]
  accounted := accounted

/-- The next grapheme is taken, and what is owed stays the same. -/
theorem Stands.advance {lines : Nat}
    (stands : Stands text passed taken (next :: later) ⟨cursor, stage, found⟩)
    (step : step? ⟨cursor, stage, found⟩ = some ⟨cursor.advance lines, other, found⟩)
    (goesOn : other ≠ .ended) (counted : Scan.newlines next = lines)
    (fits : other.Fits (taken ++ [next]) later)
    (owes : cursor.finished = false → owed ⟨cursor, stage, found⟩ taken (next :: later) =
      owed ⟨cursor.advance lines, other, found⟩ (taken ++ [next]) later) :
    Leads text ⟨cursor, stage, found⟩ ⟨cursor.advance lines, other, found⟩ := by
  have unfinished : cursor.finished = false := stands.unfinished (.inl (by simp))
  have moved := stands.cursor.advance counted
  refine ⟨step, ⟨passed, taken ++ [next], later, .ofUnfinished moved unfinished goesOn fits ?_⟩, ?_⟩
  · have accounted := stands.accounted
    rwa [owes unfinished] at accounted
  · -- One grapheme less to come makes up for every difference between stages.
    have bound := weight_le other (cursor.advance lines)
    have same : (cursor.advance lines).finished = cursor.finished := rfl
    rw [ahead_eq _ moved, ahead_eq _ stands.cursor, List.length_cons]
    simp only [same]
    omega

/-- The stage alone changes, and what is owed stays the same. -/
theorem Stands.turn (stands : Stands text passed taken later ⟨cursor, stage, found⟩)
    (step : step? ⟨cursor, stage, found⟩ = some ⟨cursor, other, found⟩)
    (unfinished : cursor.finished = false) (goesOn : other ≠ .ended)
    (closer : other.weight cursor < stage.weight cursor) (fits : other.Fits taken later)
    (owes : owed ⟨cursor, stage, found⟩ taken later = owed ⟨cursor, other, found⟩ taken later) :
    Leads text ⟨cursor, stage, found⟩ ⟨cursor, other, found⟩ := by
  refine ⟨step, ⟨passed, taken, later, .ofUnfinished stands.cursor unfinished goesOn fits ?_⟩,
    ahead_lt closer⟩
  have accounted := stands.accounted
  rwa [owes] at accounted

/-- A grapheme is taken for the lexeme in hand. -/
theorem Stands.take {lines : Nat}
    (stands : Stands text passed taken (next :: later) ⟨cursor, stage, found⟩)
    (step : step? ⟨cursor, stage, found⟩ = some ⟨cursor.advance lines, other, found⟩)
    (held : stage.inHand = true) (held' : other.inHand = true)
    (counted : Scan.newlines next = lines) (fits : other.Fits (taken ++ [next]) later) :
    Leads text ⟨cursor, stage, found⟩ ⟨cursor.advance lines, other, found⟩ := by
  refine stands.advance step ?_ counted fits ?_
  · rintro rfl
    contradiction
  · -- What was to come is now taken, and the lexeme starts where it did.
    intro unfinished
    simp [owed, Cursor.advance, unfinished, held, held']

/-- The lexeme in hand is complete. -/
theorem Stands.close {kind : Kind}
    (stands : Stands text passed taken later ⟨cursor, stage, found⟩)
    (step : step? ⟨cursor, stage, found⟩ = some ⟨cursor, .complete kind, found⟩)
    (held : stage.inHand = true) (notLast : stage.mayBeLast = false)
    (closer : 5 < stage.weight cursor)
    (cut : Piece.Cuts (.token (kind.settled taken.flatten)) taken later) :
    Leads text ⟨cursor, stage, found⟩ ⟨cursor, .complete kind, found⟩ := by
  have unfinished : cursor.finished = false := stands.unfinished (.inr notLast)
  refine stands.turn step unfinished (by simp) closer cut ?_
  have held' : (Stage.complete kind).inHand = true := rfl
  simp [owed, unfinished, held, held']

/-- What is in hand comes to something that is found, and the walk is between lexemes again. -/
theorem Stands.find {made : Scan}
    (stands : Stands text passed taken later ⟨cursor, stage, found⟩)
    (step : step? ⟨cursor, stage, found⟩ = some ⟨cursor, .between, found.followedBy made⟩)
    (held : stage.inHand = true) (notLast : stage.mayBeLast = false)
    (closer : 3 < stage.weight cursor)
    (comes : Scan.ofPieces cursor.startLine (Piece.divide (taken ++ later)) =
      made.followedBy (.ofPieces cursor.line (Piece.divide later))) :
    Leads text ⟨cursor, stage, found⟩ ⟨cursor, .between, found.followedBy made⟩ := by
  have unfinished : cursor.finished = false := stands.unfinished (.inr notLast)
  refine ⟨step, ⟨passed, taken, later, .ofUnfinished stands.cursor unfinished (by simp) trivial ?_⟩,
    ahead_lt closer⟩
  -- What is made is the first part of what was owed.
  have accounted := stands.accounted
  simp only [owed, unfinished, held, Bool.false_eq_true, if_false, if_true, comes] at accounted
  rw [← accounted, Scan.followedBy_assoc]
  simp [owed, unfinished, Stage.inHand]

end

end Walk

end LoxTokens
