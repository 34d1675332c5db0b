import LoxTokens.Proofs.Grapheme
import LoxTokens.Proofs.Scan.Lines
import LoxTokens.Proofs.Text.Slices

/-! A cursor on the graphemes of a text, each found at a place in the bytes of the text. -/

namespace LoxTokens

/-- Texts one after the other, each with the place of its first byte. -/
def placedFrom (place : Nat) : List (List Char) → List (Nat × List Char)
  | [] => []
  | text :: later => (place, text) :: placedFrom (place + Utf8.byteLength text) later

/-- The slices that a placed cluster is cut into: an ASCII byte at its head, and what is left. -/
def cut? : Nat × List Char → Option (List (Nat × Grapheme))
  | (place, cluster) =>
    let bytes := Utf8.encode cluster
    if 1 < bytes.length && bytes.head?.any (·.toNat < 0x80) then do
      let head ← Utf8.slice? cluster 0 1
      let rest ← Utf8.slice? cluster 1 bytes.length
      some [(place, head), (place + 1, rest)]
    else some [(place, cluster)]

/-- The slices of all the clusters, unless one of them could not be cut. -/
def cutAll? (clusters : List (Nat × List Char)) : Option (List (Nat × Grapheme)) :=
  (clusters.mapM cut?).map List.flatten

/-- Where a walk along the graphemes of a text has come to. -/
structure Cursor where
  source : List Char
  /-- The graphemes of the source, each with the place of its first byte. -/
  graphemes : List (Nat × Grapheme)
  /-- The index of the first grapheme of the lexeme in hand. -/
  start : Nat
  /-- The index of the next grapheme. -/
  current : Nat
  /-- The line that the next grapheme is on. -/
  line : Nat
  /-- The line that the lexeme in hand starts on. -/
  startLine : Nat
  /-- Whether the mark at the end was handed out. -/
  finished : Bool

namespace Cursor

/-- The cursor at the start of a text, unless its clusters could not be cut. -/
def ofText? (text : List Char) : Option Cursor :=
  (cutAll? (placedFrom 0 (Unicode.clusters text))).map
    fun graphemes => ⟨text, graphemes, 0, 0, 1, 1, false⟩

/-- The next grapheme. -/
def peek (cursor : Cursor) : Option Grapheme := cursor.graphemes[cursor.current]?.map Prod.snd

/-- The grapheme after the next one. -/
def peekNext (cursor : Cursor) : Option Grapheme :=
  cursor.graphemes[cursor.current + 1]?.map Prod.snd

/-- The cursor past the next grapheme, which ends a line or does not. -/
def advance (cursor : Cursor) (lines : Nat) : Cursor :=
  { cursor with current := cursor.current + 1, line := cursor.line + lines }

/-- The cursor with a new lexeme in hand, which nothing belongs to yet. -/
def resync (cursor : Cursor) : Cursor :=
  { cursor with start := cursor.current, startLine := cursor.line }

/-- The cursor after the mark at the end was handed out. -/
def finish (cursor : Cursor) : Cursor := { cursor with finished := true }

/-- The place in the bytes of the source where a grapheme starts; after the last one, its end. -/
def place (cursor : Cursor) (index : Nat) : Nat :=
  (cursor.graphemes[index]?).elim (Utf8.byteLength cursor.source) Prod.fst

/-- The slice of the source that the lexeme in hand is, unless there is no such slice. -/
def lexeme? (cursor : Cursor) : Option (List Char) :=
  Utf8.slice? cursor.source (cursor.place cursor.start) (cursor.place cursor.current)

end Cursor

/-- Texts are placed one stretch after the other. -/
theorem placedFrom_append (place : Nat) (earlier later : List (List Char)) :
    placedFrom place (earlier ++ later) =
      placedFrom place earlier ++ placedFrom (place + Utf8.byteLength earlier.flatten) later := by
  -- The second stretch starts behind all the bytes of the first.
  induction earlier generalizing place with
  | nil => rfl
  | cons text earlier ih => simp [placedFrom, ih, Nat.add_assoc]

/-- Taking the places away again leaves the texts. -/
@[simp] theorem map_snd_placedFrom (place : Nat) (texts : List (List Char)) :
    (placedFrom place texts).map Prod.snd = texts := by
  induction texts generalizing place with
  | nil => rfl
  | cons text later ih => simp [placedFrom, ih]

/-- Each text starts where the one before it ends. -/
theorem isChain_placedFrom (place : Nat) (texts : List (List Char)) :
    (placedFrom place texts).IsChain fun one next => next.1 = one.1 + Utf8.byteLength one.2 := by
  induction texts generalizing place with
  | nil => exact .nil
  | cons text later ih =>
    cases later with
    | nil => exact .singleton _
    | cons next more => exact .cons_cons rfl (ih _)

/-- An ASCII byte at the head of a longer cluster is cut off from what is left. -/
theorem cut?_of_ascii (place : Nat) {head : Char} {marks : List Char} (ascii : isAscii head)
    (present : marks ≠ []) :
    cut? (place, head :: marks) = some [(place, [head]), (place + 1, marks)] := by
  -- The head is the one byte that both slices meet at.
  have code : head.toNat < 0x80 := by simpa [isAscii] using ascii
  have single := Utf8.utf8EncodeChar_ascii code
  have one : Utf8.byteLength [head] = 1 := Utf8.byteLength_cons_ascii code []
  have whole : 1 + Utf8.byteLength marks = (Utf8.encode (head :: marks)).length :=
    (Utf8.byteLength_cons_ascii code marks).symm
  have first := Utf8.slice?_append [] [head] marks
  have second := Utf8.slice?_append [head] marks []
  simp only [Utf8.byteLength_nil, one, Nat.zero_add, List.nil_append, List.append_nil,
    List.singleton_append, whole] at first second
  have longer : 1 < (Utf8.encode (head :: marks)).length := by
    have positive := List.length_pos_iff.mpr present
    have enough := Utf8.length_le_byteLength marks
    omega
  have opens : (Utf8.encode (head :: marks)).head?.any (·.toNat < 0x80) = true := by
    rw [Utf8.encode_cons, single, List.singleton_append, List.head?_cons, Option.any_some,
      UInt8.toNat_ofNat', decide_eq_true_eq]
    omega
  simp [cut?, longer, opens, first, second]

/-- A cluster of one byte, or whose first byte is no ASCII byte, is not cut. -/
theorem cut?_of_not_ascii (place : Nat) {head : Char} {marks : List Char}
    (whole : isAscii head = false ∨ marks = []) :
    cut? (place, head :: marks) = some [(place, head :: marks)] := by
  -- Either there is no second byte, or the first one belongs to a longer character.
  obtain ⟨byte, tails, encoded, _, same⟩ := Utf8.exists_cons_utf8EncodeChar head
  by_cases code : head.toNat < 0x80
  · obtain rfl : marks = [] := whole.resolve_left (by simp [isAscii, code])
    simp [cut?, Utf8.encode, Utf8.utf8EncodeChar_ascii code]
  · have beyond : (Utf8.encode (head :: marks)).head?.any (·.toNat < 0x80) = false := by
      rw [Utf8.encode_cons, encoded, List.cons_append, List.head?_cons, Option.any_some,
        decide_eq_false_iff_not]
      exact same.not.mpr code
    simp [cut?, beyond]

/-- Cutting a cluster by its bytes separates an ASCII character at its head from its marks. -/
theorem cut?_eq (place : Nat) (cluster : List Char) :
    cut? (place, cluster) = some (placedFrom place (separateAscii cluster)) := by
  match cluster with
  | [] => rfl
  | [head] => exact cut?_of_not_ascii place (.inr rfl)
  | head :: mark :: marks =>
    by_cases ascii : isAscii head
    · have code : head.toNat < 0x80 := by simpa [isAscii] using ascii
      rw [cut?_of_ascii place ascii (by simp), separateAscii_cons ascii (by simp)]
      simp [placedFrom, Utf8.byteLength_cons_ascii code]
    · have beyond : isAscii head = false := by simpa using ascii
      rw [cut?_of_not_ascii place (.inl beyond), separateAscii_whole beyond]
      rfl

/-- Cutting the clusters of a text by their bytes gives its graphemes, each at its place. -/
theorem cutAll?_eq (text : List Char) :
    cutAll? (placedFrom 0 (Unicode.clusters text)) = some (placedFrom 0 (graphemes text)) := by
  -- Every cluster is cut into slices that end where the next cluster starts.
  have cuts (place : Nat) (clusters : List (List Char)) :
      cutAll? (placedFrom place clusters) =
        some (placedFrom place (clusters.flatMap separateAscii)) := by
    induction clusters generalizing place with
    | nil => rfl
    | cons cluster later ih =>
      obtain ⟨rest, cut, flattened⟩ :=
        Option.map_eq_some_iff.mp (ih (place + Utf8.byteLength cluster))
      simp [cutAll?, placedFrom, cut?_eq, cut, flattened, placedFrom_append, flatten_separateAscii]
  exact cuts 0 (Unicode.clusters text)

namespace Cursor

/-- The cursor stands between graphemes of a text: some are passed, some taken, some to come. -/
structure At (cursor : Cursor) (text : List Char) (passed taken later : List Grapheme) : Prop where
  source : cursor.source = text
  graphemes : cursor.graphemes = placedFrom 0 (LoxTokens.graphemes text)
  divided : LoxTokens.graphemes text = passed ++ (taken ++ later)
  start : cursor.start = passed.length
  current : cursor.current = passed.length + taken.length
  line : cursor.line = Scan.lineAfter (passed ++ taken).flatten
  startLine : cursor.startLine = Scan.lineAfter passed.flatten

/-- The cursor at the start of a text has passed nothing and taken nothing. -/
theorem exists_ofText? (text : List Char) : ∃ cursor, ofText? text = some cursor ∧
    cursor.At text [] [] (LoxTokens.graphemes text) ∧ cursor.finished = false := by
  refine ⟨_, by rw [ofText?, cutAll?_eq]; rfl, ?_, rfl⟩
  exact ⟨rfl, rfl, rfl, rfl, rfl, rfl, rfl⟩

/-- A rule that can take no newline holds none, in graphemes of a text. -/
theorem newlines_of_cuts {text : List Char} {role : Role} {run rest : List Grapheme}
    (inText : ∀ grapheme ∈ run, grapheme ∈ LoxTokens.graphemes text)
    (cut : Piece.Cuts role run rest) (oneLine : role.holdsNewlines = false) :
    Scan.newlines run.flatten = 0 := by
  -- Newlines are graphemes of their own.
  have apart := (newlines_apart text).of_subset inText
  exact List.count_eq_zero.mpr (apart.not_mem_flatten rfl (Piece.ne_newline_of_cuts cut oneLine))

section

variable {cursor : Cursor} {text : List Char} {passed taken later : List Grapheme}

/-- The graphemes from the next one on are those to come. -/
theorem At.ahead (stands : cursor.At text passed taken later) (distance : Nat) :
    cursor.graphemes[cursor.current + distance]?.map Prod.snd = later[distance]? := by
  -- All that is passed or taken stands in front of the index.
  rw [stands.graphemes, ← List.getElem?_map, map_snd_placedFrom, stands.divided,
    ← List.append_assoc, stands.current, ← List.length_append,
    List.getElem?_append_right (Nat.le_add_right _ _), Nat.add_sub_cancel_left]

/-- What the cursor sees is the first of the graphemes to come. -/
theorem At.peek (stands : cursor.At text passed taken later) : cursor.peek = later.head? := by
  rw [List.head?_eq_getElem?]
  exact stands.ahead 0

/-- What the cursor sees behind that is the second one. -/
theorem At.peekNext (stands : cursor.At text passed taken later) :
    cursor.peekNext = later.tail.head? := by
  rw [List.head?_tail]
  exact stands.ahead 1

/-- There are as many graphemes from the next one on as there are to come. -/
theorem At.remaining (stands : cursor.At text passed taken later) :
    cursor.graphemes.length - cursor.current = later.length := by
  rw [← List.length_map Prod.snd, stands.graphemes, map_snd_placedFrom, stands.divided,
    stands.current]
  simp only [List.length_append]
  omega

/-- A grapheme that is taken ends a line if it is a newline, and otherwise none. -/
theorem At.advance {next : Grapheme} {lines : Nat}
    (stands : cursor.At text passed taken (next :: later)) (counted : Scan.newlines next = lines) :
    (cursor.advance lines).At text passed (taken ++ [next]) later where
  source := stands.source
  graphemes := stands.graphemes
  divided := by simp [stands.divided]
  start := stands.start
  current := by simp [Cursor.advance, stands.current, Nat.add_assoc]
  line := by simp [Cursor.advance, stands.line, Scan.lineAfter, counted, Nat.add_assoc]
  startLine := stands.startLine

/-- A new lexeme starts at the next grapheme. -/
theorem At.resync (stands : cursor.At text passed taken later) :
    cursor.resync.At text (passed ++ taken) [] later where
  source := stands.source
  graphemes := stands.graphemes
  divided := by simp [stands.divided]
  start := by simp [Cursor.resync, stands.current]
  current := by simp [Cursor.resync, stands.current]
  line := by simp [Cursor.resync, stands.line]
  startLine := stands.line

/-- Handing out the mark at the end moves nothing. -/
theorem At.finish (stands : cursor.At text passed taken later) :
    cursor.finish.At text passed taken later :=
  ⟨stands.source, stands.graphemes, stands.divided, stands.start, stands.current, stands.line,
    stands.startLine⟩

/-- The graphemes in hand and to come are graphemes of the text. -/
theorem At.mem_graphemes (stands : cursor.At text passed taken later) :
    ∀ grapheme ∈ taken ++ later, grapheme ∈ LoxTokens.graphemes text := by
  intro grapheme member
  rw [stands.divided]
  exact List.mem_append_right passed member

/-- A grapheme to come that is not a newline holds none. -/
theorem At.newlines_eq_zero {next : Grapheme}
    (stands : cursor.At text passed taken (next :: later)) (other : next ≠ ['\n']) :
    Scan.newlines next = 0 := by
  -- Newlines are graphemes of their own.
  have member := stands.mem_graphemes next (by simp)
  refine List.count_eq_zero.mpr fun found => other ?_
  exact (newlines_apart text next member).2 '\n' found rfl

/-- Nor does one that satisfies a test which newlines fail. -/
theorem At.newlines_of_test {next : Grapheme} {test : Grapheme → Bool}
    (stands : cursor.At text passed taken (next :: later)) (passes : test next = true)
    (fails : test ['\n'] = false) : Scan.newlines next = 0 := by
  refine stands.newlines_eq_zero ?_
  rintro rfl
  simp [fails] at passes

/-- The line has moved on by the newlines in the lexeme in hand. -/
theorem At.line_eq (stands : cursor.At text passed taken later) :
    cursor.line = cursor.startLine + Scan.newlines taken.flatten := by
  simp [stands.line, stands.startLine, Scan.lineAfter, Nat.add_assoc]

/-- A grapheme starts behind the bytes of all that stands in front of it. -/
theorem At.place_eq (stands : cursor.At text passed taken later) (earlier rest : List Grapheme)
    (split : LoxTokens.graphemes text = earlier ++ rest) :
    cursor.place earlier.length = Utf8.byteLength earlier.flatten := by
  have after : (placedFrom 0 earlier).length = earlier.length := by
    rw [← List.length_map Prod.snd, map_snd_placedFrom]
  rw [place, stands.graphemes, split, placedFrom_append, ← after, List.getElem?_append_right
    (Nat.le_refl _), Nat.sub_self]
  cases rest with
  -- After the last grapheme comes the end of the source, which is all of its graphemes.
  | nil =>
    have whole : earlier.flatten = text := by
      rw [← flatten_graphemes text, split, List.append_nil]
    rw [stands.source, whole]
    rfl
  | cons next more => simp [placedFrom]

/-- The lexeme in hand is a slice of the source: the graphemes taken. -/
theorem At.lexeme? (stands : cursor.At text passed taken later) :
    cursor.lexeme? = some taken.flatten := by
  have first := stands.place_eq passed (taken ++ later) stands.divided
  have second := stands.place_eq (passed ++ taken) later (by simp [stands.divided])
  rw [List.length_append, List.flatten_append, Utf8.byteLength_append] at second
  have whole : text = passed.flatten ++ (taken.flatten ++ later.flatten) := by
    rw [← flatten_graphemes text, stands.divided]
    simp
  rw [Cursor.lexeme?, stands.start, stands.current, first, second, stands.source, whole]
  exact Utf8.slice?_append _ _ _

end

end Cursor

end LoxTokens
