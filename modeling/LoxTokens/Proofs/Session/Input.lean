import LoxTokens.Proofs.Text.Utf8
import LoxTokens.Session.Prompt

/-! The lines of an input, and the first of them that is no text. -/

namespace LoxTokens

/-- Items that are some parts, each with a mark at its end, and a rest. -/
structure Parted {α : Type} (mark : α) (all : List α) (parts : List (List α)) (rest : List α) :
    Prop where
  joined : all = parts.flatMap (· ++ [mark]) ++ rest
  unmarked : ∀ part ∈ parts, mark ∉ part
  /-- What follows the last mark has none. -/
  unfinished : mark ∉ rest

/-- Whatever the items are, they are parted by their marks. -/
theorem exists_parted {α : Type} [DecidableEq α] (mark : α) (all : List α) :
    ∃ parts rest, Parted mark all parts rest := by
  -- An item in front of all of them is a mark, or goes to what is first already.
  induction all with
  | nil => exact ⟨[], [], by simp, by simp, by simp⟩
  | cons item all ih =>
    obtain ⟨parts, rest, rfl, unmarked, unfinished⟩ := ih
    by_cases isMark : item = mark
    · subst isMark
      exact ⟨[] :: parts, rest, by simp, by simpa using unmarked, unfinished⟩
    · have other : mark ≠ item := Ne.symm isMark
      cases parts with
      | nil => exact ⟨[], item :: rest, by simp, by simp, by simp [other, unfinished]⟩
      | cons part parts =>
        obtain ⟨first, others⟩ := List.forall_mem_cons.mp unmarked
        refine ⟨(item :: part) :: parts, rest, by simp, ?_, unfinished⟩
        exact List.forall_mem_cons.mpr ⟨by simp [other, first], others⟩

/-- The parts with their marks, and the rest if there is any. -/
def withMarks {α : Type} (mark : α) (parts : List (List α)) (rest : List α) : List (List α) :=
  parts.map (· ++ [mark]) ++ if rest.isEmpty then [] else [rest]

/-- The parts with their marks, and the rest, are all that there is. -/
theorem Parted.flatten_withMarks {α : Type} {mark : α} {all rest : List α} {parts : List (List α)}
    (parted : Parted mark all parts rest) : (withMarks mark parts rest).flatten = all := by
  rw [withMarks, List.flatten_append, ← List.flatMap_def, parted.joined]
  cases rest <;> simp

namespace Input

/-- A part is cut off with the line end after it. -/
theorem cut_append {part : List UInt8} (unmarked : lineEnd ∉ part) (later : List UInt8) :
    cut (part ++ lineEnd :: later) = (part ++ [lineEnd]) :: cut later := by
  induction part with
  | nil => simp [cut]
  | cons byte part ih =>
    obtain ⟨other, unmarked⟩ : lineEnd ≠ byte ∧ lineEnd ∉ part := by simpa using unmarked
    simp [cut, ih unmarked, Ne.symm other]

/-- Bytes without a line end are one line, if there are any. -/
theorem cut_of_not_mem {rest : List UInt8} (unfinished : lineEnd ∉ rest) :
    cut rest = if rest.isEmpty then [] else [rest] := by
  induction rest with
  | nil => rfl
  | cons byte rest ih =>
    obtain ⟨other, unfinished⟩ : lineEnd ≠ byte ∧ lineEnd ∉ rest := by simpa using unfinished
    rw [cut, if_neg (Ne.symm other), ih unfinished]
    cases rest <;> rfl

/-- The lines of some bytes are their parts, and the rest if there is any. -/
theorem cut_of_parted {bytes rest : List UInt8} {parts : List (List UInt8)}
    (parted : Parted lineEnd bytes parts rest) :
    cut bytes = withMarks lineEnd parts rest := by
  obtain ⟨rfl, unmarked, unfinished⟩ := parted
  induction parts with
  | nil => exact cut_of_not_mem unfinished
  | cons part parts ih =>
    obtain ⟨first, others⟩ := List.forall_mem_cons.mp unmarked
    have front := cut_append first (parts.flatMap (· ++ [lineEnd]) ++ rest)
    simpa [ih others, withMarks] using front

/-- The lines of an input are its parts, and the rest unless reading on fails. -/
theorem lines_of_parted {input : Input} {parts : List (List UInt8)} {rest : List UInt8}
    (parted : Parted lineEnd input.bytes parts rest) :
    input.lines = withMarks lineEnd parts (if input.fails then [] else rest) := by
  -- Only the rest can be a line without a line end, and so be lost.
  have finished : (parts.map (· ++ [lineEnd])).filter (·.contains lineEnd) =
      parts.map (· ++ [lineEnd]) := by simp [List.filter_eq_self]
  have lost : (if rest.isEmpty then [] else [rest]).filter (·.contains lineEnd) = [] := by
    split <;> simp [parted.unfinished]
  rw [lines, cut_of_parted parted]
  cases input.fails with
  | false => simp
  | true => simp only [withMarks, if_true, List.filter_append, finished, lost, List.isEmpty_nil]

/-- When reading does not fail, the lines of an input are all of it. -/
theorem flatten_lines {input : Input} (whole : input.fails = false) :
    input.lines.flatten = input.bytes := by
  obtain ⟨parts, rest, parted⟩ := exists_parted lineEnd input.bytes
  rw [lines_of_parted parted, whole]
  exact parted.flatten_withMarks

/-- The texts of the lines that are read from an input, and the lines from the first bad one on. -/
structure Reads (input : Input) (texts : List (List Char)) (unread : List (List UInt8)) :
    Prop where
  /-- Lines go up to and including their end, and one without an end is lost when reading fails. -/
  lines : ∃ parts rest, Parted lineEnd input.bytes parts rest ∧
    texts.map Utf8.encode ++ unread =
      withMarks lineEnd parts (if input.fails then [] else rest)
  stops : ∀ text, unread.head? ≠ some (Utf8.encode text)

/-- Any lines are texts up to the first one that is none. -/
theorem exists_texts (lines : List (List UInt8)) :
    ∃ (texts : List (List Char)) (unread : List (List UInt8)),
      texts.map Utf8.encode ++ unread = lines ∧
      ∀ text, unread.head? ≠ some (Utf8.encode text) := by
  induction lines with
  | nil => exact ⟨[], [], rfl, by simp⟩
  | cons line later ih =>
    cases decoded : Utf8.decode? line with
    | none =>
      refine ⟨[], line :: later, rfl, ?_⟩
      intro text same
      cases same
      simp [Utf8.decode?_eq_some_iff.mpr rfl] at decoded
    | some text =>
      obtain ⟨texts, unread, rfl, stops⟩ := ih
      obtain rfl := Utf8.decode?_eq_some_iff.mp decoded
      exact ⟨text :: texts, unread, rfl, stops⟩

/-- Some lines are read from every input. -/
theorem exists_reads (input : Input) : ∃ texts unread, input.Reads texts unread := by
  obtain ⟨parts, rest, parted⟩ := exists_parted lineEnd input.bytes
  obtain ⟨texts, unread, same, stops⟩ := exists_texts input.lines
  exact ⟨texts, unread, ⟨parts, rest, parted, same.trans (lines_of_parted parted)⟩, stops⟩

/-- What is read from an input makes up its lines. -/
theorem Reads.lines_eq {input : Input} {texts : List (List Char)} {unread : List (List UInt8)}
    (reads : input.Reads texts unread) : input.lines = texts.map Utf8.encode ++ unread := by
  obtain ⟨parts, rest, parted, same⟩ := reads.lines
  rw [lines_of_parted parted, same]

end Input

end LoxTokens
