import LoxTokens.Piece
import Mathlib.Data.List.Basic

/-! Line ends of two characters turned into newlines, in texts and in their graphemes. -/

namespace LoxTokens

section Dropping

variable {α : Type} [DecidableEq α] {item next : α}

/-- A sequence without those items that stand right before another one. -/
def dropBefore (item next : α) : List α → List α
  | [] => []
  | first :: rest =>
    if first = item ∧ rest.head? = some next then dropBefore item next rest
    else first :: dropBefore item next rest

/-- Any other item stays. -/
theorem dropBefore_cons_of_ne {first : α} (other : first ≠ item) (rest : List α) :
    dropBefore item next (first :: rest) = first :: dropBefore item next rest := by
  simp [dropBefore, other]

/-- The item stays if something else follows it. -/
theorem dropBefore_cons_of_head_ne {first : α} {rest : List α} (other : rest.head? ≠ some next) :
    dropBefore item next (first :: rest) = first :: dropBefore item next rest := by
  simp [dropBefore, other]

/-- Without the item, nothing is dropped. -/
theorem dropBefore_eq_self_of_item {items : List α} (absent : item ∉ items) :
    dropBefore item next items = items := by
  induction items with
  | nil => rfl
  | cons first rest ih =>
    obtain ⟨other, later⟩ := not_or.mp (List.mem_cons.not.mp absent)
    rw [dropBefore_cons_of_ne (Ne.symm other), ih later]

/-- Nor is anything dropped if there is nothing to stand before. -/
theorem dropBefore_eq_self_of_next {items : List α} (absent : next ∉ items) :
    dropBefore item next items = items := by
  induction items with
  | nil => rfl
  | cons first rest ih =>
    have later : next ∉ rest := fun found => absent (.tail _ found)
    -- The item right after this one is one of those that are absent.
    have other : rest.head? ≠ some next := fun found => later (List.mem_of_head? found)
    rw [dropBefore_cons_of_head_ne other, ih later]

/-- Two sequences are told apart if no item at the end of one stands before the other. -/
theorem dropBefore_append {left right : List α}
    (apart : left.getLast? = some item → right.head? ≠ some next) :
    dropBefore item next (left ++ right) =
      dropBefore item next left ++ dropBefore item next right := by
  induction left with
  | nil => rfl
  | cons first left ih =>
    cases left with
    | nil =>
      -- The last item of the left one is followed by the right one.
      by_cases isItem : first = item
      · have other : right.head? ≠ some next := apart (by simp [isItem])
        have alone : ([] : List α).head? ≠ some next := by simp
        rw [List.cons_append, List.nil_append, dropBefore_cons_of_head_ne other,
          dropBefore_cons_of_head_ne alone]
        rfl
      · rw [List.cons_append, List.nil_append, dropBefore_cons_of_ne isItem,
          dropBefore_cons_of_ne isItem]
        rfl
    | cons second left =>
      have rest := ih (by simpa using apart)
      have same : (second :: left ++ right).head? = (second :: left).head? := rfl
      rw [List.cons_append, dropBefore, dropBefore, same, rest]
      split <;> rfl

/-- The item is dropped where the other one follows it, wherever the two stand. -/
theorem dropBefore_append_pair (different : item ≠ next) (left right : List α) :
    dropBefore item next (left ++ item :: next :: right) =
      dropBefore item next left ++ next :: dropBefore item next right := by
  -- What ends the left part is not followed by the second of the two.
  have apart : left.getLast? = some item → (item :: next :: right).head? ≠ some next := by
    simp [different]
  rw [dropBefore_append apart, ← dropBefore_cons_of_ne different.symm right]
  simp [dropBefore]

/-- A sequence that starts with another item after dropping has started with it before. -/
theorem exists_cons_of_dropBefore {items rest : List α} {first : α} (other : first ≠ next)
    (same : dropBefore item next items = first :: rest) (different : item ≠ next) :
    ∃ later, items = first :: later ∧ dropBefore item next later = rest := by
  cases items with
  | nil => cases same
  | cons head items =>
    by_cases dropped : head = item ∧ items.head? = some next
    · -- What follows the dropped item is the other one, which stays.
      obtain ⟨later, rfl⟩ := List.head?_eq_some_iff.mp dropped.2
      rw [dropBefore, if_pos dropped, dropBefore_cons_of_ne different.symm] at same
      obtain ⟨rfl, _⟩ := List.cons.inj same
      contradiction
    · rw [dropBefore, if_neg dropped] at same
      obtain ⟨rfl, rfl⟩ := List.cons.inj same
      exact ⟨items, rfl, rfl⟩

/-- Only items of the sequence are left. -/
theorem mem_of_mem_dropBefore {items : List α} {found : α}
    (member : found ∈ dropBefore item next items) : found ∈ items := by
  induction items with
  | nil => cases member
  | cons first rest ih =>
    rw [dropBefore] at member
    split at member
    · exact .tail _ (ih member)
    · rcases List.mem_cons.mp member with rfl | member
      · exact List.mem_cons_self
      · exact .tail _ (ih member)

/-- As many of the others are left as there were. -/
theorem count_dropBefore {counted : α} (different : item ≠ counted) (items : List α) :
    (dropBefore item next items).count counted = items.count counted := by
  induction items with
  | nil => rfl
  | cons first rest ih =>
    rw [dropBefore]
    split
    · rename_i dropped
      rw [ih, dropped.1, List.count_cons_of_ne different]
    · rw [List.count_cons, List.count_cons, ih]

end Dropping

/-- A text with a newline in place of every carriage return and newline that make up a pair. -/
def unifyLineEnds : List Char → List Char
  | '\r' :: '\n' :: rest => '\n' :: unifyLineEnds rest
  | c :: rest => c :: unifyLineEnds rest
  | [] => []

/-- Such a text has lost the carriage returns that stand right before newlines. -/
theorem unifyLineEnds_eq (text : List Char) : unifyLineEnds text = dropBefore '\r' '\n' text := by
  fun_induction unifyLineEnds text with
  | case1 rest ih =>
    have different : '\r' ≠ '\n' := by decide
    have pair := dropBefore_append_pair different [] rest
    rw [ih]
    exact pair.symm
  | case2 c rest unpaired ih =>
    have alone : ¬(c = '\r' ∧ rest.head? = some '\n') := by
      rintro ⟨rfl, follows⟩
      obtain ⟨more, rfl⟩ := List.head?_eq_some_iff.mp follows
      exact unpaired more rfl rfl
    rw [dropBefore, if_neg alone, ih]
  | case3 => rfl

end LoxTokens
