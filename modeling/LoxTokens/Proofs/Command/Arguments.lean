import LoxTokens.Command.Arguments
import LoxTokens.Proofs.Text.Utf8
import Mathlib.Data.List.Perm.Basic

/-! Flags may stand anywhere among the arguments, and the plan is the same. -/

namespace LoxTokens.Plan

/-- A flag, if it is set. -/
def given (flag : Argument) (isSet : Bool) : List Argument := if isSet then [flag] else []

/-- Arguments that are flags and operands in any order, with no request for help among them. -/
structure MadeOf (arguments : List Argument) (quiet plain : Bool) (operands : List Argument) :
    Prop where
  perm : arguments.Perm
    (given (flag "--quiet") quiet ++ (given (flag "--no-color") plain ++ operands))
  /-- What reads like a flag is an operand only when the flag is there as well. -/
  quietSet : flag "--quiet" ∈ operands → quiet = true
  plainSet : flag "--no-color" ∈ operands → plain = true
  helpless : flag "-h" ∉ arguments ∧ flag "--help" ∉ arguments

section Flags

variable {flag other : Argument} {isSet : Bool} {rest : List Argument}

/-- Another flag in front does not bring a flag in. -/
theorem mem_of_mem_given_append (different : flag ≠ other)
    (member : flag ∈ given other isSet ++ rest) : flag ∈ rest := by
  -- In front stands at most the other flag.
  rcases List.mem_append.mp member with front | behind
  · cases isSet with
    | true => exact absurd (List.mem_singleton.mp front) different
    | false => cases front
  · exact behind

/-- Arguments with a flag in front of them hold it exactly when it is set. -/
theorem mem_given_append (known : flag ∈ rest → isSet = true) :
    flag ∈ given flag isSet ++ rest ↔ isSet = true := by
  -- A flag that is not set could only stand in the rest, and is not there either.
  cases isSet with
  | true => simp [given]
  | false => simpa [given] using known

/-- A flag that is set is taken out where it first stands, which is in front. -/
theorem erase_given_append (known : flag ∈ rest → isSet = true) :
    (given flag isSet ++ rest).erase flag = rest := by
  cases isSet with
  | true => exact List.erase_cons_head flag rest
  | false =>
    -- Nothing is taken out of arguments that do not hold the flag.
    have absent : flag ∉ rest := by
      intro member
      cases known member
    exact List.erase_of_not_mem absent

end Flags

/-- Somewhere among the arguments, there is a request for help. -/
def AsksForHelp (arguments : List Argument) : Prop :=
  flag "-h" ∈ arguments ∨ flag "--help" ∈ arguments

/-- The test for requests for help finds them wherever they stand. -/
theorem any_helpFlags_iff {arguments : List Argument} :
    arguments.any (helpFlags.contains ·) = true ↔ AsksForHelp arguments := by
  simp only [List.any_eq_true, List.contains_iff_mem, helpFlags, List.mem_cons, List.not_mem_nil,
    or_false, and_or_left, exists_or, exists_eq_right]
  rfl

section MadeOf

variable {arguments rest : List Argument} {quiet plain : Bool}

/-- The two flags are not the same. -/
theorem quietFlag_ne_plainFlag : quietFlag ≠ plainFlag := by decide

/-- Behind the first flag, it stands again only when it is set. -/
theorem MadeOf.quietSet_append (madeOf : MadeOf arguments quiet plain rest)
    (member : quietFlag ∈ given plainFlag plain ++ rest) : quiet = true :=
  madeOf.quietSet (mem_of_mem_given_append quietFlag_ne_plainFlag member)

/-- Whether a flag is set can be told from the arguments. -/
theorem MadeOf.contains_flags (madeOf : MadeOf arguments quiet plain rest) :
    arguments.contains quietFlag = quiet ∧ arguments.contains plainFlag = plain := by
  -- Either of the flags can be thought of as the one in front.
  have quietIff : quietFlag ∈ arguments ↔ quiet = true :=
    madeOf.perm.mem_iff.trans (mem_given_append madeOf.quietSet_append)
  have swapped := madeOf.perm.trans (List.perm_append_comm_assoc _ _ _)
  have plainIff : plainFlag ∈ arguments ↔ plain = true := by
    refine swapped.mem_iff.trans (mem_given_append ?_)
    intro member
    exact madeOf.plainSet (mem_of_mem_given_append quietFlag_ne_plainFlag.symm member)
  simp only [List.contains_eq_mem, quietIff, plainIff, Bool.decide_eq_true, and_self]

/-- Taking out the flags leaves the operands. -/
theorem MadeOf.perm_operands (madeOf : MadeOf arguments quiet plain rest) :
    (operands arguments).Perm rest := by
  -- The first flag is taken from in front of the second one, and that from in front of the rest.
  have ordered : arguments.Perm (given quietFlag quiet ++ (given plainFlag plain ++ rest)) :=
    madeOf.perm
  have erased := (ordered.erase quietFlag).erase plainFlag
  have plainSet : plainFlag ∈ rest → plain = true := madeOf.plainSet
  rwa [erase_given_append madeOf.quietSet_append, erase_given_append plainSet] at erased

/-- At most one operand, which is text, is the script of the plan. -/
theorem ofArguments_of_madeOf {script : Option String}
    (madeOf : MadeOf arguments quiet plain
      (script.toList.map fun path => Utf8.encode path.toList)) :
    ofArguments arguments = .start quiet plain script := by
  have unasked : arguments.any (helpFlags.contains ·) = false := by
    rw [← Bool.not_eq_true, any_helpFlags_iff]
    rintro (short | long)
    · exact madeOf.helpless.1 short
    · exact madeOf.helpless.2 long
  obtain ⟨quietStands, plainStands⟩ := madeOf.contains_flags
  -- In whatever order the operands are left, there is only one for so few of them.
  have left := madeOf.perm_operands
  rw [ofArguments, unasked, quietStands, plainStands]
  cases script with
  | none =>
    have nothing : operands arguments = [] := left.eq_nil
    simp [nothing]
  | some path =>
    have single : operands arguments = [Utf8.encode path.toList] := left.eq_singleton
    have decoded : Utf8.decode? (Utf8.encode path.toList) = some path.toList :=
      Utf8.decode?_eq_some_iff.mpr rfl
    simp [single, decoded]

end MadeOf

end LoxTokens.Plan
