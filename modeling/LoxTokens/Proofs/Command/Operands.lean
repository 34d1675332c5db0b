import LoxTokens.Command.Basic
import LoxTokens.Proofs.Command.Arguments
import LoxTokens.Proofs.Output.Wording

/-! What is left of the arguments without their flags decides what the command does. -/

namespace LoxTokens

/-- Where an item stands at most once, taking it out leaves all the other items. -/
theorem erase_eq_filter {α : Type} [BEq α] [LawfulBEq α] {item : α} {items : List α}
    (once : items.count item ≤ 1) : items.erase item = items.filter (· != item) := by
  -- Behind the place where the item is taken out, there is none left to filter out.
  induction items with
  | nil => rfl
  | cons first rest ih =>
    by_cases same : first = item
    · subst same
      have absent : first ∉ rest := by
        rw [List.count_cons_self] at once
        exact List.count_eq_zero.mp (by omega)
      have others : rest.filter (· != first) = rest := by
        rw [List.filter_eq_self]
        intro other member
        simpa using ne_of_mem_of_not_mem member absent
      rw [List.erase_cons_head, List.filter_cons_of_neg (by simp), others]
    · rw [List.count_cons_of_ne same] at once
      rw [List.erase_cons_tail (by simpa using same), ih once,
        List.filter_cons_of_pos (by simpa using same)]

namespace Plan

/-- Whether an argument is a flag of any sort. -/
def isFlag (argument : Argument) : Bool :=
  [flag "-h", flag "--help", flag "--quiet", flag "--no-color"].contains argument

/-- The same arguments with their flags in other places. -/
structure FlagsMoved (arguments moved : List Argument) : Prop where
  perm : arguments.Perm moved
  /-- What is no flag stays in its order. -/
  others : arguments.filter (!isFlag ·) = moved.filter (!isFlag ·)
  /-- A flag that stands there twice would be an operand in the second place. -/
  once : arguments.count (flag "--quiet") ≤ 1 ∧ arguments.count (flag "--no-color") ≤ 1

/-- The first of the operands is no text, or there are others after it. -/
def Unusable (operands : List Argument) : Prop :=
  2 ≤ operands.length ∨ ∃ first ∈ operands.head?, ∀ text, first ≠ Utf8.encode text

section Arguments

variable {arguments moved : List Argument}

/-- A request for help goes before everything else. -/
theorem ofArguments_of_asks (asks : AsksForHelp arguments) : ofArguments arguments = .help := by
  rw [ofArguments, if_pos (any_helpFlags_iff.mpr asks)]

/-- Without a request for help, the plan is read off the operands and the two other flags. -/
theorem ofArguments_of_not_asks (unasked : ¬AsksForHelp arguments) :
    ofArguments arguments =
      match operands arguments with
      | [] => .start (arguments.contains quietFlag) (arguments.contains plainFlag) none
      | script :: unused =>
        match Utf8.decode? script with
        | none => .misuse .notText
        | some path =>
          if unused.isEmpty then
            .start (arguments.contains quietFlag) (arguments.contains plainFlag)
              (some (String.ofList path))
          else .misuse (.unused unused) := by
  have noHelp := any_helpFlags_iff.not.mpr unasked
  rw [ofArguments]
  exact if_neg noHelp

/-- Where no flag stands twice, the operands are whatever is no flag. -/
theorem operands_eq_filter (unasked : ¬AsksForHelp arguments)
    (onceQuiet : arguments.count quietFlag ≤ 1) (oncePlain : arguments.count plainFlag ≤ 1) :
    operands arguments = arguments.filter (!isFlag ·) := by
  -- The second flag stands no more often after the first one has been taken out.
  have onceLeft : (arguments.erase quietFlag).count plainFlag ≤ 1 :=
    Nat.le_trans (List.erase_sublist.count_le plainFlag) oncePlain
  rw [operands, erase_eq_filter onceLeft, erase_eq_filter onceQuiet, List.filter_filter]
  -- Among these arguments, the only flags are the two that are filtered out.
  refine List.filter_congr ?_
  intro argument member
  have short : argument ≠ flag "-h" := by
    rintro rfl
    exact unasked (.inl member)
  have long : argument ≠ flag "--help" := by
    rintro rfl
    exact unasked (.inr member)
  rw [Bool.and_comm]
  simp [isFlag, short, long, quietFlag, plainFlag, bne, beq_eq_decide]

/-- Whether help is asked for does not depend on where. -/
theorem FlagsMoved.asksForHelp_iff (flags : FlagsMoved arguments moved) :
    AsksForHelp moved ↔ AsksForHelp arguments := by
  simp only [AsksForHelp, flags.perm.mem_iff]

/-- Flags may be moved to any other places, and the plan is the same. -/
theorem FlagsMoved.ofArguments_eq (flags : FlagsMoved arguments moved) :
    ofArguments moved = ofArguments arguments := by
  by_cases asks : AsksForHelp arguments
  · rw [ofArguments_of_asks asks, ofArguments_of_asks (flags.asksForHelp_iff.mpr asks)]
  · have unasked : ¬AsksForHelp moved := flags.asksForHelp_iff.not.mpr asks
    obtain ⟨onceQuiet, oncePlain⟩ := flags.once
    have onceQuietMoved : moved.count quietFlag ≤ 1 := by rwa [← flags.perm.count_eq]
    have oncePlainMoved : moved.count plainFlag ≤ 1 := by rwa [← flags.perm.count_eq]
    -- The operands are the arguments that stayed in their order, and the flags are all there.
    have left : operands moved = operands arguments := by
      rw [operands_eq_filter asks onceQuiet oncePlain,
        operands_eq_filter unasked onceQuietMoved oncePlainMoved, flags.others]
    have given (flag : Argument) : moved.contains flag = arguments.contains flag := by
      simp only [List.contains_eq_mem, flags.perm.mem_iff]
    rw [ofArguments_of_not_asks asks, ofArguments_of_not_asks unasked, left, given, given]

/-- Operands that are of no use make the arguments a misuse, and so do no others. -/
theorem exists_misuse_iff (unasked : ¬AsksForHelp arguments) :
    (∃ misuse, ofArguments arguments = .misuse misuse) ↔ Unusable (operands arguments) := by
  rw [ofArguments_of_not_asks unasked, Unusable]
  cases operands arguments with
  | nil => simp
  | cons script unused =>
    cases decoded : Utf8.decode? script with
    | none =>
      simp [decoded, Utf8.ne_encode_of_decode? decoded]
    | some path =>
      have isText : ∃ text, script = Utf8.encode text :=
        ⟨path, (Utf8.decode?_eq_some_iff.mp decoded).symm⟩
      cases unused with
      | nil => simpa [decoded] using isText
      | cons next more => simp [decoded]

end Arguments

end Plan

namespace Command

/-- The session that the flags among some arguments ask for. -/
def sessionFor (around : Surroundings) (arguments : List Argument) : Session :=
  session (arguments.contains (Plan.flag "--quiet"))
    (around.colours.allowed && !arguments.contains (Plan.flag "--no-color"))

/-- What the command leaves behind when a session goes on at the prompt. -/
def prompted (start : Session) (input : Input) : Result :=
  let (result, after) := start.runPrompt input
  finish (result.map fun _ => .success, after)

/-- What some arguments come to when these operands are left of them. -/
structure Decided (arguments operands : List Argument) : Prop where
  /-- A request for help goes before every misuse. -/
  helped : Plan.AsksForHelp arguments → ∀ around, let result := runIn around arguments
    result.outcome.code = 0 ∧ result.output = bytes page ∧ result.errors = []
  /-- After a misuse, nothing of what is around the command makes a difference. -/
  misused : ¬Plan.AsksForHelp arguments → Plan.Unusable operands →
    (∃ misuse, Plan.ofArguments arguments = .misuse misuse) ∧
      ∀ around, let result := runIn around arguments
        result.outcome.code = 64 ∧ result.output = [] ∧ ∀ other, runIn other arguments = result
  talked : ¬Plan.AsksForHelp arguments → operands = [] → ∀ around,
    runIn around arguments = prompted (sessionFor around arguments) around.input
  /-- The name of a script may look like anything, and so may what reading it gives. -/
  scripted : ¬Plan.AsksForHelp arguments → ∀ path, operands = [bytes path] → ∀ around,
    runIn around arguments =
      finish ((sessionFor around arguments).runScript path (around.read path))
  /-- It makes no difference where the flags stand, as long as none stands there twice. -/
  unmoved : ∀ moved, Plan.FlagsMoved arguments moved → ∀ around,
    runIn around moved = runIn around arguments

/-- A plan to help is carried out without a look at anything else. -/
theorem runIn_of_help {arguments : List Argument} (plan : Plan.ofArguments arguments = .help)
    (around : Surroundings) : runIn around arguments = ⟨.success, bytes page, []⟩ := by
  rw [runIn, plan, carryOut, help_eq]

/-- So is one that calls the arguments a misuse. -/
theorem runIn_of_misuse {arguments : List Argument} {misuse : Misuse}
    (plan : Plan.ofArguments arguments = .misuse misuse) (around : Surroundings) :
    runIn around arguments = ⟨.misuse, [], bytes (misuseText misuse)⟩ := by
  rw [runIn, plan, carryOut]

/--
What the command does is decided by the operands that are left of its arguments.

Each of the two flags is taken out where it first stands, so that it is an operand in any second
place. Only then does it matter where flags stand.
-/
theorem decided (arguments : List Argument) : Decided arguments
    ((arguments.erase (Plan.flag "--quiet")).erase (Plan.flag "--no-color")) where
  helped := by
    intro asks around result
    have told : result = ⟨.success, bytes page, []⟩ :=
      runIn_of_help (Plan.ofArguments_of_asks asks) around
    simp only [told, Outcome.code, and_self]
  misused := by
    intro unasked unusable
    obtain ⟨misuse, plan⟩ := (Plan.exists_misuse_iff unasked).mpr unusable
    refine ⟨⟨misuse, plan⟩, ?_⟩
    intro around result
    have told : result = ⟨.misuse, [], bytes (misuseText misuse)⟩ := runIn_of_misuse plan around
    rw [told]
    exact ⟨rfl, rfl, runIn_of_misuse plan⟩
  talked := by
    -- The list of operands is the one that the plan is read off, by the names of its flags.
    intro unasked none around
    have nothing : Plan.operands arguments = [] := none
    rw [runIn, Plan.ofArguments_of_not_asks unasked, nothing]
    rfl
  scripted := by
    intro unasked path single around
    have only : Plan.operands arguments = [bytes path] := single
    have decoded : Utf8.decode? (bytes path) = some path.toList :=
      Utf8.decode?_eq_some_iff.mpr rfl
    rw [runIn, Plan.ofArguments_of_not_asks unasked, only]
    simp only [decoded, List.isEmpty_nil, if_true, String.ofList_toList]
    rfl
  unmoved := by
    intro moved flags around
    rw [runIn, runIn, flags.ofArguments_eq]

/-- A flag in its second place is the name of a script, and one in its third place is too much. -/
example :
    let quiet := bytes "--quiet"
    Plan.ofArguments [quiet, quiet] = .start true false (some "--quiet") ∧
      Plan.ofArguments [quiet, quiet, quiet] = .misuse (.unused [quiet]) := by
  decide +kernel

end Command

end LoxTokens
