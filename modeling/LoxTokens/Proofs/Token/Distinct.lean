import LoxTokens.Token.Distinct
import Mathlib.Data.Finset.Card
import Mathlib.Data.List.Nodup

/-! Equality of tokens is fit for sets: it is an equivalence, and a set counts its classes. -/

namespace LoxTokens

/-- Values coincide when they are one case, and hold the same: of a number, the same bits. -/
inductive Literal.Coincide : Literal → Literal → Prop
  | absent : Coincide .absent .absent
  | number {left right : Binary64} :
    left.bits = right.bits → Coincide (.number left) (.number right)
  | string {left right : String} : left = right → Coincide (.string left) (.string right)

/-- Values coincide exactly when they are equal. -/
theorem Literal.coincide_iff {left right : Literal} : left.Coincide right ↔ left = right := by
  constructor
  · intro coincide
    cases coincide with
    | absent => rfl
    | @number left right bits =>
      cases left
      cases right
      exact congrArg (fun bits => Literal.number ⟨bits⟩) bits
    | string same => rw [same]
  · rintro rfl
    cases left with
    | absent => exact .absent
    | number value => exact .number rfl
    | string contents => exact .string rfl

/-- Values that feed the same are equal. -/
theorem Literal.fed_injective : Function.Injective fed := by
  -- The cases are different, and what comes behind them is all that a value holds.
  intro left right same
  apply coincide_iff.mp
  cases left <;> cases right <;> simp [fed] at same
  · exact .absent
  · exact .number same
  · exact .string same

namespace Token

/-- Tokens count as the same exactly when they feed the same. -/
theorem beq_iff_fed {left right : Token} : (left == right) = true ↔ left.fed = right.fed := by
  -- Kinds, lexemes and values are each told apart by their writes.
  rw [beq_iff_identity]
  simp only [identity, fed, Prod.mk.injEq, List.cons.injEq, Fed.position.injEq, Fed.text.injEq,
    Literal.fed_injective.eq_iff, List.idxOf_inj (Kind.mem_all _)]

-- A number that is not one counts as the same as itself, and zeros of either sign do not.
example : (⟨.number, "0", .number ⟨0x7FF8000000000001⟩, 1⟩ : Token) ==
    ⟨.number, "0", .number ⟨0x7FF8000000000001⟩, 2⟩ := by decide

example : (⟨.number, "0", .number ⟨0⟩, 1⟩ : Token) !=
    ⟨.number, "0", .number ⟨0x8000000000000000⟩, 1⟩ := by decide

/-- Counting as the same is an equivalence. -/
theorem equivalence : Equivalence fun left right : Token => (left == right) = true where
  refl _ := beq_iff_identity.mpr rfl
  symm same := beq_iff_identity.mpr (beq_iff_identity.mp same).symm
  trans first second :=
    beq_iff_identity.mpr ((beq_iff_identity.mp first).trans (beq_iff_identity.mp second))

instance : EquivBEq Token where
  rfl := equivalence.refl _
  symm := equivalence.symm
  trans := equivalence.trans

instance : LawfulHashable Token where
  hash_eq left right same := by
    show hash left.fed = hash right.fed
    rw [beq_iff_fed.mp same]

/-- Tokens that count as the same are in one class. -/
instance setoid : Setoid Token := ⟨_, equivalence⟩

instance (left right : Token) : Decidable (left ≈ right) :=
  inferInstanceAs (Decidable ((left == right) = true))

/-- The classes that the tokens of a list are in. -/
def classes (tokens : List Token) : Finset (Quotient setoid) :=
  (tokens.map (Quotient.mk setoid)).toFinset

/-- A class is that of some token of a list exactly when one of them counts as the same. -/
theorem mk_mem_classes {tokens : List Token} {token : Token} :
    Quotient.mk setoid token ∈ classes tokens ↔ tokens.any (· == token) = true := by
  simp only [classes, List.mem_toFinset, List.mem_map, List.any_eq_true]
  exact exists_congr fun other => and_congr_right fun _ => Quotient.eq

/-- One more token adds its class, unless it is there already. -/
theorem card_classes_concat (tokens : List Token) (token : Token) :
    (classes (tokens ++ [token])).card =
      if tokens.any (· == token) then (classes tokens).card else (classes tokens).card + 1 := by
  have grown : classes (tokens ++ [token]) = insert (Quotient.mk setoid token) (classes tokens) := by
    ext entry
    simp [classes]
  rw [grown, Finset.card_insert_eq_ite]
  exact if_congr mk_mem_classes rfl rfl

/-- A set holds the tokens that were inserted into it: it knows their classes, and their number. -/
structure Holds (held : Std.HashSet Token) (inserted : List Token) : Prop where
  contains : ∀ token, held.contains token = inserted.any (· == token)
  size : held.size = (classes inserted).card

/-- A set holds nothing at first. -/
theorem holds_empty : Holds ∅ [] := ⟨by simp, rfl⟩

/-- A set goes on to hold what is inserted into it. -/
theorem Holds.insert {held : Std.HashSet Token} {inserted : List Token}
    (holds : Holds held inserted) (token : Token) :
    Holds (held.insert token) (inserted ++ [token]) where
  contains other := by
    simp [Std.HashSet.contains_insert, holds.contains, Bool.or_comm]
  size := by
    have member : token ∈ held ↔ inserted.any (· == token) = true := by
      rw [← holds.contains token]
      rfl
    rw [Std.HashSet.size_insert, card_classes_concat, holds.size]
    exact if_congr member rfl rfl

/-- What the arrival of a token shows, after some others arrived. -/
def arrivalAfter (earlier : List Token) (token : Token) : Arrival :=
  ⟨!earlier.any (· == token), (classes (earlier ++ [token])).card⟩

/-- The arrivals at a set are read off the tokens that arrived before. -/
theorem arrivalsAt_eq {held : Std.HashSet Token} {inserted : List Token}
    (holds : Holds held inserted) (tokens : List Token) (index : Nat) :
    (arrivalsAt held tokens)[index]? =
      (tokens[index]?).map (arrivalAfter (inserted ++ tokens.take index)) := by
  -- Every token that arrives is held when the next one does.
  induction tokens generalizing held inserted index with
  | nil => rfl
  | cons token later ih =>
    have grown := holds.insert token
    simp only [arrivalsAt, Std.HashSet.containsThenInsert_fst, Std.HashSet.containsThenInsert_snd]
    cases index with
    | zero => simp [arrivalAfter, holds.contains, grown.size]
    | succ index => simpa using ih grown index

/-- Every token arrives once. -/
theorem length_arrivalsAt (held : Std.HashSet Token) (tokens : List Token) :
    (arrivalsAt held tokens).length = tokens.length := by
  induction tokens generalizing held with
  | nil => rfl
  | cons token later ih => simp [arrivalsAt, ih]

/-- A token shows what arrived before it at a set that was empty. -/
theorem arrivals_append (earlier later : List Token) (token : Token) :
    (arrivals (earlier ++ token :: later))[earlier.length]? =
      some (arrivalAfter earlier token) := by
  rw [arrivals, arrivalsAt_eq holds_empty]
  simp

/-- How many tokens a set holds once all of a list have arrived. -/
def finalSize (tokens : List Token) : Nat :=
  -- The last arrival shows it, if there is one.
  ((arrivals tokens).getLast?.map Arrival.distinct).getD 0

/-- In the end a set holds one token of each class. -/
theorem finalSize_eq (tokens : List Token) : finalSize tokens = (classes tokens).card := by
  cases tokens using List.reverseRecOn with
  | nil => rfl
  | append_singleton earlier last =>
    have place : (arrivals (earlier ++ [last])).length - 1 = earlier.length := by
      rw [arrivals, length_arrivalsAt, List.length_append, List.length_singleton,
        Nat.add_sub_cancel]
    rw [finalSize, List.getLast?_eq_getElem?, place, arrivals_append]
    rfl

/-- The order of tokens does not matter to their classes. -/
theorem classes_eq_of_perm {tokens order : List Token} (same : order.Perm tokens) :
    classes order = classes tokens :=
  List.toFinset_eq_of_perm _ _ (same.map _)

/-- What makes tokens fit for sets, and what the sets then show. -/
structure FitForSets : Prop where
  /-- Counting as the same is reflexive, symmetric and transitive. -/
  equivalence : Equivalence fun left right : Token => (left == right) = true
  /-- Lines are not looked at. -/
  lines : ∀ (left right : Token) (leftLine rightLine : Nat),
    ({ left with line := leftLine } == { right with line := rightLine }) = (left == right)
  /-- Kind, lexeme and value are, and nothing else. -/
  parts : ∀ left right : Token, (left == right) = true ↔
    left.kind = right.kind ∧ left.lexeme = right.lexeme ∧ left.literal.Coincide right.literal
  /-- Tokens that count as the same feed a hasher with the same writes. -/
  feeds : ∀ left right : Token, (left == right) = true ↔ left.fed = right.fed
  /-- What is fed decides the hash. -/
  hashes : ∀ left right : Token, left.fed = right.fed → hash left = hash right
  /-- Every insertion is reported, and as new when no earlier token counts as the same. -/
  news : ∀ (earlier later : List Token) (token : Token),
    ∃ arrival, (arrivals (earlier ++ token :: later))[earlier.length]? = some arrival ∧
      (arrival.isNew = true ↔ ∀ other ∈ earlier, ¬(other == token) = true)
  /-- In whatever order tokens are inserted, a set ends with as many as they have classes. -/
  sizes : ∀ tokens order : List Token, order.Perm tokens → finalSize order = (classes tokens).card

/-- Tokens are fit for sets, whatever they are made of. -/
theorem fitForSets : FitForSets where
  equivalence := equivalence
  lines _ _ _ _ := rfl
  parts left right := by
    rw [beq_iff_identity, Literal.coincide_iff]
    simp only [identity, Prod.mk.injEq]
  feeds _ _ := beq_iff_fed
  hashes _ _ same := LawfulHashable.hash_eq _ _ (beq_iff_fed.mpr same)
  news earlier later token := by
    refine ⟨_, arrivals_append earlier later token, ?_⟩
    simp [arrivalAfter]
  sizes tokens order same := by
    rw [finalSize_eq, classes_eq_of_perm same]

end Token

end LoxTokens
