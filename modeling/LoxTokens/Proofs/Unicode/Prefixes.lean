import LoxTokens.Proofs.Grapheme

/-! Characters that come after nothing but prefixes, and so only once in a cluster. -/

namespace LoxTokens

namespace Unicode

/-- A character that joins no cluster, unless that ends in a prefix. -/
def IsLoose (c : Char) : Prop :=
  ∀ last earlier, continuesCluster (last :: earlier) c = true → BreakClass.ofChar last = .prepend

/-- Prefixes are such characters themselves. -/
theorem isLoose_of_prepend {c : Char} (isPrefix : BreakClass.ofChar c = .prepend) :
    IsLoose c := by
  -- Of all classes that can stand before it, only one joins it.
  intro last earlier joined
  cases before : BreakClass.ofChar last <;> simp_all [continuesCluster]

/-- So are ordinary characters that take no part in conjuncts or joined emoji. -/
theorem isLoose_of_other {c : Char} (ordinary : BreakClass.ofChar c = .other)
    (noConsonant : isConsonant c = false) (noPictograph : isPictograph c = false) :
    IsLoose c := by
  -- The rules that look farther back than one character are those of conjuncts and joined emoji.
  intro last earlier joined
  cases before : BreakClass.ofChar last <;> simp_all [continuesCluster]

/-- All that comes before such a character are prefixes. -/
def PrefixesFirst (cluster : List Char) : Prop :=
  ∀ start c finish, cluster = start ++ c :: finish → IsLoose c →
    ∀ earlier ∈ start, BreakClass.ofChar earlier = .prepend

/-- A cluster in which only prefixes come first is such a cluster with one more character. -/
theorem PrefixesFirst.join {before : List Char} {next : Char}
    (first : PrefixesFirst before.reverse) (joined : continuesCluster before next = true) :
    PrefixesFirst (next :: before).reverse := by
  intro start c finish same loose
  rw [List.reverse_cons] at same
  rcases List.eq_nil_or_concat finish with rfl | ⟨init, last, rfl⟩
  · -- The character is the one that joins, so it comes right after a prefix.
    obtain ⟨rfl, rfl⟩ : before.reverse = start ∧ next = c := by simpa using same
    cases before with
    | nil => simp
    | cons last before =>
      have isPrefix := loose last before joined
      rw [List.reverse_cons] at first ⊢
      -- In front of that prefix, there are prefixes only.
      have others := first before.reverse last [] rfl (isLoose_of_prepend isPrefix)
      intro earlier member
      rcases List.mem_append.mp member with inside | isLast
      · exact others earlier inside
      · rwa [List.mem_singleton.mp isLast]
  · -- The character was in the cluster already.
    have within : before.reverse = start ++ c :: init := by
      have both : before.reverse ++ [next] = (start ++ c :: init) ++ [last] := by
        simpa using same
      exact (List.append_inj' both rfl).1
    exact first start c init within loose

/-- One character comes after nothing. -/
theorem prefixesFirst_singleton (c : Char) : PrefixesFirst [c] := by
  intro start d finish same
  cases start with
  | nil => simp
  | cons head start => simp at same

/-- Only prefixes come first in all clusters if they do in the one in hand. -/
theorem prefixesFirst_of_mem_clustersFrom (before : List Char) {text cluster : List Char}
    (first : PrefixesFirst before.reverse) (member : cluster ∈ clustersFrom before text) :
    PrefixesFirst cluster := by
  -- The cluster in hand either grows by a character, or closes and leaves it to the next one.
  induction text generalizing before with
  | nil =>
    obtain rfl : cluster = before.reverse := by simpa [clustersFrom] using member
    exact first
  | cons next rest ih =>
    by_cases joined : continuesCluster before next
    · exact ih (next :: before) (first.join joined) (by simpa [clustersFrom, joined] using member)
    · simp only [clustersFrom, joined, Bool.false_eq_true, if_false, List.mem_cons] at member
      rcases member with rfl | member
      · exact first
      · exact ih [next] (prefixesFirst_singleton next) member

/-- Only prefixes come first in the clusters of a text. -/
theorem prefixesFirst_of_mem_clusters {text cluster : List Char}
    (member : cluster ∈ clusters text) : PrefixesFirst cluster := by
  cases text with
  | nil => simp [clusters] at member
  | cons first rest =>
    exact prefixesFirst_of_mem_clustersFrom [first] (prefixesFirst_singleton first) member

/-- A character that is no prefix itself does not come after another one of its kind. -/
theorem PrefixesFirst.count_le_one {cluster : List Char} (first : PrefixesFirst cluster) {c : Char}
    (loose : IsLoose c) (noPrefix : BreakClass.ofChar c ≠ .prepend) : cluster.count c ≤ 1 := by
  by_cases present : c ∈ cluster
  · obtain ⟨start, finish, rfl, before⟩ := List.eq_append_cons_of_mem present
    have after : c ∉ finish := by
      -- The first one would have to be a prefix for the second.
      intro again
      obtain ⟨between, rest, rfl⟩ := List.append_of_mem again
      have second := first (start ++ c :: between) c rest (by simp) loose
      exact noPrefix (second c (by simp))
    simp [List.count_eq_zero.mpr before, List.count_eq_zero.mpr after]
  · simp [List.count_eq_zero.mpr present]

end Unicode

/-- A part of a cluster that an ASCII head is separated from has no more of a character. -/
theorem sublist_of_mem_separateAscii {cluster : List Char} {grapheme : Grapheme}
    (member : grapheme ∈ separateAscii cluster) : grapheme.Sublist cluster := by
  have inside := List.sublist_flatten_of_mem member
  rwa [flatten_separateAscii] at inside

/-- There are no two replacement characters in one grapheme. -/
theorem count_replacement_le_one {text : List Char} {grapheme : Grapheme}
    (member : grapheme ∈ graphemes text) : grapheme.count '\uFFFD' ≤ 1 := by
  have ordinary : Unicode.BreakClass.ofChar '\uFFFD' = .other := by decide +kernel
  have loose : Unicode.IsLoose '\uFFFD' :=
    Unicode.isLoose_of_other ordinary (by decide +kernel) (by decide +kernel)
  obtain ⟨cluster, found, part⟩ := List.mem_flatMap.mp member
  have once := (Unicode.prefixesFirst_of_mem_clusters found).count_le_one loose (by simp [ordinary])
  exact Nat.le_trans ((sublist_of_mem_separateAscii part).count_le _) once

end LoxTokens
