import LoxTokens.Proofs.Unicode.Cluster

/-! Which ASCII characters are graphemes of their own, and which a prefix takes in. -/

namespace LoxTokens

open Unicode (BreakClass continuesCluster clusters clustersFrom)

/-- An ASCII character right after some text is taken into the grapheme before it. -/
def Hidden (before : List Char) (c : Char) : Prop :=
  -- A prefix takes in whatever follows it, save line ends and other controls.
  BreakClass.ofChar c = .other ∧
    ∃ last, before.getLast? = some last ∧ BreakClass.ofChar last = .prepend

/-- No ASCII character of a text is hidden. -/
def NothingHidden (text : List Char) : Prop :=
  ∀ before c after, text = before ++ c :: after → isAscii c → ¬Hidden before c

/-- A character between two stretches of text is a grapheme of its own. -/
def StandsAlone (before : List Char) (c : Char) (after : List Char) : Prop :=
  -- The graphemes in front of it must make up exactly the text in front of it.
  ∃ left right, graphemes (before ++ c :: after) = left ++ [c] :: right ∧ left.flatten = before

/-- No grapheme of a list is empty, or holds a character of some sort among others. -/
def Apart (sort : Char → Bool) (graphemes : List Grapheme) : Prop :=
  ∀ grapheme ∈ graphemes, grapheme ≠ [] ∧ ∀ c ∈ grapheme, sort c → grapheme = [c]

/-- Some of the graphemes are no less apart than all of them. -/
theorem Apart.of_subset {sort : Char → Bool} {all some : List Grapheme} (apart : Apart sort all)
    (subset : ∀ grapheme ∈ some, grapheme ∈ all) : Apart sort some :=
  fun grapheme member => apart grapheme (subset grapheme member)

/-- A character that is no grapheme of its own does not occur at all. -/
theorem Apart.not_mem_flatten {sort : Char → Bool} {graphemes : List Grapheme}
    (apart : Apart sort graphemes) {c : Char} (sorted : sort c)
    (other : ∀ grapheme ∈ graphemes, grapheme ≠ [c]) : c ∉ graphemes.flatten := by
  -- It would lie in a grapheme, and that grapheme would be the character alone.
  intro found
  obtain ⟨grapheme, member, inside⟩ := List.mem_flatten.mp found
  exact other grapheme member ((apart grapheme member).2 c inside sorted)

/-- A prefix is no ASCII character. -/
theorem not_isAscii_of_prepend {c : Char} (isPrefix : BreakClass.ofChar c = .prepend) :
    isAscii c = false := by
  -- The classes of ASCII characters are four, and this is none of them.
  by_cases ascii : isAscii c
  · exact absurd isPrefix (BreakClass.ofChar_ascii_ne ascii (by decide))
  · simpa using ascii

/-- Nothing hides a newline. -/
theorem not_hidden_newline (before : List Char) : ¬Hidden before '\n' := by
  -- A line end has a class of its own, and prefixes take in ordinary characters only.
  intro hidden
  have ordinary := hidden.1
  contradiction

/-- Nor does anything hide a carriage return. -/
theorem not_hidden_return (before : List Char) : ¬Hidden before '\r' := by
  -- It has a class of its own as well.
  intro hidden
  have ordinary := hidden.1
  contradiction

/-- A character is hidden by the text right before it alone. -/
theorem hidden_append {earlier before : List Char} {c : Char} (present : before ≠ []) :
    Hidden (earlier ++ before) c ↔ Hidden before c := by
  -- Both have the same last character.
  obtain ⟨init, last, rfl⟩ := List.eq_nil_or_concat before |>.resolve_left present
  simp [Hidden]

/-- No grapheme is empty. -/
theorem ne_nil_of_mem_graphemes {text : List Char} {grapheme : Grapheme}
    (member : grapheme ∈ graphemes text) : grapheme ≠ [] := by
  -- A cluster has a character, and separating its head leaves the marks another one.
  obtain ⟨cluster, found, part⟩ := List.mem_flatMap.mp member
  have present := Unicode.ne_nil_of_mem_clusters found
  unfold separateAscii at part
  split at part
  · split at part
    · simp only [List.mem_cons, List.not_mem_nil, or_false] at part
      rcases part with rfl | rfl <;> simp
    · simp_all
  · simp_all

/-- An ASCII character in front of other characters is separated from them. -/
theorem separateAscii_cons {head : Char} {marks : List Char} (ascii : isAscii head)
    (present : marks ≠ []) : separateAscii (head :: marks) = [[head], marks] := by
  cases marks with
  | nil => contradiction
  | cons mark marks => simp [separateAscii, ascii]

/-- A cluster whose head is no ASCII character stays whole. -/
theorem separateAscii_whole {head : Char} {marks : List Char} (beyond : isAscii head = false) :
    separateAscii (head :: marks) = [head :: marks] := by
  cases marks <;> simp [separateAscii, beyond]

/-- No separation cuts right after a character beyond ASCII. -/
theorem separateAscii_append {last : Char} (beyond : isAscii last = false)
    (start rest : List Char) : ∃ left kept,
      separateAscii (start ++ last :: rest) = left ++ [kept ++ last :: rest] ∧
        left.flatten ++ kept = start := by
  -- The only cut there ever is comes right after an ASCII head.
  cases start with
  | nil => exact ⟨[], [], by simp [separateAscii_whole beyond], rfl⟩
  | cons head start =>
    by_cases ascii : isAscii head
    · exact ⟨[[head]], start, by simp [separateAscii_cons ascii], rfl⟩
    · have whole : isAscii head = false := by simpa using ascii
      exact ⟨[], head :: start, by simp [separateAscii_whole whole], rfl⟩

/-- An ASCII character at the start of a text is a grapheme of its own. -/
theorem graphemes_cons_ascii {c : Char} (ascii : isAscii c) (rest : List Char) :
    graphemes (c :: rest) = [c] :: graphemes rest := by
  -- The character heads the first cluster, with or without marks behind it.
  cases rest with
  | nil => rfl
  | cons next rest =>
    by_cases continued : continuesCluster [c] next
    · obtain ⟨first, later, divided, prefixed⟩ :=
        Unicode.clustersFrom_append_ascii [next] rest (by simp) ascii
      have present : first ≠ [] :=
        Unicode.ne_nil_of_mem_clustersFrom [next] (by simp) (by rw [divided]; simp)
      -- What was cut off the ASCII head is not cut again.
      have whole : separateAscii first = [first] := by
        by_cases nextAscii : isAscii next
        · rcases (Unicode.continuesCluster_ascii nextAscii).mp continued with
            ⟨_, rfl⟩ | ⟨isPrefix, _⟩
          · have alone : first = ['\n'] := by
              cases rest <;>
                simp_all [clustersFrom, Unicode.continuesCluster_lineFeed]
            rw [alone]
            rfl
          · simp [not_isAscii_of_prepend isPrefix] at ascii
        · obtain ⟨taken, others, started⟩ := Unicode.clustersFrom_eq_cons [next] rest
          rw [divided, List.cons.injEq] at started
          rw [started.1]
          exact separateAscii_whole (by simpa using nextAscii)
      simp only [List.singleton_append] at prefixed
      simp [graphemes, clusters, clustersFrom, continued, divided, prefixed, whole,
        separateAscii_cons ascii present]
    · simp [graphemes, clusters, clustersFrom, continued, separateAscii]

/-- A text divides at a break between clusters into two texts that are read on their own. -/
theorem graphemes_append {before rest : List Char} {next : Char}
    (breaks : ∀ last, before.getLast? = some last → Unicode.BreaksAfter last next) :
    graphemes (before ++ next :: rest) = graphemes before ++ graphemes (next :: rest) := by
  simp only [graphemes, Unicode.clusters_append breaks, List.flatMap_append]

/-- Only a carriage return and a prefix can take an ASCII character into their cluster. -/
theorem breaksAfter_of_not_hidden {last c : Char} {init : List Char} (ascii : isAscii c)
    (shown : ¬Hidden (init ++ [last]) c) (notLineEnd : ¬(last = '\r' ∧ c = '\n')) :
    Unicode.BreaksAfter last c := by
  -- An ASCII character is joined to the one before it in two ways only.
  intro earlier
  rw [← Bool.not_eq_true, Unicode.continuesCluster_ascii ascii]
  rintro (lineEnd | ⟨isPrefix, ordinary⟩)
  · exact notLineEnd lineEnd
  · exact shown ⟨ordinary, last, by simp, isPrefix⟩

/-- Around an ASCII character that nothing hides, a text is read in two halves. -/
theorem graphemes_append_ascii {before : List Char} {c : Char} (ascii : isAscii c)
    (shown : ¬Hidden before c) (after : List Char) :
    graphemes (before ++ c :: after) = graphemes before ++ [c] :: graphemes after := by
  -- There is a break in front of the character, unless it ends a line after a return.
  cases ended : before.getLast? with
  | none =>
    obtain rfl := List.getLast?_eq_none_iff.mp ended
    exact graphemes_cons_ascii ascii after
  | some last =>
    obtain ⟨init, rfl⟩ := List.getLast?_eq_some_iff.mp ended
    by_cases lineEnd : last = '\r' ∧ c = '\n'
    · -- The cluster of both characters is cut where its ASCII head ends.
      obtain ⟨rfl, rfl⟩ := lineEnd
      have breaks : ∀ earlier, init.getLast? = some earlier → Unicode.BreaksAfter earlier '\r' := by
        intro earlier _ before
        rw [← Bool.not_eq_true, Unicode.continuesCluster_ascii rfl]
        rintro (⟨_, same⟩ | ⟨_, ordinary⟩) <;> contradiction
      rw [List.append_assoc, List.singleton_append, graphemes_append breaks,
        graphemes_append breaks, graphemes_cons_ascii rfl, graphemes_cons_ascii rfl,
        graphemes_cons_ascii rfl]
      simp [graphemes, clusters]
    · rw [graphemes_append, graphemes_cons_ascii ascii]
      intro other found
      obtain rfl : last = other := by simpa using found
      exact breaksAfter_of_not_hidden ascii shown lineEnd

/-- A hidden character is in the grapheme of the prefix that hides it. -/
theorem exists_grapheme_of_hidden {before : List Char} {c : Char} (hidden : Hidden before c)
    (after : List Char) : ∃ left start finish right,
      graphemes (before ++ c :: after) = left ++ (start ++ c :: finish) :: right ∧
        left.flatten ++ start = before ∧ start ≠ [] := by
  -- The prefix and the character lie in one cluster, and no cut comes between them.
  obtain ⟨ordinary, last, found, isPrefix⟩ := hidden
  obtain ⟨init, rfl⟩ := List.getLast?_eq_some_iff.mp found
  obtain ⟨earlier, start, finish, later, divided, covered⟩ :=
    Unicode.exists_cluster_of_joined init after
      (Unicode.continuesCluster_prepend isPrefix ordinary)
  -- The prefix is no ASCII head, so the cluster is not cut between the two.
  obtain ⟨left, kept, separated, same⟩ :=
    separateAscii_append (not_isAscii_of_prepend isPrefix) start (c :: finish)
  refine ⟨earlier.flatMap separateAscii ++ left, kept ++ [last], finish,
    later.flatMap separateAscii, ?_, ?_, by simp⟩
  · simp [graphemes, divided, separated]
  · simp [flatten_flatMap_separateAscii, ← covered, ← same]

/-- Two graphemes of one list that hold the same place of the text are the same one. -/
theorem eq_of_same_place {left right left' right' : List Grapheme} {grapheme grapheme' : Grapheme}
    {start start' : List Char}
    (same : left ++ grapheme :: right = left' ++ grapheme' :: right')
    (place : left.flatten ++ start = left'.flatten ++ start')
    (inside : start.length < grapheme.length) (inside' : start'.length < grapheme'.length) :
    left = left' ∧ grapheme = grapheme' := by
  -- One list of graphemes in front is the start of the other, and can lack nothing of it.
  have measured := congrArg List.length place
  simp only [List.length_append] at measured
  rcases List.append_eq_append_iff.mp same with ⟨between, longer, rest⟩ | ⟨between, longer, rest⟩
  all_goals
    cases between with
    | nil => simp_all
    | cons first more =>
      -- The whole of the one grapheme would stand before the place that both hold.
      obtain ⟨rfl, _⟩ := List.cons.inj rest
      simp only [longer, List.flatten_append, List.flatten_cons, List.length_append] at measured
      omega

/-- An ASCII character is a grapheme of its own exactly when nothing hides it. -/
theorem standsAlone_iff {before after : List Char} {c : Char} (ascii : isAscii c) :
    StandsAlone before c after ↔ ¬Hidden before c := by
  -- A hidden character shares its place with the prefix, and a shown one is cut off alone.
  constructor
  · intro alone hidden
    obtain ⟨left, right, divided, covered⟩ := alone
    obtain ⟨left', start, finish, right', divided', covered', present⟩ :=
      exists_grapheme_of_hidden hidden after
    have place : left.flatten ++ [] = left'.flatten ++ start := by simp [covered, covered']
    obtain ⟨_, same⟩ := eq_of_same_place (divided.symm.trans divided') place (by simp) (by simp)
    cases start with
    | nil => contradiction
    | cons head start => simp at same
  · intro shown
    exact ⟨graphemes before, graphemes after, graphemes_append_ascii ascii shown after,
      flatten_graphemes before⟩

/-- In a grapheme of more than one character, every ASCII character is hidden by a prefix. -/
theorem eq_singleton_or_hidden {text start finish : List Char} {c : Char}
    (member : start ++ c :: finish ∈ graphemes text) (ascii : isAscii c) :
    (start = [] ∧ finish = []) ∨ Hidden start c := by
  -- The character is hidden in the whole text, or else that text is read around it.
  obtain ⟨left, right, divided⟩ := List.append_of_mem member
  have placed : text = (left.flatten ++ start) ++ c :: (finish ++ right.flatten) := by
    rw [← flatten_graphemes text, divided]
    simp
  by_cases hidden : Hidden (left.flatten ++ start) c
  · obtain ⟨left', start', finish', right', divided', covered', present⟩ :=
      exists_grapheme_of_hidden hidden (finish ++ right.flatten)
    rw [← placed] at divided'
    obtain ⟨rfl, _⟩ := eq_of_same_place (divided.symm.trans divided') covered'.symm
      (by simp) (by simp)
    obtain rfl : start' = start := by simpa using covered'
    exact .inr ((hidden_append present).mp hidden)
  · have divided' := graphemes_append_ascii ascii hidden (finish ++ right.flatten)
    rw [← placed] at divided'
    have place : left.flatten ++ start =
        (graphemes (left.flatten ++ start)).flatten ++ [] := by simp [flatten_graphemes]
    obtain ⟨_, same⟩ := eq_of_same_place (divided.symm.trans divided') place (by simp) (by simp)
    exact .inl (by simpa [List.append_eq_cons_iff] using same)

/-- Where nothing is hidden, a grapheme with an ASCII character is that character. -/
theorem NothingHidden.eq_singleton {text : List Char} (nothing : NothingHidden text)
    {grapheme : Grapheme} (member : grapheme ∈ graphemes text) {c : Char} (found : c ∈ grapheme)
    (ascii : isAscii c) : grapheme = [c] := by
  -- A prefix inside the grapheme would be a prefix before the character in the text.
  obtain ⟨start, finish, rfl⟩ := List.append_of_mem found
  rcases eq_singleton_or_hidden member ascii with ⟨rfl, rfl⟩ | hidden
  · rfl
  · obtain ⟨left, right, divided⟩ := List.append_of_mem member
    have placed : text = (left.flatten ++ start) ++ c :: (finish ++ right.flatten) := by
      rw [← flatten_graphemes text, divided]
      simp
    have present : start ≠ [] := by
      intro empty
      subst empty
      simp [Hidden] at hidden
    exact absurd ((hidden_append present).mpr hidden) (nothing _ c _ placed ascii)

/-- Where nothing is hidden, the ASCII characters are graphemes of their own. -/
theorem NothingHidden.apart {text : List Char} (nothing : NothingHidden text) :
    Apart isAscii (graphemes text) :=
  fun _ member => ⟨ne_nil_of_mem_graphemes member, fun _ => nothing.eq_singleton member⟩

/-- ASCII characters that nothing can hide are always graphemes of their own. -/
theorem apart_of_not_hidden {sort : Char → Bool} (ascii : ∀ c, sort c = true → isAscii c = true)
    (shown : ∀ c, sort c = true → ∀ before, ¬Hidden before c) (text : List Char) :
    Apart sort (graphemes text) := by
  intro grapheme member
  refine ⟨ne_nil_of_mem_graphemes member, ?_⟩
  intro c found sorted
  obtain ⟨start, finish, rfl⟩ := List.append_of_mem found
  rcases eq_singleton_or_hidden member (ascii c sorted) with ⟨rfl, rfl⟩ | hidden
  · rfl
  · exact absurd hidden (shown c sorted start)

/-- Newlines are always graphemes of their own. -/
theorem newlines_apart (text : List Char) : Apart (· = '\n') (graphemes text) := by
  -- Of all ASCII characters, a newline is one that nothing can hide.
  refine apart_of_not_hidden ?_ ?_ text
  · intro c newline
    obtain rfl : c = '\n' := by simpa using newline
    rfl
  · intro c newline
    obtain rfl : c = '\n' := by simpa using newline
    exact not_hidden_newline

/-- A character that a text does not hold is none of its graphemes. -/
theorem ne_singleton_of_mem_graphemes {text : List Char} {c : Char} (absent : c ∉ text) :
    ∀ grapheme ∈ graphemes text, grapheme ≠ [c] := by
  rintro grapheme member rfl
  have inside : c ∈ (graphemes text).flatten :=
    List.mem_flatten.mpr ⟨[c], member, List.mem_singleton_self c⟩
  rw [flatten_graphemes] at inside
  exact absent inside

/-- The last grapheme of a text is no character but its last one. -/
theorem getLast?_graphemes_ne {text : List Char} {c : Char} (other : text.getLast? ≠ some c) :
    (graphemes text).getLast? ≠ some [c] := by
  intro last
  obtain ⟨init, read⟩ := List.getLast?_eq_some_iff.mp last
  have same := flatten_graphemes text
  rw [read] at same
  exact other (by simp [← same])

end LoxTokens
