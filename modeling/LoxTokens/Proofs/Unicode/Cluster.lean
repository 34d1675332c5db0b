import LoxTokens.Proofs.Unicode.Ascii

/-! Where the division into clusters is local: breaks that depend on one character alone. -/

namespace LoxTokens.Unicode

/-- Nothing goes on with a cluster after a line feed. -/
theorem continuesCluster_lineFeed (earlier : List Char) (next : Char) :
    continuesCluster ('\n' :: earlier) next = false := by
  -- This rule comes before all that would join marks to what they follow.
  have kind : BreakClass.ofChar '\n' = .lineFeed := rfl
  cases after : BreakClass.ofChar next <;> simp [continuesCluster, kind, after]

/-- A prefix takes in every ordinary character. -/
theorem continuesCluster_prepend {last next : Char} (isPrefix : BreakClass.ofChar last = .prepend)
    (ordinary : BreakClass.ofChar next = .other) (earlier : List Char) :
    continuesCluster (last :: earlier) next = true := by
  simp [continuesCluster, isPrefix, ordinary]

/-- A break before a character, whatever the cluster before it holds besides its last character. -/
def BreaksAfter (last next : Char) : Prop :=
  ∀ earlier, continuesCluster (last :: earlier) next = false

/-- The clusters of a text up to such a break do not depend on what follows it. -/
theorem clustersFrom_append (before : List Char) {text rest : List Char} {next : Char}
    (held : before ≠ [])
    (breaks : ∀ last, (before.reverse ++ text).getLast? = some last → BreaksAfter last next) :
    clustersFrom before (text ++ next :: rest) =
      clustersFrom before text ++ clustersFrom [next] rest := by
  -- The cluster in hand grows or closes, and the last character before the break stays the same.
  induction text generalizing before with
  | nil =>
    cases before with
    | nil => contradiction
    | cons last earlier =>
      have apart := breaks last (by simp) earlier
      simp [clustersFrom, apart]
  | cons first text ih =>
    by_cases continued : continuesCluster before first
    · have grown := ih (first :: before) (by simp) (by simpa using breaks)
      simp [clustersFrom, continued, grown]
    · have closed := ih [first] (by simp) (by simpa using breaks)
      simp [clustersFrom, continued, closed]

/-- A text divides at a break into two texts that are divided on their own. -/
theorem clusters_append {text rest : List Char} {next : Char}
    (breaks : ∀ last, text.getLast? = some last → BreaksAfter last next) :
    clusters (text ++ next :: rest) = clusters text ++ clusters (next :: rest) := by
  -- The first character is the cluster in hand.
  cases text with
  | nil => rfl
  | cons first text => exact clustersFrom_append [first] (by simp) (by simpa using breaks)

/-- The cluster in hand is where the first cluster starts. -/
theorem clustersFrom_eq_cons (before text : List Char) :
    ∃ taken later, clustersFrom before text = (before.reverse ++ taken) :: later := by
  -- It grows by what it takes until it closes for the first time.
  induction text generalizing before with
  | nil => exact ⟨[], [], by simp [clustersFrom]⟩
  | cons next rest ih =>
    by_cases continued : continuesCluster before next
    · obtain ⟨taken, later, divided⟩ := ih (next :: before)
      exact ⟨next :: taken, later, by simp [clustersFrom, continued, divided]⟩
    · exact ⟨[], clustersFrom [next] rest, by simp [clustersFrom, continued]⟩

/-- No cluster is empty when the one in hand is not. -/
theorem ne_nil_of_mem_clustersFrom (before : List Char) {text cluster : List Char}
    (held : before ≠ []) (member : cluster ∈ clustersFrom before text) : cluster ≠ [] := by
  -- A cluster that closes is the one in hand, and the next one starts with a character.
  induction text generalizing before with
  | nil =>
    simp only [clustersFrom, List.mem_singleton] at member
    simpa [member] using held
  | cons next rest ih =>
    by_cases continued : continuesCluster before next
    · exact ih (next :: before) (by simp) (by simpa [clustersFrom, continued] using member)
    · simp only [clustersFrom, continued, Bool.false_eq_true, if_false, List.mem_cons] at member
      rcases member with rfl | member
      · simpa using held
      · exact ih [next] (by simp) member

/-- No cluster of a text is empty. -/
theorem ne_nil_of_mem_clusters {text cluster : List Char} (member : cluster ∈ clusters text) :
    cluster ≠ [] := by
  cases text with
  | nil => simp [clusters] at member
  | cons first rest => exact ne_nil_of_mem_clustersFrom [first] (by simp) member

/-- Looking past a run does not reach a character that stops the run and fails the test. -/
theorem any_head?_dropWhile_append {run test : Char → Bool} {c : Char} (stops : run c = false)
    (fails : test c = false) (before : List Char) :
    ((before ++ [c]).dropWhile run).head?.any test = (before.dropWhile run).head?.any test := by
  -- Either the run ends earlier, or it ends at the appended character and finds nothing there.
  induction before with
  | nil => simp [stops, fails]
  | cons last earlier ih => by_cases running : run last <;> simp [running, ih]

/-- A run does not go past a character that stops it. -/
theorem takeWhile_append_stop {run : Char → Bool} {c : Char} (stops : run c = false)
    (before : List Char) : (before ++ [c]).takeWhile run = before.takeWhile run := by
  induction before with
  | nil => simp [stops]
  | cons last earlier ih => by_cases running : run last <;> simp [running, ih]

/-- Conjuncts do not look past an ASCII character. -/
theorem endsInLinkedConsonant_append_ascii {c : Char} (ascii : isAscii c) (before : List Char) :
    endsInLinkedConsonant (before ++ [c]) = endsInLinkedConsonant before := by
  -- Both the marks and the consonant behind them are looked for past the same characters.
  simp only [endsInLinkedConsonant, takeWhile_append_stop (isConjunctMark_ascii ascii),
    any_head?_dropWhile_append (isConjunctMark_ascii ascii) (isConsonant_ascii ascii)]

/-- Joined emoji do not look past an ASCII character. -/
theorem endsInJoinedPictograph_append_ascii {c : Char} (ascii : isAscii c) (last : Char)
    (earlier : List Char) : endsInJoinedPictograph (last :: (earlier ++ [c])) =
      endsInJoinedPictograph (last :: earlier) := by
  -- The look back skips marks only, and stops at what is not a pictograph.
  have notExtend : BreakClass.ofChar c ≠ .extend :=
    BreakClass.ofChar_ascii_ne ascii (by decide)
  simp [endsInJoinedPictograph, any_head?_dropWhile_append, notExtend, isPictograph_ascii ascii]

/-- Flags do not look past an ASCII character. -/
theorem endsInLoneRegional_append_ascii {c : Char} (ascii : isAscii c) (before : List Char) :
    endsInLoneRegional (before ++ [c]) = endsInLoneRegional before := by
  -- The count is over indicators only.
  have notRegional : BreakClass.ofChar c ≠ .regional :=
    BreakClass.ofChar_ascii_ne ascii (by decide)
  simp [endsInLoneRegional, takeWhile_append_stop, notRegional]

/-- Behind another character, an ASCII one at the start of a cluster joins nothing to it. -/
theorem continuesCluster_append_ascii {before : List Char} {c : Char} (held : before ≠ [])
    (ascii : isAscii c) (next : Char) :
    continuesCluster (before ++ [c]) next = continuesCluster before next := by
  cases before with
  | nil => contradiction
  | cons last earlier =>
    -- The rules that look back farther than one character all stop at an ASCII one.
    have conjunct := endsInLinkedConsonant_append_ascii ascii (last :: earlier)
    have emoji := endsInJoinedPictograph_append_ascii ascii last earlier
    have flag := endsInLoneRegional_append_ascii ascii (last :: earlier)
    simp only [List.cons_append] at conjunct flag
    simp only [List.cons_append, continuesCluster, conjunct, emoji, flag]

/-- An ASCII character at the start of the cluster in hand leaves the division as it is. -/
theorem clustersFrom_append_ascii (before text : List Char) {c : Char} (held : before ≠ [])
    (ascii : isAscii c) : ∃ first later, clustersFrom before text = first :: later ∧
      clustersFrom (before ++ [c]) text = (c :: first) :: later := by
  -- The character stays at the bottom of the cluster in hand, where no rule sees it.
  induction text generalizing before with
  | nil => exact ⟨before.reverse, [], by simp [clustersFrom]⟩
  | cons next rest ih =>
    have agree := continuesCluster_append_ascii held ascii next
    by_cases continued : continuesCluster before next
    · obtain ⟨first, later, divided, prefixed⟩ := ih (next :: before) (by simp)
      exact ⟨first, later, by simp [clustersFrom, continued, divided],
        by simpa [clustersFrom, agree, continued] using prefixed⟩
    · exact ⟨before.reverse, clustersFrom [next] rest, by simp [clustersFrom, continued],
        by simp [clustersFrom, agree, continued]⟩

/-- Two characters that always join lie in one cluster, whichever one is in hand before them. -/
theorem exists_clusterFrom_of_joined (before text rest : List Char) {last next : Char}
    (joined : ∀ earlier, continuesCluster (last :: earlier) next = true) :
    ∃ clustersBefore start finish clustersAfter,
      clustersFrom before (text ++ last :: next :: rest) =
        clustersBefore ++ (start ++ last :: next :: finish) :: clustersAfter ∧
      clustersBefore.flatten ++ start = before.reverse ++ text := by
  -- What comes before the two may close any number of clusters, but not between them.
  induction text generalizing before with
  | nil =>
    by_cases continued : continuesCluster before last
    · obtain ⟨taken, later, divided⟩ := clustersFrom_eq_cons (next :: last :: before) rest
      exact ⟨[], before.reverse, taken, later,
        by simp [clustersFrom, continued, joined, divided], by simp⟩
    · obtain ⟨taken, later, divided⟩ := clustersFrom_eq_cons [next, last] rest
      exact ⟨[before.reverse], [], taken, later,
        by simp [clustersFrom, continued, joined, divided], by simp⟩
  | cons first text ih =>
    by_cases continued : continuesCluster before first
    · obtain ⟨earlier, start, finish, later, divided, covered⟩ := ih (first :: before)
      exact ⟨earlier, start, finish, later, by simp [clustersFrom, continued, divided],
        by simpa using covered⟩
    · obtain ⟨earlier, start, finish, later, divided, covered⟩ := ih [first]
      exact ⟨before.reverse :: earlier, start, finish, later,
        by simp [clustersFrom, continued, divided], by simpa using covered⟩

/-- Two characters that always join lie in one cluster of the text they stand in. -/
theorem exists_cluster_of_joined (text rest : List Char) {last next : Char}
    (joined : ∀ earlier, continuesCluster (last :: earlier) next = true) :
    ∃ clustersBefore start finish clustersAfter,
      clusters (text ++ last :: next :: rest) =
        clustersBefore ++ (start ++ last :: next :: finish) :: clustersAfter ∧
      clustersBefore.flatten ++ start = text := by
  cases text with
  | nil =>
    obtain ⟨taken, later, divided⟩ := clustersFrom_eq_cons [next, last] rest
    exact ⟨[], [], taken, later, by simp [clusters, clustersFrom, joined, divided], rfl⟩
  | cons first text => exact exists_clusterFrom_of_joined [first] text rest joined

end LoxTokens.Unicode
