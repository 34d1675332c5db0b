import LoxTokens.Unicode.BreakClass

/-! Extended grapheme clusters: the boundary rules of Unicode 17 and the division they give. -/

namespace LoxTokens.Unicode

/-- Whether the characters before a boundary, last first, end in a linked consonant. -/
def endsInLinkedConsonant (before : List Char) : Bool :=
  (before.takeWhile isConjunctMark).any isLinker &&
    (before.dropWhile isConjunctMark).head?.any isConsonant

/-- Whether the characters before a boundary, last first, end in a pictograph and a joiner. -/
def endsInJoinedPictograph : List Char → Bool
  | [] => false
  | last :: earlier =>
    BreakClass.ofChar last = .joiner &&
      (earlier.dropWhile (BreakClass.ofChar · = .extend)).head?.any isPictograph

/-- Whether the characters before a boundary, last first, end in an indicator without a partner. -/
def endsInLoneRegional (before : List Char) : Bool :=
  (before.takeWhile (BreakClass.ofChar · = .regional)).length % 2 = 1

/--
Whether a character belongs to the cluster whose characters so far, last first, are `before`.

Every rule that looks farther back than one character stays inside the cluster it extends.
-/
def continuesCluster : List Char → Char → Bool
  | [], _ => false
  | last :: earlier, next =>
    match BreakClass.ofChar last, BreakClass.ofChar next with
    -- A line end of two characters is one cluster, and any other control stands alone.
    | .carriageReturn, .lineFeed => true
    | .carriageReturn, _ | .lineFeed, _ | .control, _ => false
    | _, .carriageReturn | _, .lineFeed | _, .control => false
    -- A Hangul syllable is a run of leads, then vowels, then tails.
    | .hangulLead, .hangulLead | .hangulLead, .hangulVowel => true
    | .hangulLead, .hangulOpen | .hangulLead, .hangulClosed => true
    | .hangulOpen, .hangulVowel | .hangulOpen, .hangulTail => true
    | .hangulVowel, .hangulVowel | .hangulVowel, .hangulTail => true
    | .hangulClosed, .hangulTail | .hangulTail, .hangulTail => true
    -- Marks stay with what they mark, and prefixes with what they precede.
    | _, .extend | _, .joiner | _, .spacingMark => true
    | .prepend, _ => true
    -- Flags are pairs of regional indicators.
    | .regional, .regional => endsInLoneRegional (last :: earlier)
    -- Conjuncts and joined emoji are the clusters that continue with an ordinary character.
    | _, .other =>
      isConsonant next && endsInLinkedConsonant (last :: earlier) ||
        isPictograph next && endsInJoinedPictograph (last :: earlier)
    | _, _ => false

/-- The clusters of a text of which the first one already holds `before`, last character first. -/
def clustersFrom (before : List Char) : List Char → List (List Char)
  | [] => [before.reverse]
  | next :: rest =>
    if continuesCluster before next then clustersFrom (next :: before) rest
    else before.reverse :: clustersFrom [next] rest

/-- The extended grapheme clusters of a text, in order. -/
def clusters : List Char → List (List Char)
  | [] => []
  | first :: rest => clustersFrom [first] rest

/-- Dividing a text that continues a cluster keeps every character. -/
theorem flatten_clustersFrom (before text : List Char) :
    (clustersFrom before text).flatten = before.reverse ++ text := by
  -- The cluster in hand grows or closes, so it stays quantified over.
  induction text generalizing before with
  | nil => simp [clustersFrom]
  | cons next rest ih => by_cases continued : continuesCluster before next <;>
      simp [clustersFrom, continued, ih]

/-- The clusters of a text, read one after another, are the text. -/
theorem flatten_clusters (text : List Char) : (clusters text).flatten = text := by
  cases text with
  | nil => rfl
  | cons first rest => simp [clusters, flatten_clustersFrom]

end LoxTokens.Unicode
