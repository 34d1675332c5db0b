import LoxTokens.Unicode.Cluster

/-! The units a source text is read in: clusters, with an ASCII head taken off its marks. -/

namespace LoxTokens

/-- A user-perceived character, as the characters that make it up. -/
abbrev Grapheme := List Char

/-- Whether a character is ASCII. -/
def isAscii (c : Char) : Bool := c.toNat < 0x80

/-- An ASCII character at the head of a cluster stands alone, so that no mark can hide it. -/
def separateAscii : List Char → List Grapheme
  | head :: mark :: marks =>
    if isAscii head then [[head], mark :: marks] else [head :: mark :: marks]
  | cluster => [cluster]

/-- The graphemes of a text, in order. -/
def graphemes (text : List Char) : List Grapheme :=
  (Unicode.clusters text).flatMap separateAscii

/-- Separating an ASCII head keeps the characters of the cluster. -/
theorem flatten_separateAscii (cluster : List Char) :
    (separateAscii cluster).flatten = cluster := by
  match cluster with
  | [] | [_] => rfl
  | head :: mark :: marks => by_cases ascii : isAscii head <;> simp [separateAscii, ascii]

/-- Separating the ASCII heads keeps the characters of a list of clusters. -/
theorem flatten_flatMap_separateAscii (clusters : List (List Char)) :
    (clusters.flatMap separateAscii).flatten = clusters.flatten := by
  induction clusters with
  | nil => rfl
  | cons cluster later ih => simp [flatten_separateAscii, ih]

/-- The graphemes of a text, read one after another, are the text. -/
theorem flatten_graphemes (text : List Char) : (graphemes text).flatten = text := by
  -- Each cluster gives back its own characters, and the clusters give back the text.
  rw [graphemes, flatten_flatMap_separateAscii, Unicode.flatten_clusters]

end LoxTokens
