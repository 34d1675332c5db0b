import Std.Data.HashSet
import LoxTokens.Token.Basic

/-! Counting the distinct tokens of a list as they arrive. -/

namespace LoxTokens.Token

/-- What the arrival of a token shows: whether it is new, and how many distinct ones there are. -/
structure Arrival where
  isNew : Bool
  distinct : Nat
  deriving DecidableEq, Repr

/-- The arrivals of a list of tokens at a set that already holds some. -/
def arrivalsAt (held : Std.HashSet Token) : List Token → List Arrival
  | [] => []
  | token :: later =>
    let (present, grown) := held.containsThenInsert token
    ⟨!present, grown.size⟩ :: arrivalsAt grown later

/-- The arrivals of a list of tokens, none of which came before. -/
def arrivals (tokens : List Token) : List Arrival := arrivalsAt ∅ tokens

end LoxTokens.Token
