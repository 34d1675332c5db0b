import LoxTokens.Proofs.Piece.Rules
import LoxTokens.Proofs.Plain.Scanner

/-! What the plain scanner makes of each lexical rule, character by character. -/

namespace LoxTokens.Plain

open Piece (StopsAt takeWhile_append_of_stopsAt dropWhile_append_of_stopsAt)

end LoxTokens.Plain
