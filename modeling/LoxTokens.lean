import LoxTokens.Main
import LoxTokens.Token.Distinct
import LoxTokens.Proofs.Plain.Agreement
import LoxTokens.Proofs.Scan.Hiding
import LoxTokens.Proofs.Scan.Newline
import LoxTokens.Proofs.Scan.Segments
import LoxTokens.Proofs.Piece.Standing
import LoxTokens.Proofs.Scan.Lines
import LoxTokens.Proofs.Scan.Shown
import LoxTokens.Proofs.Scan.Respaced
import LoxTokens.Proofs.Text.Utf8
import LoxTokens.Proofs.Output.Sink
import LoxTokens.Proofs.Session.Input
import LoxTokens.Proofs.Session.Prompt
import LoxTokens.Proofs.Scan.LineEnd
import LoxTokens.Proofs.Scan.Comments
import LoxTokens.Proofs.Scan.Repair
import LoxTokens.Proofs.Session.Script
import LoxTokens.Proofs.Piece.Lexeme
import LoxTokens.Proofs.Token.WellFormed
import LoxTokens.Proofs.Scan.Munch
import LoxTokens.Proofs.Session.Memory
import LoxTokens.Proofs.Session.Steps
import LoxTokens.Proofs.Output.Request
import LoxTokens.Proofs.Output.Accounting
import LoxTokens.Proofs.Output.Log
import LoxTokens.Proofs.Session.Alike
import LoxTokens.Proofs.Command.Arguments
import LoxTokens.Proofs.Command.Result
import LoxTokens.Proofs.Command.Talk
import LoxTokens.Proofs.Session.Program
import LoxTokens.Proofs.Binary64.Magnitude
import LoxTokens.Proofs.Binary64.Nearest
import LoxTokens.Proofs.Binary64.Rounding
import LoxTokens.Proofs.Binary64.Value
import LoxTokens.Proofs.Scan.Numbers
import LoxTokens.Proofs.Binary64.Reader
import LoxTokens.Proofs.Binary64.Layout
import LoxTokens.Proofs.Binary64.Shortest
import LoxTokens.Proofs.Binary64.Written
import LoxTokens.Proofs.Token.Display
import LoxTokens.Proofs.Session.Listing
import LoxTokens.Proofs.Text.LineEnds
import LoxTokens.Proofs.Scan.LineStyle
import LoxTokens.Proofs.Session.Quiet
import LoxTokens.Proofs.Command.Operands
import LoxTokens.Proofs.Output.Reports
import LoxTokens.Proofs.Session.Replaced
import LoxTokens.Proofs.Walk.Safety
import LoxTokens.Proofs.Token.Distinct
