import ZyxtLexer.Command.Arguments
import ZyxtLexer.Command.Run
import ZyxtLexer.Config.Basic
import ZyxtLexer.Config.Fetch
import ZyxtLexer.Config.Load
import ZyxtLexer.Decimal.Shortest
import ZyxtLexer.Directory
import ZyxtLexer.Failure
import ZyxtLexer.Json.Fault
import ZyxtLexer.Json.Number
import ZyxtLexer.Json.Skip
import ZyxtLexer.Json.Stream.Basic
import ZyxtLexer.Json.Stream.Number
import ZyxtLexer.Json.Stream.Skip
import ZyxtLexer.Json.Stream.String
import ZyxtLexer.Json.Stream.Value
import ZyxtLexer.Json.String
import ZyxtLexer.Json.Value
import ZyxtLexer.LogFilter.Directive
import ZyxtLexer.LogFilter.Setup
import ZyxtLexer.Main
import ZyxtLexer.Pattern.Basic
import ZyxtLexer.Pattern.Check
import ZyxtLexer.Proofs.Colons
import ZyxtLexer.Proofs.Command
import ZyxtLexer.Proofs.Comments
import ZyxtLexer.Proofs.Concatenation
import ZyxtLexer.Proofs.Config.ByName
import ZyxtLexer.Proofs.Config.RoundTrip
import ZyxtLexer.Proofs.Config.Settings
import ZyxtLexer.Proofs.Config.Sources
import ZyxtLexer.Proofs.Growth
import ZyxtLexer.Proofs.Json.Encoding
import ZyxtLexer.Proofs.Json.Grammar
import ZyxtLexer.Proofs.Json.Quoted
import ZyxtLexer.Proofs.Json.Sound
import ZyxtLexer.Proofs.Json.Strings
import ZyxtLexer.Proofs.Json.Typed
import ZyxtLexer.Proofs.Json.Values
import ZyxtLexer.Proofs.Layout
import ZyxtLexer.Proofs.Losses
import ZyxtLexer.Proofs.Pieces.Basic
import ZyxtLexer.Proofs.Pieces.Fit
import ZyxtLexer.Proofs.Pieces.Outline
import ZyxtLexer.Proofs.Pieces.Refinement
import ZyxtLexer.Proofs.Pieces.RoundTrip
import ZyxtLexer.Proofs.Position
import ZyxtLexer.Proofs.Scanner.Context
import ZyxtLexer.Proofs.Scanner.Invariant
import ZyxtLexer.Proofs.Scanner.Move
import ZyxtLexer.Proofs.Scanner.Reached
import ZyxtLexer.Proofs.Scanner.Reading
import ZyxtLexer.Proofs.Scanner.Step
import ZyxtLexer.Proofs.Spans
import ZyxtLexer.Proofs.Text.Legible
import ZyxtLexer.Proofs.Text.Quoted
import ZyxtLexer.Proofs.Token.Listing
import ZyxtLexer.Render
import ZyxtLexer.Scanner.Basic
import ZyxtLexer.Scanner.Log
import ZyxtLexer.Text.Classes
import ZyxtLexer.Text.Offset
import ZyxtLexer.Text.Quoted
import ZyxtLexer.Token.Basic
import ZyxtLexer.Token.Listing
import ZyxtLexer.Token.Vocabulary
