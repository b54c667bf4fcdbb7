import NumericWire.Base10000
import NumericWire.Base10000.Reader
import NumericWire.Binary64
import NumericWire.Binary64.Shortest
import NumericWire.Command
import NumericWire.Command.Arguments
import NumericWire.Command.Line
import NumericWire.Command.Log
import NumericWire.Decimal
import NumericWire.Decimal.Literal
import NumericWire.Decimal.Notation
import NumericWire.Decimal.Value
import NumericWire.Document
import NumericWire.Document.Integer
import NumericWire.Document.Issue
import NumericWire.Document.Sample
import NumericWire.Fault
import NumericWire.Frame
import NumericWire.Frame.Layout
import NumericWire.Json
import NumericWire.Json.Printer
import NumericWire.Json.Reader
import NumericWire.Kind
import NumericWire.Main
import NumericWire.Numeral
import NumericWire.Numeric
import NumericWire.Numeric.OfDecimal
import NumericWire.Numeric.ToDecimal
import NumericWire.Numeric.Value
import NumericWire.Pipeline
import NumericWire.Proofs.Acceptance
import NumericWire.Proofs.Canonical
import NumericWire.Proofs.CommandAnswers
import NumericWire.Proofs.CommandFlags
import NumericWire.Proofs.CommandGrammar
import NumericWire.Proofs.CommandRoutes
import NumericWire.Proofs.DecimalText
import NumericWire.Proofs.Decoding
import NumericWire.Proofs.DigitDivision
import NumericWire.Proofs.DigitReading
import NumericWire.Proofs.DocumentCheck
import NumericWire.Proofs.DocumentParts
import NumericWire.Proofs.DocumentReading
import NumericWire.Proofs.DocumentText
import NumericWire.Proofs.Encoding
import NumericWire.Proofs.FrameEquality
import NumericWire.Proofs.FrameGrammar
import NumericWire.Proofs.FrameInverse
import NumericWire.Proofs.FrameOfDecimal
import NumericWire.Proofs.JsonText
import NumericWire.Proofs.LiteralArguments
import NumericWire.Proofs.Negation
import NumericWire.Proofs.PlaceValue
import NumericWire.Proofs.Reencoding
import NumericWire.Proofs.RoundTrip
import NumericWire.Proofs.WeightGuard
import NumericWire.Settings
import NumericWire.Settings.Environment
import NumericWire.Sign
import NumericWire.Text.Blank
import NumericWire.Text.DecimalDigit
import NumericWire.Text.Hex
import NumericWire.Text.Printable
import NumericWire.Text.Quoted
