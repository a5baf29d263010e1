import Calculator.Calendar.Date
import Calculator.Calendar.Moment
import Calculator.Calendar.Reading
import Calculator.Command
import Calculator.CommandLine
import Calculator.Console
import Calculator.Conversion
import Calculator.Decimal
import Calculator.Decimal.Notation
import Calculator.Decimal.Reading
import Calculator.Decimal.Shortest
import Calculator.Display
import Calculator.Double
import Calculator.Double.Arithmetic
import Calculator.Double.Elementary
import Calculator.Environment
import Calculator.Expression.Error
import Calculator.Expression.Evaluation
import Calculator.Expression.Groups
import Calculator.Expression.Token
import Calculator.Expression.Tree
import Calculator.History.Entry
import Calculator.History.Folder
import Calculator.History.Listing
import Calculator.History.Store
import Calculator.Interactive
import Calculator.Json
import Calculator.Json.Reading
import Calculator.Json.Writing
import Calculator.Main
import Calculator.Memory
import Calculator.Path
import Calculator.Proofs.Calendar.ReadBack
import Calculator.Proofs.Command.Effects
import Calculator.Proofs.Command.Ledger
import Calculator.Proofs.Command.Listing
import Calculator.Proofs.Command.Recording
import Calculator.Proofs.Console
import Calculator.Proofs.Conversion.Faithful
import Calculator.Proofs.Conversion.Range
import Calculator.Proofs.Decimal.Leading
import Calculator.Proofs.Decimal.Lossless
import Calculator.Proofs.Decimal.Notation
import Calculator.Proofs.Decimal.ReadBack
import Calculator.Proofs.Decimal.Values
import Calculator.Proofs.Display
import Calculator.Proofs.Double.Accuracy
import Calculator.Proofs.Double.Bounds
import Calculator.Proofs.Double.Rational
import Calculator.Proofs.Double.Remainder
import Calculator.Proofs.Double.Rounding
import Calculator.Proofs.Double.Signs
import Calculator.Proofs.Expression.Caret
import Calculator.Proofs.Expression.Continuation
import Calculator.Proofs.Expression.Decomposition
import Calculator.Proofs.Expression.Derivation
import Calculator.Proofs.Expression.FirstError
import Calculator.Proofs.Expression.Grammar
import Calculator.Proofs.Expression.LeadingMinus
import Calculator.Proofs.Expression.LeadingZeros
import Calculator.Proofs.Expression.Numerals
import Calculator.Proofs.Expression.Outcome
import Calculator.Proofs.Expression.Relocation
import Calculator.Proofs.Expression.Scanning
import Calculator.Proofs.Expression.Slots
import Calculator.Proofs.Expression.Spacing
import Calculator.Proofs.Expression.Subexpressions
import Calculator.Proofs.Expression.Values
import Calculator.Proofs.Expression.Walk
import Calculator.Proofs.History.Appending
import Calculator.Proofs.History.Changes
import Calculator.Proofs.History.Corruption
import Calculator.Proofs.History.Isolation
import Calculator.Proofs.History.Refusals
import Calculator.Proofs.History.Runs
import Calculator.Proofs.History.Searching
import Calculator.Proofs.History.Storage
import Calculator.Proofs.History.Timestamps
import Calculator.Proofs.Interactive.Lines
import Calculator.Proofs.Interactive.Recall
import Calculator.Proofs.Json.Faults
import Calculator.Proofs.Json.Records
import Calculator.Proofs.Session.Effects
import Calculator.Proofs.Session.Journal
import Calculator.Proofs.Session.LastResult
import Calculator.Proofs.Session.Previews
import Calculator.Proofs.Session.Refusals
import Calculator.Proofs.Session.Reuse
import Calculator.Proofs.Session.Screen
import Calculator.Proofs.Session.Typing
import Calculator.Proofs.Text.Lowercase
import Calculator.Proofs.Text.Utf8
import Calculator.ScientificFunction
import Calculator.Session
import Calculator.Text.Blank
import Calculator.Text.DecimalDigit
import Calculator.Text.Hexadecimal
import Calculator.Text.Lowercase
import Calculator.Text.Occurrence
import Calculator.Text.Printable
import Calculator.Text.Quoted
import Calculator.Text.Ranges
import Calculator.Text.Units
import Calculator.Text.Utf8
import Calculator.Text.Word
