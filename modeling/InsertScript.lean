import InsertScript.Unicode.Case
import InsertScript.Unicode.Blank
import InsertScript.Unicode.Digit
import InsertScript.Unicode.Printable
import InsertScript.Unicode.Word
import InsertScript.Text.Quoted
import InsertScript.Text.Trimmed
import InsertScript.Numeral.Grouped
import InsertScript.Numeral.Integer
import InsertScript.Numeral.Decimal
import InsertScript.Numeral.Binary64
import InsertScript.Text.Reader
import InsertScript.FileSystem.Tree
import InsertScript.Time.Parts
import InsertScript.Time.Pattern
import InsertScript.Uuid
import InsertScript.Content
import InsertScript.Value.Json
import InsertScript.Value.Made
import InsertScript.Column
import InsertScript.Identifier
import InsertScript.Variant
import InsertScript.Settings
import InsertScript.Export.Cell
import InsertScript.Export.Flow
import InsertScript.Export.Script
import InsertScript.Source.Csv
import InsertScript.Source.Growing
import InsertScript.Source.Iteration
import InsertScript.Source.Query
import InsertScript.Source.Table
import InsertScript.OutputFile
import InsertScript.Summary
import InsertScript.Configuration
import InsertScript.CommandLine.Arguments
import InsertScript.CommandLine.Program
import InsertScript.Main
import InsertScript.Proofs.Steps
import InsertScript.Proofs.Writing
import InsertScript.Proofs.Layout
import InsertScript.Proofs.Streaming
import InsertScript.Proofs.Cancellation
import InsertScript.Proofs.Reading
import InsertScript.Proofs.Names
import InsertScript.Proofs.Cells
import InsertScript.Proofs.Keywords
import InsertScript.Proofs.Statements
import InsertScript.Proofs.RoundTrip
import InsertScript.Proofs.Delimiters
import InsertScript.Proofs.FromClauses
import InsertScript.Proofs.QueryFronts
import InsertScript.Proofs.QueryTables
import InsertScript.Proofs.DottedNames
import InsertScript.Proofs.BareNames
import InsertScript.Proofs.Schemas
import InsertScript.Proofs.Releases
import InsertScript.Proofs.Tuples
import InsertScript.Proofs.Connections
import InsertScript.Proofs.Lexemes
import InsertScript.Proofs.Figures
import InsertScript.Proofs.Literals
import InsertScript.Proofs.Rows
import InsertScript.Proofs.LargeObjects
import InsertScript.Proofs.Thresholds
import InsertScript.Proofs.DelimitedCells
import InsertScript.Proofs.Executions
import InsertScript.Proofs.Transactions
import InsertScript.Proofs.Relinquishing
import InsertScript.Proofs.Files
import InsertScript.Proofs.Paths
import InsertScript.Proofs.InMemory
import InsertScript.Proofs.OutputFiles
import InsertScript.Proofs.ExitCodes
import InsertScript.Proofs.StoredTexts
import InsertScript.Proofs.Payloads
import InsertScript.Proofs.Shown
import InsertScript.Proofs.Displays
import InsertScript.Proofs.AcceptedProperties
import InsertScript.Proofs.Cursors
import InsertScript.Proofs.ExactNumbers
import InsertScript.Proofs.Sessions
import InsertScript.Proofs.StandardTimes
import InsertScript.Proofs.Lines
import InsertScript.Proofs.Widths
import InsertScript.Proofs.FileNames
