import SqlBoundary.CommandLine.Flag
import SqlBoundary.CommandLine.Options
import SqlBoundary.CommandLine.Program
import SqlBoundary.CommandLine.Usage
import SqlBoundary.Csv
import SqlBoundary.Dialogue
import SqlBoundary.Duration
import SqlBoundary.Environment
import SqlBoundary.Event
import SqlBoundary.Files
import SqlBoundary.Halt
import SqlBoundary.History
import SqlBoundary.Lex.Comment
import SqlBoundary.Lex.Lexeme
import SqlBoundary.Lex.Literal
import SqlBoundary.Lex.Pattern
import SqlBoundary.Lex.Position
import SqlBoundary.Lex.Search
import SqlBoundary.LineReader
import SqlBoundary.Main
import SqlBoundary.Metacommand
import SqlBoundary.Programs.CharClass
import SqlBoundary.Programs.Filter.Arguments
import SqlBoundary.Programs.Filter.Basic
import SqlBoundary.Programs.Filter.CharacterSet
import SqlBoundary.Programs.Filter.Copy
import SqlBoundary.Programs.Filter.Edit.Reader
import SqlBoundary.Programs.Filter.Edit.Run
import SqlBoundary.Programs.Filter.Edit.Script
import SqlBoundary.Programs.Filter.Exchange
import SqlBoundary.Programs.HistoryFile
import SqlBoundary.Programs.Host
import SqlBoundary.Programs.LetterCase
import SqlBoundary.Programs.Octets
import SqlBoundary.Programs.Regex.Basic
import SqlBoundary.Programs.Regex.Match
import SqlBoundary.Programs.Regex.Reader
import SqlBoundary.Programs.Regex.Token
import SqlBoundary.Programs.Shell.Arithmetic
import SqlBoundary.Programs.Shell.Builtin
import SqlBoundary.Programs.Shell.Decimal
import SqlBoundary.Programs.Shell.Escape
import SqlBoundary.Programs.Shell.Expansion
import SqlBoundary.Programs.Shell.Field
import SqlBoundary.Programs.Shell.Format
import SqlBoundary.Programs.Shell.Grammar
import SqlBoundary.Programs.Shell.Numeral
import SqlBoundary.Programs.Shell.Pattern
import SqlBoundary.Programs.Shell.Reader
import SqlBoundary.Programs.Shell.Run
import SqlBoundary.Programs.Shell.State
import SqlBoundary.Programs.Shell.WordReader
import SqlBoundary.Programs.Stray
import SqlBoundary.Prompt
import SqlBoundary.Report
import SqlBoundary.Session.Command
import SqlBoundary.Session.Help
import SqlBoundary.Session.Outcome
import SqlBoundary.Session.Output
import SqlBoundary.Session.Run
import SqlBoundary.Session.Startup
import SqlBoundary.Settings.Basic
import SqlBoundary.Settings.Variables
import SqlBoundary.SplitPoint
import SqlBoundary.Statement
import SqlBoundary.Text.Basic
import SqlBoundary.Text.Digit
import SqlBoundary.Text.Integer
import SqlBoundary.Text.Lines
import SqlBoundary.Text.Printable
import SqlBoundary.Text.Quoted
import SqlBoundary.Text.Utf8
import SqlBoundary.Words
import SqlBoundary.Proofs.Scan.Machine
import SqlBoundary.Proofs.Scan.Position
import SqlBoundary.Proofs.Scan.Simulation
import SqlBoundary.Proofs.Lex.Boundary
import SqlBoundary.Proofs.Scan.Restart
import SqlBoundary.Proofs.Lex.Nesting
import SqlBoundary.Proofs.Scan.WellFormed
import SqlBoundary.Proofs.Lex.Growth
import SqlBoundary.Proofs.Scan.Growth
import SqlBoundary.Proofs.Lex.Context
import SqlBoundary.Proofs.Scan.Context
import SqlBoundary.Proofs.Text.Trim
import SqlBoundary.Proofs.Metacommand.Grammar
import SqlBoundary.Proofs.Scan.Margin
import SqlBoundary.Proofs.Scan.Separator
import SqlBoundary.Proofs.Statement.Slice
import SqlBoundary.Proofs.Scan.Shape
import SqlBoundary.Proofs.Statement.Alone
import SqlBoundary.Proofs.Statement.Strip
import SqlBoundary.Proofs.Statement.Join
import SqlBoundary.Proofs.Statement.Reread
import SqlBoundary.Proofs.Statement.Content
import SqlBoundary.Proofs.Statement.Comment
import SqlBoundary.Proofs.Statement.Quoting
import SqlBoundary.Proofs.Statement.Complete
import SqlBoundary.Proofs.Prompt.Pass
import SqlBoundary.Proofs.Dialogue.Enter
import SqlBoundary.Proofs.Session.Step
import SqlBoundary.Proofs.Session.Failure
import SqlBoundary.Proofs.Report.RoundTrip
import SqlBoundary.Proofs.Report.Csv
import SqlBoundary.Proofs.Session.Guise
import SqlBoundary.Proofs.Session.Quiet
import SqlBoundary.Proofs.Files.Tree
import SqlBoundary.Proofs.Session.Coherence
import SqlBoundary.Proofs.Session.Redirection
import SqlBoundary.Proofs.Files.LineReader
import SqlBoundary.Proofs.Dialogue.Ending
import SqlBoundary.Proofs.Session.Startup
import SqlBoundary.Proofs.CommandLine.Ending
import SqlBoundary.Proofs.Scan.Dialect
import SqlBoundary.Proofs.Scan.Closing
import SqlBoundary.Proofs.Statement.Kept
import SqlBoundary.Proofs.Statement.Selection
import SqlBoundary.Proofs.Statement.Semicolon
import SqlBoundary.Proofs.Session.Spelling
import SqlBoundary.Proofs.Session.Variables
import SqlBoundary.Proofs.Session.HistorySize
import SqlBoundary.Proofs.Duration.Milliseconds
import SqlBoundary.Proofs.Duration.Rounding
import SqlBoundary.Proofs.Scan.CommentedOut
import SqlBoundary.Proofs.Report.Positions
import SqlBoundary.Proofs.CommandLine.Assignment
import SqlBoundary.Proofs.Files.Footprint
import SqlBoundary.Proofs.CommandLine.Source
import SqlBoundary.Proofs.Lex.Expression
import SqlBoundary.Proofs.Lex.Pattern
import SqlBoundary.Proofs.Text.Slice
import SqlBoundary.Proofs.Lex.Reader
import SqlBoundary.Proofs.Session.Argument
import SqlBoundary.Proofs.Session.Footprint
import SqlBoundary.Proofs.Session.Prompt
import SqlBoundary.Proofs.Text.Lines
import SqlBoundary.Proofs.Text.Number
import SqlBoundary.Proofs.Text.Utf8
import SqlBoundary.Proofs.Session.Delivery
import SqlBoundary.Proofs.Session.Follow
import SqlBoundary.Proofs.Session.Output
