import LinearProgram.Bounds
import LinearProgram.Cache.Basic
import LinearProgram.Cache.Register
import LinearProgram.ColumnName
import LinearProgram.Digest
import LinearProgram.Document.Basic
import LinearProgram.Document.OfProblem
import LinearProgram.Document.Render
import LinearProgram.Duration
import LinearProgram.Error
import LinearProgram.Format
import LinearProgram.Host.Basic
import LinearProgram.Host.Files
import LinearProgram.Journal
import LinearProgram.Number.Binary64
import LinearProgram.Number.Decimal
import LinearProgram.Number.Natural
import LinearProgram.Number.Shortest
import LinearProgram.Problem.Basic
import LinearProgram.Problem.Operation
import LinearProgram.Problem.Save
import LinearProgram.Relay
import LinearProgram.Report.Canonical
import LinearProgram.Report.Cbc
import LinearProgram.Report.Clp
import LinearProgram.Report.Glpk
import LinearProgram.Report.Reader
import LinearProgram.Report.Scip
import LinearProgram.Script.Apart
import LinearProgram.Script.Arithmetic
import LinearProgram.Script.Builtin
import LinearProgram.Script.Channel
import LinearProgram.Script.Condition
import LinearProgram.Script.Expand
import LinearProgram.Script.Field
import LinearProgram.Script.Formatted
import LinearProgram.Script.Home
import LinearProgram.Script.Installed
import LinearProgram.Script.Job
import LinearProgram.Script.JobControl
import LinearProgram.Script.Launcher
import LinearProgram.Script.Limit
import LinearProgram.Script.Numeral
import LinearProgram.Script.Parser
import LinearProgram.Script.Pattern
import LinearProgram.Script.Process
import LinearProgram.Script.Program
import LinearProgram.Script.Run
import LinearProgram.Script.Signal
import LinearProgram.Script.Stream
import LinearProgram.Script.Syntax
import LinearProgram.Script.Token
import LinearProgram.Script.Utility.Basic
import LinearProgram.Script.Utility.Copy
import LinearProgram.Script.Utility.Expr
import LinearProgram.Script.Utility.File
import LinearProgram.Script.Utility.Grep
import LinearProgram.Script.Utility.Line
import LinearProgram.Script.Utility.Regex.Basic
import LinearProgram.Script.Utility.Regex.Reader
import LinearProgram.Script.Utility.Regex.Set
import LinearProgram.Script.Utility.Runner
import LinearProgram.Script.Utility.Sed
import LinearProgram.Script.Utility.Sed.Editing
import LinearProgram.Script.Utility.Sed.Instruction
import LinearProgram.Script.Utility.Sed.Reader
import LinearProgram.Script.Utility.Sequence
import LinearProgram.Script.Utility.Table
import LinearProgram.Script.Utility.Target
import LinearProgram.Script.Utility.Translate
import LinearProgram.Script.Utility.Value
import LinearProgram.Solution
import LinearProgram.Solver.Backend
import LinearProgram.Solver.Basic
import LinearProgram.Solver.CommandLine
import LinearProgram.Solver.Kind
import LinearProgram.Solver.Program
import LinearProgram.Solver.Rehearsed
import LinearProgram.Solver.ReturnCode
import LinearProgram.Status
import LinearProgram.Text.Blank
import LinearProgram.Text.LetterCase
import LinearProgram.Text.Line
import LinearProgram.Text.Lower
import LinearProgram.Text.Utf8
import LinearProgram.Workspace.Basic
import LinearProgram.Workspace.Operation
import LinearProgram.Proofs.Number.Digits
import LinearProgram.Proofs.Number.RoundTrip
import LinearProgram.Proofs.LpText.Identification
import LinearProgram.Proofs.LpText.Meaning
import LinearProgram.Proofs.Report.Readable
import LinearProgram.Proofs.Text.Encoding
import LinearProgram.Proofs.Text.Lines
import LinearProgram.Proofs.Report.RoundTrip
import LinearProgram.Proofs.Host.Store
import LinearProgram.Proofs.Host.Computation
import LinearProgram.Proofs.Cache.History
import LinearProgram.Proofs.Solver.Contract
import LinearProgram.Proofs.Host.Delivery
import LinearProgram.Proofs.Solver.Process
import LinearProgram.Proofs.Cache.Files
import LinearProgram.Proofs.Solver.Ownership
import LinearProgram.Proofs.Solver.Fleet
import LinearProgram.Proofs.Solver.SolutionFile
import LinearProgram.Proofs.Solver.Answers
import LinearProgram.Proofs.Solver.Shared
import LinearProgram.Proofs.Solver.Transparency
import LinearProgram.Proofs.Relay
import LinearProgram.Proofs.ColumnName
import LinearProgram.Proofs.LpText.Wrapping
import LinearProgram.Proofs.LpText.Sections
import LinearProgram.Proofs.LpText.Slacks
import LinearProgram.Proofs.Problem.RowNames
import LinearProgram.Proofs.Problem.Operations
import LinearProgram.Proofs.Report.Refusals
import LinearProgram.Proofs.Report.Listing
import LinearProgram.Proofs.Report.Account
import LinearProgram.Proofs.Report.Glpk
import LinearProgram.Proofs.Report.Starred
import LinearProgram.Proofs.Report.Cbc
import LinearProgram.Proofs.Report.Scip
import LinearProgram.Proofs.Report.Verdict
import LinearProgram.Proofs.Report.Kept
import LinearProgram.Proofs.Report.Layout
import LinearProgram.Proofs.Number.LetterCase
import LinearProgram.Proofs.Report.Clp
import LinearProgram.Proofs.Report.Agreement
import LinearProgram.Proofs.Text.Lower
import LinearProgram.Proofs.Solver.Custody
import LinearProgram.Proofs.Number.Truncation
import LinearProgram.Proofs.LpText.Figures
import LinearProgram.Proofs.LpText.Ends
import LinearProgram.Proofs.LpText.Warnings
import LinearProgram.Proofs.LpText.Writability
