import AnswerKey.Act
import AnswerKey.Answer.Match
import AnswerKey.Answer.Normal
import AnswerKey.CommandLine
import AnswerKey.Comparison
import AnswerKey.Construct.Basic
import AnswerKey.Construct.Outline
import AnswerKey.Construct.Pattern
import AnswerKey.Decimal.Binary64
import AnswerKey.Decimal.Integer
import AnswerKey.Decimal.Reader
import AnswerKey.Decimal.Shortest
import AnswerKey.Engine
import AnswerKey.Exception
import AnswerKey.Exercise
import AnswerKey.Exercise.Audit
import AnswerKey.Exercise.Report
import AnswerKey.Fingerprint
import AnswerKey.Grading.Capabilities
import AnswerKey.Grading.Note
import AnswerKey.Grading.Office
import AnswerKey.Grading.Router
import AnswerKey.Grading.Strategy
import AnswerKey.Host
import AnswerKey.Json
import AnswerKey.Json.Encoding
import AnswerKey.Json.Reader
import AnswerKey.Json.Writer
import AnswerKey.Main
import AnswerKey.Program.Operation
import AnswerKey.Program.Run
import AnswerKey.Program.Slice
import AnswerKey.Program.Source
import AnswerKey.Program.Value
import AnswerKey.Proofs.Answer.Projection
import AnswerKey.Proofs.Canonical.AlphaEquivalence
import AnswerKey.Proofs.Canonical.Capture
import AnswerKey.Proofs.Canonical.Composition
import AnswerKey.Proofs.Canonical.EarlyUse
import AnswerKey.Proofs.Canonical.Occurrence
import AnswerKey.Proofs.Canonical.OneScope
import AnswerKey.Proofs.Canonical.Passes
import AnswerKey.Proofs.Canonical.Preface
import AnswerKey.Proofs.Canonical.Pruning
import AnswerKey.Proofs.Canonical.Reference
import AnswerKey.Proofs.Canonical.Renaming
import AnswerKey.Proofs.Canonical.ScopeDiscipline
import AnswerKey.Proofs.Canonical.SliceBounds
import AnswerKey.Proofs.Canonical.Walk
import AnswerKey.Proofs.Comparison.Hall
import AnswerKey.Proofs.Comparison.History
import AnswerKey.Proofs.Comparison.InProcess
import AnswerKey.Proofs.Comparison.Soundness
import AnswerKey.Proofs.Comparison.Succession
import AnswerKey.Proofs.Comparison.Uses
import AnswerKey.Proofs.Exercise.Configuration
import AnswerKey.Proofs.Exercise.LanguageName
import AnswerKey.Proofs.Grading.Fallback
import AnswerKey.Proofs.Sandbox.Availability
import AnswerKey.Proofs.Sandbox.Callers
import AnswerKey.Proofs.Sandbox.Children
import AnswerKey.Proofs.Sandbox.Loading
import AnswerKey.Proofs.Sandbox.Lockstep
import AnswerKey.Proofs.Sandbox.Moves
import AnswerKey.Proofs.Sandbox.Requests
import AnswerKey.Proofs.Sandbox.Service
import AnswerKey.Proofs.Sandbox.Sessions
import AnswerKey.Proofs.Sandbox.Steps
import AnswerKey.Proofs.Text.Compatibility
import AnswerKey.Proofs.Text.Visible
import AnswerKey.Proofs.Worker.Delivery
import AnswerKey.Proofs.Worker.Serving
import AnswerKey.Registry
import AnswerKey.Sandbox.Basic
import AnswerKey.Sandbox.Child
import AnswerKey.Sandbox.Fault
import AnswerKey.Settings
import AnswerKey.Snippet.Canonical
import AnswerKey.Snippet.Dump
import AnswerKey.Snippet.Grammar.Basic
import AnswerKey.Snippet.Grammar.Expression
import AnswerKey.Snippet.Grammar.Pattern
import AnswerKey.Snippet.Grammar.Statement
import AnswerKey.Snippet.Interpolation
import AnswerKey.Snippet.Lexeme
import AnswerKey.Snippet.Literal
import AnswerKey.Snippet.Parse
import AnswerKey.Snippet.Quoting
import AnswerKey.Snippet.Render
import AnswerKey.Snippet.Token
import AnswerKey.Snippet.Tree
import AnswerKey.Text.CharClass
import AnswerKey.Text.CharClass.Ranges
import AnswerKey.Text.CharName
import AnswerKey.Text.CharName.Table
import AnswerKey.Text.CodeRange
import AnswerKey.Text.Compatibility
import AnswerKey.Text.Compatibility.Tables
import AnswerKey.Text.Line
import AnswerKey.Text.Quoted
import AnswerKey.Worker.Basic
import AnswerKey.Worker.Helper
import AnswerKey.Proofs.Grading.OwnAnswer
import AnswerKey.Proofs.Sandbox.Custody
import AnswerKey.Proofs.Construct.Numeral
import AnswerKey.Proofs.Snippet.Part
import AnswerKey.Proofs.Construct.Quotation
import AnswerKey.Proofs.Construct.Piece
import AnswerKey.Proofs.Construct.Agreement
import AnswerKey.Proofs.Engine.Sparing
import AnswerKey.Proofs.Engine.Ownership
import AnswerKey.Proofs.Grading.Acceptance
import AnswerKey.Proofs.Grading.Blame
import AnswerKey.Proofs.Construct.Loop
import AnswerKey.Proofs.Answer.Spacing
import AnswerKey.Proofs.Snippet.Indentation
import AnswerKey.Proofs.Construct.Interpolation
import AnswerKey.Proofs.Construct.Subscript
import AnswerKey.Proofs.Grammar.Agreement
import AnswerKey.Proofs.Grammar.Depth
import AnswerKey.Proofs.Grammar.Levels
import AnswerKey.Proofs.Answer.Printed
import AnswerKey.Proofs.Grading.FailedRun
import AnswerKey.Proofs.Sandbox.Running
import AnswerKey.Proofs.Grading.Printing
import AnswerKey.Proofs.Answer.Flow
import AnswerKey.Proofs.Answer.Following
import AnswerKey.Proofs.Answer.Stepping
import AnswerKey.Proofs.Exercise.Redundancy
import AnswerKey.Proofs.Exercise.Reporting
import AnswerKey.Proofs.Exercise.Slug
import AnswerKey.Proofs.Settings.Variables
import AnswerKey.Proofs.Answer.Program
import AnswerKey.Proofs.Decimal.Shortest
