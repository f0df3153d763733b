import OperationLint.Text.Digits
import OperationLint.Stack
import OperationLint.Number
import OperationLint.Json.Basic
import OperationLint.Json.Reader
import OperationLint.Json.Writer
import OperationLint.Schema.Issue
import OperationLint.Schema.Validation
import OperationLint.Location
import OperationLint.Symbol.Basic
import OperationLint.Operation.Basic
import OperationLint.Operation.Shape
import OperationLint.Operation.Walk
import OperationLint.Snapshot.Basic
import OperationLint.Snapshot.Reader
import OperationLint.Compilation.Basic
import OperationLint.Compilation.Defect
import OperationLint.Compilation.Binding
import OperationLint.Compilation.Parsing
import OperationLint.Text.Run
import OperationLint.Text.CharTable
import OperationLint.Text.MarkClass
import OperationLint.Text.Composition
import OperationLint.Text.Combining
import OperationLint.Text.Collation.Ignorable
import OperationLint.Text.Collation.Accent
import OperationLint.Text.Collation.Han
import OperationLint.Text.Collation.Alphabet
import OperationLint.Text.Collation.Capital
import OperationLint.Text.Collation.Form
import OperationLint.Text.Collation.Contraction
import OperationLint.Text.Collation
import OperationLint.Text.Placeholder
import OperationLint.Text.Markup
import OperationLint.Text.Literal
import OperationLint.Text.Style
import OperationLint.Diagnostic.Basic
import OperationLint.Rule.Basic
import OperationLint.Rule.Texts
import OperationLint.Rule.CertificateValidation
import OperationLint.Rule.DisposableFinalizer
import OperationLint.Rule.Catalog
import OperationLint.Config.Basic
import OperationLint.Console
import OperationLint.Engine
import OperationLint.Analysis
import OperationLint.Report.Format
import OperationLint.Report.Text
import OperationLint.Report.Document
import OperationLint.Report.TestSuite
import OperationLint.Report.Sarif
import OperationLint.Report.Basic
import OperationLint.Files.Path
import OperationLint.Files.Tree
import OperationLint.Config.Reader
import OperationLint.Config.Template
import OperationLint.Config.Session
import OperationLint.Files.JsonFile
import OperationLint.Compilation.Loading
import OperationLint.Command.Arguments
import OperationLint.Command.Grammar
import OperationLint.Command.Run
import OperationLint.Main
import OperationLint.Proofs.Traversal
import OperationLint.Proofs.Validation
import OperationLint.Proofs.Documents
import OperationLint.Proofs.OperationBinding
import OperationLint.Proofs.Inheritance
import OperationLint.Proofs.WellReferenced
import OperationLint.Proofs.EngineRuns
import OperationLint.Proofs.Entries
import OperationLint.Proofs.DocumentRuns
import OperationLint.Proofs.CertificateCallbacks
import OperationLint.Proofs.Interfaces
import OperationLint.Proofs.LeakedHandles
import OperationLint.Proofs.Cancellation
import OperationLint.Proofs.Grammar
import OperationLint.Proofs.BindingFailures
import OperationLint.Proofs.Refusals
import OperationLint.Proofs.CanonicalSymbols
import OperationLint.Proofs.LocalBinding
import OperationLint.Proofs.FileWrites
import OperationLint.Proofs.AnalysisOutcomes
import OperationLint.Proofs.JsonTexts
import OperationLint.Proofs.NumberTexts
import OperationLint.Proofs.ConfigSessions
import OperationLint.Proofs.StableOrder
import OperationLint.Proofs.AttributeTexts
import OperationLint.Proofs.MarkupElements
import OperationLint.Proofs.TestSuites
import OperationLint.Proofs.ReportListings
import OperationLint.Proofs.ReportCounts
import OperationLint.Proofs.DocumentRoundTrips
import OperationLint.Proofs.ConfiguredSeverities
import OperationLint.Proofs.ExtensionBuilds
import OperationLint.Proofs.SelfContainedReports
import OperationLint.Proofs.InterfaceClosures
import OperationLint.Proofs.PreorderPositions
import OperationLint.Proofs.SynthesizedSubtrees
import OperationLint.Proofs.HostInsertions
import OperationLint.Proofs.CallbackBodies
import OperationLint.Proofs.OwnReturns
import OperationLint.Proofs.DistinctKeys
import OperationLint.Proofs.LocatedIssues
import OperationLint.Proofs.IssuePaths
import OperationLint.Proofs.ErasedConstants
import OperationLint.Proofs.SnapshotEdits
import OperationLint.Proofs.NeutralEdits
import OperationLint.Proofs.ConfigFormats
import OperationLint.Proofs.ListingOrder
import OperationLint.Proofs.MessageLayouts
import OperationLint.Proofs.EscapedTexts
