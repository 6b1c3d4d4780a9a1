import ContractAudit.Analysis.Location
import ContractAudit.Analysis.Run
import ContractAudit.Audit.Filter
import ContractAudit.Audit.Moment
import ContractAudit.Audit.Report
import ContractAudit.Audit.Request
import ContractAudit.Audit.Run
import ContractAudit.Catalog.All
import ContractAudit.Catalog.Cairo.Detectors
import ContractAudit.Catalog.Cairo.Triggers
import ContractAudit.Catalog.Detector
import ContractAudit.Catalog.Solidity.Detectors
import ContractAudit.Catalog.Solidity.Shapes
import ContractAudit.Catalog.Solidity.Triggers
import ContractAudit.Catalog.Vyper.Detectors
import ContractAudit.Catalog.Vyper.Triggers
import ContractAudit.Compliance
import ContractAudit.Console.Arguments
import ContractAudit.Console.Output
import ContractAudit.Console.Run
import ContractAudit.Console.Table
import ContractAudit.Dialect
import ContractAudit.Enhancement.Basic
import ContractAudit.Enhancement.Chat
import ContractAudit.Enhancement.Post
import ContractAudit.Files
import ContractAudit.Finding
import ContractAudit.Interruption
import ContractAudit.Json.Body
import ContractAudit.Json.Printer
import ContractAudit.Json.Reader
import ContractAudit.Json.Shown
import ContractAudit.Json.Value
import ContractAudit.Language
import ContractAudit.Main
import ContractAudit.Number.Binary
import ContractAudit.Number.Double
import ContractAudit.Number.Quantity
import ContractAudit.Number.Shortest
import ContractAudit.Pattern.Basic
import ContractAudit.Pattern.Search
import ContractAudit.Proofs.Acceptance
import ContractAudit.Proofs.BlankLines
import ContractAudit.Proofs.BlankStretch
import ContractAudit.Proofs.BlockDetectors
import ContractAudit.Proofs.BlockExtent
import ContractAudit.Proofs.BlockLocality
import ContractAudit.Proofs.BorrowedGuards
import ContractAudit.Proofs.CallProgram
import ContractAudit.Proofs.CatalogComposition
import ContractAudit.Proofs.ChatOutcomes
import ContractAudit.Proofs.CommentInsensitivity
import ContractAudit.Proofs.CommentStripping
import ContractAudit.Proofs.CommentedLines
import ContractAudit.Proofs.ComplianceComposition
import ContractAudit.Proofs.Consistency
import ContractAudit.Proofs.ContractSplitting
import ContractAudit.Proofs.DeclaredVersions
import ContractAudit.Proofs.Deduplication
import ContractAudit.Proofs.DocumentNames
import ContractAudit.Proofs.DoubleRounding
import ContractAudit.Proofs.Enhancement
import ContractAudit.Proofs.EnhancementSequences
import ContractAudit.Proofs.EntryPoints
import ContractAudit.Proofs.ExtractionIndependence
import ContractAudit.Proofs.FirstOccurrences
import ContractAudit.Proofs.GreedyRuns
import ContractAudit.Proofs.InsertedComments
import ContractAudit.Proofs.InstanceCap
import ContractAudit.Proofs.JsonScanning
import ContractAudit.Proofs.LanguageEvidence
import ContractAudit.Proofs.LeftmostMatches
import ContractAudit.Proofs.Lexing
import ContractAudit.Proofs.LineAlignment
import ContractAudit.Proofs.LineEquivariance
import ContractAudit.Proofs.LocatedLines
import ContractAudit.Proofs.LoopBodies
import ContractAudit.Proofs.Masking
import ContractAudit.Proofs.MissingVisibility
import ContractAudit.Proofs.Noninterference
import ContractAudit.Proofs.OutlineComposition
import ContractAudit.Proofs.PatternMeaning
import ContractAudit.Proofs.PatternShift
import ContractAudit.Proofs.Placement
import ContractAudit.Proofs.PragmaRanges
import ContractAudit.Proofs.PragmaRoundTrip
import ContractAudit.Proofs.ReentrantCalls
import ContractAudit.Proofs.Rejection
import ContractAudit.Proofs.Rounding
import ContractAudit.Proofs.ScanningTriggers
import ContractAudit.Proofs.SettingsFaults
import ContractAudit.Proofs.SettingsLayers
import ContractAudit.Proofs.StretchedSearch
import ContractAudit.Proofs.TriggerShift
import ContractAudit.Proofs.UsableSettings
import ContractAudit.Proofs.Verdict
import ContractAudit.Proofs.VerdictOrder
import ContractAudit.Proofs.VersionNumbers
import ContractAudit.Proofs.VyperFunctions
import ContractAudit.Proofs.WholePercentage
import ContractAudit.Proofs.WireFaults
import ContractAudit.Registry.Cairo
import ContractAudit.Registry.Controls
import ContractAudit.Registry.Entry
import ContractAudit.Registry.Ethereum
import ContractAudit.Registry.Query
import ContractAudit.Settings.Basic
import ContractAudit.Settings.Document
import ContractAudit.Settings.Load
import ContractAudit.Settings.Value
import ContractAudit.Severity
import ContractAudit.Source.Block
import ContractAudit.Source.Comment
import ContractAudit.Source.Contract
import ContractAudit.Source.Pragma
import ContractAudit.Structure.Basic
import ContractAudit.Structure.Lines
import ContractAudit.Structure.Registry
import ContractAudit.Structure.Solidity.Grammar
import ContractAudit.Structure.Solidity.Rules
import ContractAudit.Structure.Solidity.Token
import ContractAudit.Structure.Solidity.Tree
import ContractAudit.Text.Base64
import ContractAudit.Text.Basic
import ContractAudit.Text.Blank
import ContractAudit.Text.CaseTable
import ContractAudit.Text.Casing
import ContractAudit.Text.CharRanges
import ContractAudit.Text.Columns
import ContractAudit.Text.CombiningTable
import ContractAudit.Text.Composed
import ContractAudit.Text.Digit
import ContractAudit.Text.LineBreak
import ContractAudit.Text.Numeral
import ContractAudit.Text.Printable
import ContractAudit.Text.Quoted
import ContractAudit.Text.Utf8
import ContractAudit.Text.Word
import ContractAudit.Trust.Counts
import ContractAudit.Trust.Level
import ContractAudit.Trust.Score
import ContractAudit.Url.Address
import ContractAudit.Url.Basic
import ContractAudit.Url.HostName
import ContractAudit.Url.HostTable
import ContractAudit.Url.Punycode
import ContractAudit.Yaml.Cursor
import ContractAudit.Yaml.Document
import ContractAudit.Yaml.Fault
import ContractAudit.Yaml.Layout
import ContractAudit.Yaml.Node
import ContractAudit.Yaml.Reader
import ContractAudit.Yaml.Scalar
import ContractAudit.Yaml.Token
