import Checkup.ActionItem
import Checkup.Attempt
import Checkup.Check
import Checkup.CommandLine
import Checkup.CommandLine.Arguments
import Checkup.Dialect
import Checkup.Dialect.Architecture
import Checkup.Dialect.Eslint
import Checkup.Dialect.Jscpd
import Checkup.Dialect.Knip
import Checkup.Dialect.Madge
import Checkup.Dialect.Oxlint
import Checkup.Dialect.TypeScript
import Checkup.Fault
import Checkup.FileTree
import Checkup.FileTree.Walk
import Checkup.Folder
import Checkup.Folder.Survey
import Checkup.Issue
import Checkup.Issue.Line
import Checkup.Json.Reader
import Checkup.Json.Writer
import Checkup.Launch
import Checkup.Launch.Start
import Checkup.Main
import Checkup.Moment
import Checkup.Number.Binary64
import Checkup.Number.Decimal
import Checkup.Path
import Checkup.Proofs.ArchiveRoundTrip
import Checkup.Proofs.Attempts
import Checkup.Proofs.Durations
import Checkup.Proofs.FileTreeWrites
import Checkup.Proofs.IssueLines
import Checkup.Proofs.JsonRoundTrip
import Checkup.Proofs.Numerals
import Checkup.Proofs.ReportFiles
import Checkup.Proofs.ReportedIssues
import Checkup.Proofs.RunIssues
import Checkup.Proofs.RunReports
import Checkup.Proofs.SmallLetters
import Checkup.Report
import Checkup.Report.Archive
import Checkup.Report.Duration
import Checkup.Report.Files
import Checkup.Report.Markdown
import Checkup.Run
import Checkup.Settings
import Checkup.Settings.Load
import Checkup.Settings.Template
import Checkup.Shell.Arithmetic
import Checkup.Shell.Builtin
import Checkup.Shell.Builtin.Condition
import Checkup.Shell.Builtin.Control
import Checkup.Shell.Builtin.Names
import Checkup.Shell.Builtin.Output
import Checkup.Shell.Builtin.Parameters
import Checkup.Shell.Bytes
import Checkup.Shell.Command
import Checkup.Shell.Delivery
import Checkup.Shell.Evaluation
import Checkup.Shell.Expansion
import Checkup.Shell.Field
import Checkup.Shell.Filenames
import Checkup.Shell.Finding
import Checkup.Shell.Format
import Checkup.Shell.Launcher
import Checkup.Shell.Machine
import Checkup.Shell.Process
import Checkup.Shell.Program
import Checkup.Shell.Programs
import Checkup.Shell.Reader
import Checkup.Shell.Reader.Command
import Checkup.Shell.Reader.Word
import Checkup.Shell.Script
import Checkup.Shell.Starting
import Checkup.Shell.Streams
import Checkup.Shell.Utility
import Checkup.Shell.Utility.Characters
import Checkup.Shell.Utility.Columns
import Checkup.Shell.Utility.Compare
import Checkup.Shell.Utility.Count
import Checkup.Shell.Utility.Date
import Checkup.Shell.Utility.Edit
import Checkup.Shell.Utility.EditScript
import Checkup.Shell.Utility.Evaluate
import Checkup.Shell.Utility.Excerpt
import Checkup.Shell.Utility.Expression
import Checkup.Shell.Utility.ExpressionText
import Checkup.Shell.Utility.Files
import Checkup.Shell.Utility.Listing
import Checkup.Shell.Utility.Names
import Checkup.Shell.Utility.Numbers
import Checkup.Shell.Utility.Order
import Checkup.Shell.Utility.Search
import Checkup.Shell.Utility.System
import Checkup.Shell.Utility.Table
import Checkup.Shell.Variables
import Checkup.Shell.Wildcard
import Checkup.Source.FunctionSpan
import Checkup.Source.Marker
import Checkup.Source.Pattern
import Checkup.Source.Profile
import Checkup.Source.Survey
import Checkup.Text.Numeral
import Checkup.Text.Blank
import Checkup.Text.LetterCase
import Checkup.Text.Counting
import Checkup.Text.Lines
import Checkup.Text.Occurrence
import Checkup.Text.Quoted
import Checkup.Text.Ranges
import Checkup.Text.Stretch
import Checkup.Text.Utf8
import Checkup.Text.Word
import Checkup.Tool
import Checkup.Value
import Checkup.Value.Display
import Checkup.Yaml.Block
import Checkup.Yaml.Cursor
import Checkup.Yaml.Document
import Checkup.Yaml.Kind
import Checkup.Yaml.Node
import Checkup.Yaml.Plain
import Checkup.Yaml.Property
import Checkup.Yaml.Quoted
import Checkup.Yaml.Reader
import Checkup.Yaml.ScalarValue
import Checkup.Yaml.Supply
import Checkup.Yaml.Token
import Checkup.Proofs.Announcements
import Checkup.Proofs.EvidentFindings
import Checkup.Proofs.DuplicateCounts
import Checkup.Proofs.DuplicateNumbers
import Checkup.Proofs.DuplicateStatistics
import Checkup.Proofs.ClonesReadBack
import Checkup.Proofs.DialectFaults
import Checkup.Proofs.IsolatedChecks
import Checkup.Proofs.IssueLanguage
import Checkup.Proofs.ReportAccounts
import Checkup.Proofs.RunAccounts
import Checkup.Proofs.Colours
import Checkup.Proofs.CommandChanges
import Checkup.Proofs.FunctionLengths
import Checkup.Proofs.BalancedSources
import Checkup.Proofs.FunctionSegments
import Checkup.Proofs.YamlEscapes
import Checkup.Proofs.YamlNodes
import Checkup.Proofs.YamlValues
import Checkup.Proofs.SettingsFaults
import Checkup.Proofs.AppendedSources
import Checkup.Proofs.SeparateFindings
import Checkup.Proofs.SourceJudgement
import Checkup.Proofs.SourceFiles
import Checkup.Proofs.FolderDepths
import Checkup.Proofs.FolderFeatures
import Checkup.Proofs.IgnoredFolders
import Checkup.Proofs.TwoStreams
import Checkup.Proofs.ErrorsReadBack
import Checkup.Proofs.StylishReports
import Checkup.Proofs.CrashMessages
import Checkup.Proofs.DocumentSchemas
import Checkup.Proofs.OrphanFolders
import Checkup.Proofs.PrintedCircles
import Checkup.Proofs.WellFormedIssues
import Checkup.Proofs.SectionsReadBack
import Checkup.Proofs.UnknownSections
import Checkup.Proofs.ActionItems
import Checkup.Proofs.MarkdownAccounts
import Checkup.Proofs.UsableSettings
import Checkup.Proofs.SightedPlaces
import Checkup.Proofs.RelatedPaths
import Checkup.Proofs.ToldSummaries
