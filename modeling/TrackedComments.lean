import TrackedComments.CommandLine.Arguments
import TrackedComments.CommandLine.Highlight
import TrackedComments.CommandLine.Output
import TrackedComments.CommandLine.Run
import TrackedComments.CommentTree
import TrackedComments.Config
import TrackedComments.Error
import TrackedComments.FileTree.Basic
import TrackedComments.FileTree.OsError
import TrackedComments.FileTree.Path
import TrackedComments.FileTree.Text
import TrackedComments.Glob.Basic
import TrackedComments.Glob.PathGlob
import TrackedComments.Glob.Reader
import TrackedComments.Json.Basic
import TrackedComments.Json.Fields
import TrackedComments.Json.Reader
import TrackedComments.Main
import TrackedComments.Marker
import TrackedComments.Metadata
import TrackedComments.Pattern.Class
import TrackedComments.Pattern.Escape
import TrackedComments.Pattern.Fault
import TrackedComments.Pattern.Flags
import TrackedComments.Pattern.Program
import TrackedComments.Pattern.Reader
import TrackedComments.Pattern.Regex
import TrackedComments.Pattern.ScanPattern
import TrackedComments.Pattern.Search
import TrackedComments.Proofs.CommandLine.Addressing
import TrackedComments.Proofs.CommandLine.Operands
import TrackedComments.Proofs.CommentTree
import TrackedComments.Proofs.CommentTree.Subscribers
import TrackedComments.Proofs.Config
import TrackedComments.Proofs.FileTree.Components
import TrackedComments.Proofs.FileTree.Contents
import TrackedComments.Proofs.FileTree.Frame
import TrackedComments.Proofs.FileTree.Names
import TrackedComments.Proofs.FileTree.Texts
import TrackedComments.Proofs.FileTree.Walk
import TrackedComments.Proofs.Glob.Language
import TrackedComments.Proofs.Glob.Suffix
import TrackedComments.Proofs.Json.ReadBack
import TrackedComments.Proofs.Marker
import TrackedComments.Proofs.Marker.FirstIssue
import TrackedComments.Proofs.Marker.Stripping
import TrackedComments.Proofs.Marker.Trailing
import TrackedComments.Proofs.Metadata
import TrackedComments.Proofs.Metadata.Labels
import TrackedComments.Proofs.Pattern.Annotated
import TrackedComments.Proofs.Pattern.FirstMatch
import TrackedComments.Proofs.Pattern.Repetition
import TrackedComments.Proofs.Pattern.Search
import TrackedComments.Proofs.Record
import TrackedComments.Proofs.Record.Commuting
import TrackedComments.Proofs.Record.Remembered
import TrackedComments.Proofs.Record.Upsert
import TrackedComments.Proofs.Scan.Blocks
import TrackedComments.Proofs.Scan.Content
import TrackedComments.Proofs.Scan.DefaultPattern
import TrackedComments.Proofs.Scan.EveryLine
import TrackedComments.Proofs.Scan.InTurn
import TrackedComments.Proofs.Scan.Reconciled
import TrackedComments.Proofs.Scan.Renderings
import TrackedComments.Proofs.Scan.Report
import TrackedComments.Proofs.Scan.Window
import TrackedComments.Proofs.Session.Basic
import TrackedComments.Proofs.Session.Filings
import TrackedComments.Proofs.Session.FirstSteps
import TrackedComments.Proofs.Session.InStep
import TrackedComments.Proofs.Session.Lasting
import TrackedComments.Proofs.Session.Outages
import TrackedComments.Proofs.Session.Progress
import TrackedComments.Proofs.Session.SameLists
import TrackedComments.Proofs.Session.Undisturbed
import TrackedComments.Proofs.Source.Enumeration
import TrackedComments.Proofs.Source.Identities
import TrackedComments.Proofs.Source.Listing
import TrackedComments.Proofs.Source.StandardFilter
import TrackedComments.Proofs.StableSort
import TrackedComments.Proofs.Store.Recovery
import TrackedComments.Proofs.Store.RoundTrip
import TrackedComments.Proofs.Store.Save
import TrackedComments.Proofs.Store.StateText
import TrackedComments.Proofs.Text.Bytes
import TrackedComments.Proofs.Text.Cuts
import TrackedComments.Proofs.Text.Lines
import TrackedComments.Proofs.Text.Offsets
import TrackedComments.Proofs.Text.Pieces
import TrackedComments.Proofs.Text.Printed
import TrackedComments.Proofs.Text.Space
import TrackedComments.Proofs.Toml.Document
import TrackedComments.Proofs.Toml.Strings
import TrackedComments.Proofs.Tracker.LineAddress
import TrackedComments.Proofs.Workspace
import TrackedComments.Proofs.Workspace.Attempts
import TrackedComments.Proofs.Workspace.Commuting
import TrackedComments.Proofs.Workspace.Failures
import TrackedComments.Proofs.Workspace.Found
import TrackedComments.Proofs.Workspace.Lines
import TrackedComments.Proofs.Workspace.Links
import TrackedComments.Proofs.Workspace.Rescan
import TrackedComments.Proofs.Workspace.Stale
import TrackedComments.Proofs.WriteBack
import TrackedComments.Proofs.WriteBack.Insertion
import TrackedComments.Proofs.WriteBack.Marks
import TrackedComments.Proofs.WriteBack.Rescan
import TrackedComments.Proofs.Writers.Alone
import TrackedComments.Proofs.Writers.Attempts
import TrackedComments.Proofs.Writers.Basic
import TrackedComments.Proofs.Writers.Document
import TrackedComments.Proofs.Writers.Exclusion
import TrackedComments.Proofs.Writers.History
import TrackedComments.Proofs.Writers.Links
import TrackedComments.Proofs.Writers.Upsert
import TrackedComments.Record
import TrackedComments.Scan.Report
import TrackedComments.Scan.Window
import TrackedComments.Source.Basic
import TrackedComments.Source.Filter
import TrackedComments.Source.Ignore
import TrackedComments.Store.Basic
import TrackedComments.Store.StateText
import TrackedComments.Text.Lines
import TrackedComments.Text.Space
import TrackedComments.Text.Split
import TrackedComments.Text.Utf8
import TrackedComments.Toml.Reader
import TrackedComments.Toml.Scalar
import TrackedComments.Toml.Table
import TrackedComments.Toml.Text
import TrackedComments.Toml.Value
import TrackedComments.Toml.Writer
import TrackedComments.Tracker.Basic
import TrackedComments.Tracker.Draft
import TrackedComments.Tracker.Error
import TrackedComments.Tracker.GitHub
import TrackedComments.Tracker.HttpStatus
import TrackedComments.Tracker.References
import TrackedComments.Tracker.Repository
import TrackedComments.Tracker.Scripted
import TrackedComments.Tracker.Transport
import TrackedComments.Unicode.Binary
import TrackedComments.Unicode.Case
import TrackedComments.Unicode.Category
import TrackedComments.Unicode.CharSet
import TrackedComments.Unicode.DecimalDigit
import TrackedComments.Unicode.Property
import TrackedComments.Unicode.Query
import TrackedComments.Unicode.Script
import TrackedComments.Unicode.ScriptExtensions
import TrackedComments.Url.Basic
import TrackedComments.Url.Host
import TrackedComments.Url.Percent
import TrackedComments.Url.Punycode
import TrackedComments.Workspace
import TrackedComments.WriteBack
