import LicenseAudit.Audit
import LicenseAudit.Command.Check
import LicenseAudit.Command.Line
import LicenseAudit.Command.Options
import LicenseAudit.Command.Similar
import LicenseAudit.Command.Task
import LicenseAudit.Command.Usage
import LicenseAudit.Comment.Block
import LicenseAudit.Comment.Decoration
import LicenseAudit.Comment.Line
import LicenseAudit.Comment.Scanner
import LicenseAudit.Digest
import LicenseAudit.Discovery
import LicenseAudit.Document
import LicenseAudit.Failure
import LicenseAudit.Grammar.Basic
import LicenseAudit.Grammar.Builtin
import LicenseAudit.Header.Rebuild
import LicenseAudit.Header.Render
import LicenseAudit.Ignore.CharSet
import LicenseAudit.Ignore.Glob
import LicenseAudit.Ignore.Pattern
import LicenseAudit.License.Notice
import LicenseAudit.License.Template
import LicenseAudit.Log.Record
import LicenseAudit.Log.Threshold
import LicenseAudit.Number.Numeral
import LicenseAudit.Number.Shortest
import LicenseAudit.Path
import LicenseAudit.Proofs.Audit.Independence
import LicenseAudit.Proofs.Audit.Outcome
import LicenseAudit.Proofs.Comment.Breaks
import LicenseAudit.Proofs.Comment.DirectScan
import LicenseAudit.Proofs.Comment.Excision
import LicenseAudit.Proofs.Comment.Exposure
import LicenseAudit.Proofs.Comment.Remainder
import LicenseAudit.Proofs.Comment.Segments
import LicenseAudit.Proofs.Comment.Stripping
import LicenseAudit.Proofs.Discovery.Found
import LicenseAudit.Proofs.Discovery.GitDirectory
import LicenseAudit.Proofs.Document.Accounting
import LicenseAudit.Proofs.Document.Lossless
import LicenseAudit.Proofs.Document.Spans
import LicenseAudit.Proofs.Header.Builtin
import LicenseAudit.Proofs.Header.Legible
import LicenseAudit.Proofs.Header.ReadBack
import LicenseAudit.Proofs.Header.Reassembly
import LicenseAudit.Proofs.Ignore.LastPattern
import LicenseAudit.Proofs.License.Faithful
import LicenseAudit.Proofs.License.Filled
import LicenseAudit.Proofs.License.Phrases
import LicenseAudit.Proofs.License.Recognition
import LicenseAudit.Proofs.License.Years
import LicenseAudit.Proofs.Session.Perform
import LicenseAudit.Proofs.Text.Lines
import LicenseAudit.Proofs.Text.Replacement
import LicenseAudit.Proofs.Text.Trimming
import LicenseAudit.Proofs.Tree.Locations
import LicenseAudit.Proofs.Verdict.Copies
import LicenseAudit.Proofs.Verdict.Rebuilt
import LicenseAudit.Proofs.Verdict.Refix
import LicenseAudit.Proofs.Verdict.Rewrapped
import LicenseAudit.Proofs.Verdict.Rollover
import LicenseAudit.Proofs.Verdict.Yearly
import LicenseAudit.Proofs.Verdict.Settled
import LicenseAudit.Proofs.Verdict.Storage
import LicenseAudit.Report.Status
import LicenseAudit.Report.Style
import LicenseAudit.Session
import LicenseAudit.Settings.Draft
import LicenseAudit.Settings.Load
import LicenseAudit.Settings.Table
import LicenseAudit.Settings.Value
import LicenseAudit.Settings.YearMap
import LicenseAudit.Standalone
import LicenseAudit.Text.Basic
import LicenseAudit.Text.Blank
import LicenseAudit.Text.Digits
import LicenseAudit.Text.LetterCase
import LicenseAudit.Text.Lines
import LicenseAudit.Text.Printable
import LicenseAudit.Text.Quoted
import LicenseAudit.Text.Ranges
import LicenseAudit.Text.Utf8
import LicenseAudit.Text.WordClass
import LicenseAudit.Toml.Body
import LicenseAudit.Toml.Document
import LicenseAudit.Toml.Fault
import LicenseAudit.Toml.Key
import LicenseAudit.Toml.Quotation
import LicenseAudit.Toml.Scalar
import LicenseAudit.Toml.Value
import LicenseAudit.Tree.Basic
import LicenseAudit.Tree.Walk
import LicenseAudit.Verdict
import LicenseAudit.Main
import LicenseAudit.Proofs.Settings.Loading
import LicenseAudit.Proofs.Settings.Precedence
import LicenseAudit.Proofs.Command.Stages
import LicenseAudit.Proofs.Command.Words
import LicenseAudit.Proofs.Standalone.Repair
import LicenseAudit.Proofs.Audit.Clean
import LicenseAudit.Proofs.Command.DryRun
import LicenseAudit.Proofs.Session.Failing
import LicenseAudit.Proofs.Settings.Faults
import LicenseAudit.Proofs.Audit.Faults
import LicenseAudit.Proofs.Command.Changes
import LicenseAudit.Proofs.Command.Untouched
import LicenseAudit.Proofs.Command.Breakage
import LicenseAudit.Proofs.Settings.Merging
import LicenseAudit.Proofs.License.Earliest
import LicenseAudit.Proofs.Document.Content
import LicenseAudit.Proofs.Verdict.Dated
import LicenseAudit.Proofs.Settings.Freezing
import LicenseAudit.Proofs.Settings.YearEntries
import LicenseAudit.Proofs.Settings.YearNotations
import LicenseAudit.Proofs.Settings.Cleaning
import LicenseAudit.Proofs.Command.Unusable
import LicenseAudit.Proofs.Comment.Cuts
import LicenseAudit.Proofs.Grammar.Unambiguous
import LicenseAudit.Proofs.Ignore.Excludes
import LicenseAudit.Proofs.Discovery.Listing
import LicenseAudit.Proofs.Standalone.Fixing
import LicenseAudit.Proofs.Comment.Exposure
