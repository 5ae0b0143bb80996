import Byline.Authorship.Block
import Byline.Authorship.Slots
import Byline.Authorship.Write
import Byline.CommandLine.Arguments
import Byline.CommandLine.Program
import Byline.CommandLine.Usage
import Byline.Diff.Alignment
import Byline.Diff.Basic
import Byline.Diff.Compare
import Byline.Diff.Unified
import Byline.Digest
import Byline.Filter.Basic
import Byline.Filter.Expression
import Byline.Json
import Byline.Log
import Byline.Main
import Byline.Mode
import Byline.Names
import Byline.Pattern.Basic
import Byline.Pattern.Class
import Byline.Pattern.Escape
import Byline.Pattern.Flags
import Byline.Pattern.Property
import Byline.Pattern.Reader
import Byline.Pattern.Search
import Byline.Problem
import Byline.Record.Basic
import Byline.Record.Collection
import Byline.Report.Basic
import Byline.Report.Format
import Byline.Report.Html
import Byline.Report.Text
import Byline.Run.Intake
import Byline.Run.Process
import Byline.Run.Rules
import Byline.Run.Run
import Byline.Run.Settings
import Byline.Script.Interpreter
import Byline.Script.Line
import Byline.Source.Analysis
import Byline.Source.Line
import Byline.Storage.Changes
import Byline.Storage.Disk
import Byline.Storage.Journal
import Byline.Storage.Path
import Byline.Storage.Sources
import Byline.Storage.Tree
import Byline.Storage.Tree.Frame
import Byline.Text.Blank
import Byline.Text.Lines
import Byline.Text.Quoted
import Byline.Text.Utf8
import Byline.Unicode.Added
import Byline.Unicode.Age
import Byline.Unicode.CaseChange
import Byline.Unicode.Category
import Byline.Unicode.Folding
import Byline.Unicode.Property
import Byline.Unicode.Ranges
import Byline.Unicode.Script
import Byline.Unicode.Segment.Cluster
import Byline.Unicode.Segment.Sentence
import Byline.Unicode.Segment.Word
import Byline.Unicode.SharedScript
import Byline.Proofs.Diff.Aligns
import Byline.Proofs.Diff.Grid
import Byline.Proofs.Diff.Patch
import Byline.Proofs.Diff.Reader
import Byline.Proofs.Diff.Hunks
import Byline.Proofs.Authorship.Block
import Byline.Proofs.Authorship.Layout
import Byline.Proofs.Authorship.ReadBack
import Byline.Proofs.Authorship.Survival
import Byline.Proofs.Authorship.Overwrite
import Byline.Proofs.Storage.Node
import Byline.Proofs.Storage.Place
import Byline.Proofs.Storage.Sources
import Byline.Proofs.Authorship.Work
import Byline.Proofs.Authorship.Write
import Byline.Proofs.Run.Process
import Byline.Proofs.Script.Records
import Byline.Proofs.Run.Tagging
import Byline.Proofs.Run.Isolation
import Byline.Proofs.Run.Frame
import Byline.Proofs.Run.RoundTrip
import Byline.Proofs.Run.Summary
import Byline.Proofs.Script.Sections
import Byline.Proofs.Pattern.Place
import Byline.Proofs.Pattern.Search
import Byline.Proofs.Script.Store
import Byline.Proofs.Pattern.Language
import Byline.Proofs.Filter.Glob
import Byline.Proofs.Filter.Types
import Byline.Proofs.Source.LineEnds
import Byline.Proofs.Source.Outline
import Byline.Proofs.Source.Tag
import Byline.Proofs.Storage.Change
import Byline.Proofs.Authorship.Effect
import Byline.Proofs.Authorship.Failure
import Byline.Proofs.Authorship.SameText
import Byline.Proofs.Run.Audit
import Byline.Proofs.Text.Utf8
import Byline.Proofs.Script.Reading
import Byline.Proofs.Script.Counts
import Byline.Proofs.Filter.Authors
import Byline.Proofs.Unicode.Folding
import Byline.Proofs.Pattern.Preference
import Byline.Proofs.Source.Declaration
import Byline.Proofs.Source.DeclarationPattern
import Byline.Proofs.Diff.Canonical
import Byline.Proofs.Diff.Access
import Byline.Proofs.Diff.Checked
import Byline.Proofs.Diff.Words
import Byline.Proofs.Text.Blank
import Byline.Proofs.Script.Printing
import Byline.Proofs.Report.Markup
import Byline.Proofs.Report.Page
import Byline.Proofs.Storage.Scan
