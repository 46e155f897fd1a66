import SourceAtlas.CommandLine.Grammar
import SourceAtlas.CommandLine.Invocation
import SourceAtlas.CommandLine.Parser
import SourceAtlas.Config
import SourceAtlas.Decimal.Shortest
import SourceAtlas.Directory
import SourceAtlas.Engine.Attribute
import SourceAtlas.Engine.Basic
import SourceAtlas.Engine.Reader
import SourceAtlas.Engine.Tables
import SourceAtlas.Entity.Ask
import SourceAtlas.Entity.Basic
import SourceAtlas.Entity.Completion
import SourceAtlas.Entity.Cursor
import SourceAtlas.Entity.Database
import SourceAtlas.Entity.Diagnostic
import SourceAtlas.Entity.Index
import SourceAtlas.Entity.Source
import SourceAtlas.Entity.SourceUnit
import SourceAtlas.Entity.Token
import SourceAtlas.Entity.Type
import SourceAtlas.Entity.Visit
import SourceAtlas.Entity.Walk
import SourceAtlas.EnumValue
import SourceAtlas.Failure
import SourceAtlas.Json.Basic
import SourceAtlas.Json.Failure
import SourceAtlas.Json.Parser
import SourceAtlas.Json.Printer
import SourceAtlas.Json.Reader
import SourceAtlas.Kind.Chunk
import SourceAtlas.Kind.Closed
import SourceAtlas.Kind.Cursor
import SourceAtlas.Kind.Entity
import SourceAtlas.Kind.Severity
import SourceAtlas.Kind.Token
import SourceAtlas.Kind.Type
import SourceAtlas.Main
import SourceAtlas.Options
import SourceAtlas.Program
import SourceAtlas.Proofs.Acquire
import SourceAtlas.Proofs.Ageless
import SourceAtlas.Proofs.Answers
import SourceAtlas.Proofs.Arguments
import SourceAtlas.Proofs.Asking
import SourceAtlas.Proofs.Batches
import SourceAtlas.Proofs.Books
import SourceAtlas.Proofs.Borrowing
import SourceAtlas.Proofs.Bridge
import SourceAtlas.Proofs.Candidates
import SourceAtlas.Proofs.Carrying
import SourceAtlas.Proofs.Cells
import SourceAtlas.Proofs.CommandLines
import SourceAtlas.Proofs.CommandPaths
import SourceAtlas.Proofs.Commands
import SourceAtlas.Proofs.Completion
import SourceAtlas.Proofs.Configs
import SourceAtlas.Proofs.Constants
import SourceAtlas.Proofs.Containment
import SourceAtlas.Proofs.Coverage
import SourceAtlas.Proofs.Crossing
import SourceAtlas.Proofs.Cursors
import SourceAtlas.Proofs.Decoding
import SourceAtlas.Proofs.Defects
import SourceAtlas.Proofs.Ensures
import SourceAtlas.Proofs.Entity
import SourceAtlas.Proofs.Exclusivity
import SourceAtlas.Proofs.Fresh
import SourceAtlas.Proofs.Guarantees
import SourceAtlas.Proofs.Heap
import SourceAtlas.Proofs.Hearing
import SourceAtlas.Proofs.Inclusions
import SourceAtlas.Proofs.Invariant
import SourceAtlas.Proofs.JsonGrammar
import SourceAtlas.Proofs.JsonRecords
import SourceAtlas.Proofs.JsonSkipping
import SourceAtlas.Proofs.JsonTexts
import SourceAtlas.Proofs.Kinds
import SourceAtlas.Proofs.Knowledge
import SourceAtlas.Proofs.Ledger
import SourceAtlas.Proofs.Lifetimes
import SourceAtlas.Proofs.Likeness
import SourceAtlas.Proofs.Listings
import SourceAtlas.Proofs.Loading
import SourceAtlas.Proofs.Lockstep
import SourceAtlas.Proofs.Memo
import SourceAtlas.Proofs.Messages
import SourceAtlas.Proofs.Objects
import SourceAtlas.Proofs.OlderEngines
import SourceAtlas.Proofs.Once
import SourceAtlas.Proofs.Outlines
import SourceAtlas.Proofs.Owner
import SourceAtlas.Proofs.Panics
import SourceAtlas.Proofs.ParseRequests
import SourceAtlas.Proofs.Places
import SourceAtlas.Proofs.Preorder
import SourceAtlas.Proofs.Presence
import SourceAtlas.Proofs.Probes
import SourceAtlas.Proofs.Provenance
import SourceAtlas.Proofs.Queries
import SourceAtlas.Proofs.Ranges
import SourceAtlas.Proofs.Reach
import SourceAtlas.Proofs.Recall
import SourceAtlas.Proofs.Recalling
import SourceAtlas.Proofs.References
import SourceAtlas.Proofs.Refusals
import SourceAtlas.Proofs.Renaming
import SourceAtlas.Proofs.Reparse
import SourceAtlas.Proofs.ReportCoverage
import SourceAtlas.Proofs.Reports
import SourceAtlas.Proofs.Sentinels
import SourceAtlas.Proofs.Sessions
import SourceAtlas.Proofs.Sharing
import SourceAtlas.Proofs.Sources
import SourceAtlas.Proofs.Spellings
import SourceAtlas.Proofs.Stability
import SourceAtlas.Proofs.Standing
import SourceAtlas.Proofs.States
import SourceAtlas.Proofs.Statuses
import SourceAtlas.Proofs.Steps
import SourceAtlas.Proofs.Success
import SourceAtlas.Proofs.Texts
import SourceAtlas.Proofs.Threads
import SourceAtlas.Proofs.Tokens
import SourceAtlas.Proofs.Transparency
import SourceAtlas.Proofs.TreeTexts
import SourceAtlas.Proofs.TreeViews
import SourceAtlas.Proofs.Trees
import SourceAtlas.Proofs.Turns
import SourceAtlas.Proofs.Types
import SourceAtlas.Proofs.Views
import SourceAtlas.Proofs.Visits
import SourceAtlas.Proofs.Walks
import SourceAtlas.Report.Ast
import SourceAtlas.Report.Load
import SourceAtlas.Report.Rows
import SourceAtlas.Report.Table
import SourceAtlas.Session.Answer
import SourceAtlas.Session.Count
import SourceAtlas.Session.Object
import SourceAtlas.Session.Query
import SourceAtlas.Session.Run
import SourceAtlas.Session.Step
import SourceAtlas.Store.Act
import SourceAtlas.Store.Resource
import SourceAtlas.Store.Trace
import SourceAtlas.Store.World
import SourceAtlas.Text.CodeRange
import SourceAtlas.Text.Combining
import SourceAtlas.Text.Emoji
import SourceAtlas.Text.Inspect
import SourceAtlas.Text.Ligature
import SourceAtlas.Text.Unprintable
import SourceAtlas.Text.Utf8
import SourceAtlas.Text.Wide
import SourceAtlas.Text.Width
