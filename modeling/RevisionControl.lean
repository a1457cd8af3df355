import RevisionControl.Decimal.Double
import RevisionControl.Decimal.Shortest
import RevisionControl.Discovery
import RevisionControl.Error
import RevisionControl.FileTree.Basic
import RevisionControl.FileTree.Content
import RevisionControl.FileTree.Listing
import RevisionControl.FileTree.Making
import RevisionControl.FileTree.Path
import RevisionControl.FileTree.Walk
import RevisionControl.Fixture.Repository
import RevisionControl.Fixture.Run
import RevisionControl.Fixture.Settings
import RevisionControl.Git.Operations
import RevisionControl.Git.Output
import RevisionControl.Host.Basic
import RevisionControl.Host.Environment
import RevisionControl.Host.Fault
import RevisionControl.Json.Cursor
import RevisionControl.Json.Document
import RevisionControl.Json.Fault
import RevisionControl.Json.Numbers
import RevisionControl.Json.Record
import RevisionControl.Json.Skip
import RevisionControl.Json.Strings
import RevisionControl.Json.Value
import RevisionControl.Json.Writer
import RevisionControl.Launcher
import RevisionControl.Mercurial
import RevisionControl.Operation
import RevisionControl.Pushlog.Answer
import RevisionControl.Pushlog.Error
import RevisionControl.Pushlog.Lookup
import RevisionControl.Pushlog.Retry
import RevisionControl.Pushlog.Settings
import RevisionControl.Remote
import RevisionControl.Session
import RevisionControl.Text.Blank
import RevisionControl.Text.Fields
import RevisionControl.Text.Graphic
import RevisionControl.Text.Lines
import RevisionControl.Text.Mark
import RevisionControl.Text.Printable
import RevisionControl.Text.Quoted
import RevisionControl.Text.Ranges
import RevisionControl.Text.Utf8
import RevisionControl.Time.Civil
import RevisionControl.Tool
import RevisionControl.Web.Address
import RevisionControl.Web.Character
import RevisionControl.Web.CombiningClass
import RevisionControl.Web.Composition
import RevisionControl.Web.Direction
import RevisionControl.Web.Domain
import RevisionControl.Web.HostName
import RevisionControl.Web.Ip
import RevisionControl.Web.Joiner
import RevisionControl.Web.Percent
import RevisionControl.Web.Punycode
import RevisionControl.Web.Refusal
import RevisionControl.Web.Spelling
import RevisionControl.Web.Spelling.Arabic
import RevisionControl.Web.Spelling.Case
import RevisionControl.Web.Spelling.Ideographs
import RevisionControl.Web.Spelling.Letters
import RevisionControl.WorkingCopy
import RevisionControl.Proofs.Processes
import RevisionControl.Proofs.Operations
import RevisionControl.Proofs.DefaultBranch
import RevisionControl.Proofs.Text.Lines
import RevisionControl.Proofs.Text.Words
import RevisionControl.Proofs.Environments
import RevisionControl.Proofs.Attempts
import RevisionControl.Proofs.Lookups
import RevisionControl.Proofs.Roots
import RevisionControl.Proofs.Sessions
import RevisionControl.Proofs.Ledgers
import RevisionControl.Proofs.Failures
import RevisionControl.Proofs.Remotes
import RevisionControl.Proofs.RecordedBranches
import RevisionControl.Proofs.References
import RevisionControl.Proofs.Json.Branches
import RevisionControl.Proofs.Json.Grammar
import RevisionControl.Proofs.Json.Readers
import RevisionControl.Proofs.Json.Strings
import RevisionControl.Proofs.Json.Numbers
import RevisionControl.Proofs.Json.Values
import RevisionControl.Proofs.Json.Skipping
import RevisionControl.Proofs.Json.Mappings
import RevisionControl.Proofs.Json.Records
import RevisionControl.Proofs.Json.Writing
import RevisionControl.Proofs.Answers
import RevisionControl.Proofs.Ambiguities
import RevisionControl.Proofs.Configurations
import RevisionControl.Proofs.BaseRevisions
import RevisionControl.Proofs.Text.Decoding
import RevisionControl.Proofs.Outputs
import RevisionControl.Proofs.Locations
import RevisionControl.Proofs.Surroundings
import RevisionControl.Proofs.Discoveries
import RevisionControl.Proofs.Text.Quoted
import RevisionControl.Proofs.Messages
import RevisionControl.Proofs.Time.Calendar
import RevisionControl.Proofs.Time.Text
import RevisionControl.Proofs.Time.Bounds
import RevisionControl.Proofs.PushDates
import RevisionControl.Proofs.Walks
import RevisionControl.Proofs.Directories
import RevisionControl.Proofs.CurrentBranches
import RevisionControl.Proofs.Writes
import RevisionControl.Proofs.Fixtures
import RevisionControl.Proofs.Requests
import RevisionControl.Proofs.Listings
import RevisionControl.Proofs.WrittenSettings
