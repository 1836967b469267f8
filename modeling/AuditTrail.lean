import AuditTrail.Access.Name
import AuditTrail.Access.Permission
import AuditTrail.Access.Resource
import AuditTrail.CommandLine.Finding
import AuditTrail.CommandLine.Reply
import AuditTrail.CommandLine.Request
import AuditTrail.CommandLine.Switch
import AuditTrail.Config.Basic
import AuditTrail.Config.BuiltIn
import AuditTrail.Config.Load
import AuditTrail.Config.Overrides
import AuditTrail.Config.Validation
import AuditTrail.Data
import AuditTrail.Event.Basic
import AuditTrail.Event.Uuid
import AuditTrail.Event.Validation
import AuditTrail.Fault
import AuditTrail.Files.Glob
import AuditTrail.Files.Path
import AuditTrail.Files.Tree
import AuditTrail.Journal.Basic
import AuditTrail.Journal.Record
import AuditTrail.Json.Reader
import AuditTrail.Json.Writer
import AuditTrail.LogFormat.Error
import AuditTrail.LogFormat.Field
import AuditTrail.LogFormat.Template
import AuditTrail.LogFormat.Token
import AuditTrail.Main
import AuditTrail.Metrics
import AuditTrail.Number.Binary64
import AuditTrail.Number.Decimal
import AuditTrail.Number.Rounding
import AuditTrail.Pattern.Match
import AuditTrail.Pattern.Parser
import AuditTrail.Pattern.Replacement
import AuditTrail.Pattern.Syntax
import AuditTrail.Pipeline.Backend
import AuditTrail.Pipeline.Basic
import AuditTrail.Pipeline.Build
import AuditTrail.Pipeline.Logging
import AuditTrail.Redaction
import AuditTrail.Schema.Composite
import AuditTrail.Schema.Issue
import AuditTrail.Schema.Scalar
import AuditTrail.Substitution
import AuditTrail.Text.Blank
import AuditTrail.Text.Case
import AuditTrail.Text.CaseTable
import AuditTrail.Text.Fold
import AuditTrail.Text.PrintableTable
import AuditTrail.Text.Quoted
import AuditTrail.Text.Ranges
import AuditTrail.Text.Utf8
import AuditTrail.Text.Word
import AuditTrail.Text.WordTable
import AuditTrail.Time.Calendar
import AuditTrail.Time.Database
import AuditTrail.Time.Format
import AuditTrail.Time.Instant
import AuditTrail.Time.Zone
import AuditTrail.Whitelist.Cache
import AuditTrail.Whitelist.Exemption
import AuditTrail.Whitelist.Filter
import AuditTrail.Whitelist.Request
import AuditTrail.Whitelist.Scope
import AuditTrail.Whitelist.Store
import AuditTrail.Yaml.Block
import AuditTrail.Yaml.Cursor
import AuditTrail.Yaml.Form
import AuditTrail.Yaml.Label
import AuditTrail.Yaml.Layout
import AuditTrail.Yaml.Moment
import AuditTrail.Yaml.Node
import AuditTrail.Yaml.Plain
import AuditTrail.Yaml.Quoted
import AuditTrail.Yaml.Source
import AuditTrail.Yaml.Token
import AuditTrail.Yaml.Value
import AuditTrail.Proofs.Pattern.Matching
import AuditTrail.Proofs.Pattern.Repetition
import AuditTrail.Proofs.Redaction.PasswordCut
import AuditTrail.Proofs.Redaction.PasswordMatch
import AuditTrail.Proofs.Redaction.QuotedPassword
import AuditTrail.Proofs.Redaction.Masking
import AuditTrail.Proofs.Redaction.LastHit
import AuditTrail.Proofs.Redaction.Repeated
import AuditTrail.Proofs.LogFormat.Compile
import AuditTrail.Proofs.Pipeline.Noninterference
import AuditTrail.Proofs.Pattern.Replacement
import AuditTrail.Proofs.Substitution.Template
import AuditTrail.Proofs.LogFormat.Rendering
import AuditTrail.Proofs.Pipeline.NakedOperation
import AuditTrail.Proofs.Whitelist.Decision
import AuditTrail.Proofs.Lookup
import AuditTrail.Proofs.Whitelist.History
import AuditTrail.Proofs.Files.Tree
import AuditTrail.Proofs.Files.Place
import AuditTrail.Proofs.Journal.Run
import AuditTrail.Proofs.Journal.Rotation
import AuditTrail.Proofs.Journal.Foreign
import AuditTrail.Proofs.Journal.Stamp
import AuditTrail.Proofs.Journal.Archive
import AuditTrail.Proofs.Journal.Retention
import AuditTrail.Proofs.Journal.OldFiles
import AuditTrail.Proofs.Journal.Line
import AuditTrail.Proofs.Journal.Size
import AuditTrail.Proofs.Json.RoundTrip
import AuditTrail.Proofs.Journal.Records
import AuditTrail.Proofs.Whitelist.Caching
import AuditTrail.Proofs.Whitelist.Freshness
import AuditTrail.Proofs.Pipeline.Passage
import AuditTrail.Proofs.Pipeline.Timing
import AuditTrail.Proofs.LogFormat.Unescaped
import AuditTrail.Proofs.Pipeline.Acceptance
import AuditTrail.Proofs.Pipeline.Commit
import AuditTrail.Proofs.CommandLine.Preview
import AuditTrail.Proofs.Substitution.Percent
import AuditTrail.Proofs.Access.Acceptance
import AuditTrail.Proofs.LogFormat.FieldPattern
import AuditTrail.Proofs.LogFormat.Cutting
import AuditTrail.Proofs.LogFormat.Printing
import AuditTrail.Proofs.Whitelist.Leaves
import AuditTrail.Proofs.Redaction.Splicing
import AuditTrail.Proofs.Whitelist.Eviction
import AuditTrail.Proofs.Whitelist.Accounting
import AuditTrail.Proofs.Whitelist.EmptyBuckets
import AuditTrail.Proofs.Access.PathOrder
import AuditTrail.Proofs.Whitelist.Monotone
import AuditTrail.Proofs.Whitelist.ListedNames
import AuditTrail.Proofs.Text.Letters
import AuditTrail.Proofs.Whitelist.OptionNames
import AuditTrail.Proofs.LogFormat.Resolution
import AuditTrail.Proofs.Number.Nearest
import AuditTrail.Proofs.Time.Dating
import AuditTrail.Proofs.LogFormat.StandardFields
import AuditTrail.Proofs.Journal.Counter
import AuditTrail.Proofs.Pipeline.Refusals
import AuditTrail.Proofs.Config.Loading
import AuditTrail.Proofs.Text.Utf8
import AuditTrail.Proofs.Config.Files
import AuditTrail.Proofs.Time.Directives
import AuditTrail.Proofs.Time.DirectivePattern
import AuditTrail.Proofs.LogFormat.TimeFormats
