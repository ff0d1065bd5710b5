import Intake.Batch.Pool
import Intake.Calendar.Date
import Intake.Calendar.Daylight
import Intake.Calendar.Instant
import Intake.Calendar.TimeUnit
import Intake.Calendar.Zone
import Intake.Cli.Arguments
import Intake.Cli.Invocation
import Intake.Cli.Message
import Intake.Cli.Run
import Intake.Column.Basic
import Intake.Column.FieldType
import Intake.Document.Node
import Intake.Document.Scalar
import Intake.Document.Text
import Intake.Document.Token
import Intake.Document.Token.Lexer
import Intake.Document.Tree
import Intake.Failure
import Intake.Json.Basic
import Intake.Json.Cursor
import Intake.Json.Numeral
import Intake.Json.Reader
import Intake.Json.Writer
import Intake.Layout.Basic
import Intake.Layout.Fields
import Intake.Layout.Pattern
import Intake.Layout.Reader
import Intake.Layout.Rfc2822
import Intake.Layout.Rfc3339
import Intake.Layout.Scan
import Intake.Main
import Intake.NameMap
import Intake.Proofs.Schema.Interleaving
import Intake.Proofs.Text.ByteOrder
import Intake.Number.Basic
import Intake.Number.Binary
import Intake.Number.Shortest
import Intake.Platform
import Intake.Record.Basic
import Intake.Record.Context
import Intake.Record.Pool
import Intake.Record.Reader
import Intake.Regex.Basic
import Intake.Regex.Parser
import Intake.Regex.Scanner
import Intake.Regex.Size
import Intake.Schema.Detect
import Intake.Schema.Discovery
import Intake.Schema.KeyFilter
import Intake.Schema.Tracker
import Intake.Settings.Basic
import Intake.Settings.Decode
import Intake.Settings.Reader
import Intake.Settings.Validate
import Intake.Text.Blank
import Intake.Text.Decimal
import Intake.Text.Lines
import Intake.Text.Utf8
import Intake.Text.Visible
import Intake.Unicode.CaseFolding
import Intake.Unicode.Category
import Intake.Unicode.CharSet
import Intake.Unicode.Lookup
import Intake.Unicode.Property
import Intake.Unicode.Script
import Intake.Unicode.ScriptExtension
import Intake.Proofs.Schema.Fate
import Intake.Proofs.Schema.Accounting
import Intake.Proofs.Schema.Concurrent
import Intake.Proofs.Schema.Undisturbed
import Intake.Proofs.Schema.History
import Intake.Proofs.Layout.Reader
import Intake.Proofs.Record.Repeatability
import Intake.Proofs.Record.Inference
import Intake.Proofs.Settings.Validate
import Intake.Proofs.Schema.Columns
import Intake.Proofs.Number.Binary
import Intake.Proofs.Number.Integral
import Intake.Proofs.Record.Timestamp
import Intake.Proofs.Layout.Digits
import Intake.Proofs.Layout.Steps
import Intake.Proofs.Layout.Mail
import Intake.Proofs.Layout.Strict
import Intake.Proofs.Layout.Defaults
import Intake.Proofs.Cli.Crew
import Intake.Proofs.Cli.Ledger
import Intake.Proofs.Cli.OneSlot
import Intake.Proofs.Cli.Discover
import Intake.Proofs.Record.Extraction
import Intake.Proofs.Record.Pool
import Intake.Proofs.Layout.Footprint
import Intake.Proofs.Layout.WallTime
import Intake.Proofs.Layout.Faithful
import Intake.Proofs.Calendar.Date
import Intake.Proofs.Layout.Written
import Intake.Proofs.Layout.LeapSecond
import Intake.Proofs.Record.Writable
import Intake.Proofs.Record.Idempotence
import Intake.Proofs.Cli.Records
import Intake.Proofs.Cli.Refusal
import Intake.Proofs.Batch.Accounts
import Intake.Proofs.Schema.Detection
import Intake.Proofs.Batch.Progress
import Intake.Proofs.Batch.Replay
import Intake.Proofs.Batch.Reported
import Intake.Proofs.Layout.Noted
import Intake.Proofs.Layout.Memory
import Intake.Proofs.Record.Elementwise
import Intake.Proofs.Calendar.Zone
import Intake.Proofs.Layout.YearFirst
import Intake.Proofs.Calendar.ZoneName
import Intake.Proofs.Record.Nullable
import Intake.Proofs.Settings.Faults
import Intake.Proofs.Document.Shown
import Intake.Proofs.Settings.Reload
import Intake.Proofs.Number.Rational
import Intake.Proofs.Calendar.TimeUnit
import Intake.Proofs.Number.Decoding
