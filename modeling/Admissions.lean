import Admissions.AdmissionError
import Admissions.Application
import Admissions.Application.Codec
import Admissions.Backends
import Admissions.Category
import Admissions.Cli.Command
import Admissions.Cli.Complete
import Admissions.Cli.Program
import Admissions.Cli.Run
import Admissions.Cli.Shell.Bash
import Admissions.Cli.Shell.Fish
import Admissions.Cli.Shell.PowerShell
import Admissions.Cli.Shell.Template
import Admissions.Cli.Shell.Zsh
import Admissions.Cli.Table
import Admissions.Config.Decode
import Admissions.Config.Layers
import Admissions.Config.Load
import Admissions.Config.Report
import Admissions.Config.Service
import Admissions.Config.Value
import Admissions.Config.Weak
import Admissions.Decimal.Basic
import Admissions.Decimal.Binary
import Admissions.Decimal.Double
import Admissions.Decimal.Text
import Admissions.ExamNumber
import Admissions.Failure
import Admissions.Gateway
import Admissions.Json.Basic
import Admissions.Json.Decode
import Admissions.Json.Read
import Admissions.Json.Write
import Admissions.Locks
import Admissions.Mail.Address
import Admissions.Main
import Admissions.Notification
import Admissions.Outbox
import Admissions.Pattern.Class
import Admissions.Pattern.Machine
import Admissions.Pattern.Parse
import Admissions.Pattern.Tree
import Admissions.Phone
import Admissions.Proofs.Decimal
import Admissions.Proofs.Decimal.Numeral
import Admissions.Proofs.ExamNumber
import Admissions.Proofs.Gateway
import Admissions.Proofs.Json.Text
import Admissions.Proofs.Locks
import Admissions.Proofs.Locks.Ownership
import Admissions.Proofs.Phone
import Admissions.Proofs.Quota
import Admissions.Proofs.Registry
import Admissions.Proofs.Roster.Numbering
import Admissions.Proofs.Run
import Admissions.Proofs.Score.Consistency
import Admissions.Proofs.Score.Monotone
import Admissions.Proofs.Score.Range
import Admissions.Proofs.Selection.Atomicity
import Admissions.Proofs.Selection.Batch
import Admissions.Proofs.Selection.Calls
import Admissions.Proofs.Selection.Exclusion
import Admissions.Proofs.Selection.Final
import Admissions.Proofs.Selection.Lease
import Admissions.Proofs.Selection.Pairing
import Admissions.Proofs.Selection.Rank
import Admissions.Proofs.Selection.ScoreSheet
import Admissions.Proofs.Selection.Separate
import Admissions.Proofs.Selection.Walk
import Admissions.Proofs.Sheet.Rows
import Admissions.Proofs.Sheet.Read
import Admissions.Proofs.Service
import Admissions.Proofs.Settings.Keyed
import Admissions.Proofs.Settings.Policy
import Admissions.Proofs.Sheet.Codec
import Admissions.Proofs.Sheet.Count
import Admissions.Proofs.Sheet.Reference
import Admissions.Proofs.Store.Lifecycle
import Admissions.Proofs.Store.Transaction
import Admissions.Proofs.Template
import Admissions.Proofs.Worker.Frame
import Admissions.Proofs.Worker.Lifecycle
import Admissions.Proofs.Worker.Notices
import Admissions.Proofs.Worker.Submit
import Admissions.Proofs.Worker.Verdict
import Admissions.Quota
import Admissions.Random.LaggedFibonacci
import Admissions.Random.Uuid
import Admissions.Registry
import Admissions.Roster
import Admissions.Roster.Report
import Admissions.Scenario.Names
import Admissions.Scenario.Run
import Admissions.Scenario.Step
import Admissions.Schema.Basic
import Admissions.Schema.Check
import Admissions.Schema.Format
import Admissions.Schema.Node
import Admissions.Schema.Read
import Admissions.Schema.Reference
import Admissions.Score.FirstRound
import Admissions.Score.SecondRound
import Admissions.Search.Document
import Admissions.Search.Index
import Admissions.SecondRound
import Admissions.Selection
import Admissions.Selection.Batch
import Admissions.Selection.Calls
import Admissions.Selection.Report
import Admissions.Settings.Admission
import Admissions.Sheet.Cell
import Admissions.Sheet.Parse
import Admissions.Status
import Admissions.Store.Basic
import Admissions.Store.Repository
import Admissions.Store.Statement
import Admissions.Text.Base64
import Admissions.Text.Bytes
import Admissions.Text.Case
import Admissions.Text.Category
import Admissions.Text.Numeral
import Admissions.Text.Printable
import Admissions.Text.Quote
import Admissions.Text.Script
import Admissions.Time.Duration
import Admissions.Time.Instant
import Admissions.Time.Text
import Admissions.Url.Basic
import Admissions.Url.Escape
import Admissions.Url.Ip
import Admissions.Word
import Admissions.Worker.Handle
import Admissions.Worker.Input
import Admissions.Worker.Job
import Admissions.Yaml.Compose
import Admissions.Yaml.Decode
import Admissions.Yaml.Parse
import Admissions.Yaml.Resolve
import Admissions.Yaml.Scan
