import LintRelay.Main
import LintRelay.Report.Cells
import LintRelay.Proofs.CommandLine.Rereading
import LintRelay.Schema.Outcome
import LintRelay.Validation.Session
import LintRelay.Proofs.Validation.Effects
import LintRelay.Proofs.Validation.Runs
import LintRelay.Proofs.Validation.Tokens
import LintRelay.Proofs.Validation.Deliveries
import LintRelay.Proofs.Validation.Stages
import LintRelay.Proofs.Validation.Closing
import LintRelay.Proofs.Validation.Computing
import LintRelay.Proofs.Validation.Scheduling
import LintRelay.Proofs.Validation.Triggers
import LintRelay.Validation.Journal
import LintRelay.Proofs.Validation.Courses
import LintRelay.Proofs.Validation.Truthful
import LintRelay.Proofs.Validation.Records
import LintRelay.Proofs.Validation.Completing
import LintRelay.Proofs.Validation.EndToEnd
import LintRelay.Proofs.Settings.Effects
import LintRelay.Proofs.Settings.Fetches
import LintRelay.Proofs.Settings.Calls
import LintRelay.Proofs.Settings.SingleFlight
import LintRelay.Proofs.Settings.Invalidation
import LintRelay.Proofs.Settings.Failures
import LintRelay.Suggestion.Session
import LintRelay.Proofs.Suggestion.Pool
import LintRelay.Proofs.Suggestion.Polling
import LintRelay.Proofs.Suggestion.AnyOrder
import LintRelay.Proofs.Validation.Cancelling
import LintRelay.Proofs.Validation.Events
import LintRelay.Proofs.Validation.Sharing
import LintRelay.Proofs.Settings.Mirroring
import LintRelay.Proofs.Validation.Commuting
import LintRelay.Proofs.Validation.Isolation
import LintRelay.Proofs.Config.Loading
import LintRelay.Proofs.Report.Concatenation
import LintRelay.Proofs.Publication.Stream
import LintRelay.Proofs.Validation.Selecting
import LintRelay.Proofs.Validation.Failing
import LintRelay.Proofs.CommandLine.ExitStatus
import LintRelay.Proofs.CommandLine.JsonOutput
import LintRelay.Proofs.Results
import LintRelay.Proofs.Schema.Keeping
import LintRelay.Config.Schema
import LintRelay.Proofs.Config.Bounds
import LintRelay.Proofs.Suggestion.Endpoint
import LintRelay.Proofs.Config.Assembling
import LintRelay.Proofs.Slice
import LintRelay.Proofs.Report.Segmentation
import LintRelay.Proofs.Report.Layout
import LintRelay.Proofs.Report.LocationBlocks
import LintRelay.Proofs.Config.Expansion
import LintRelay.Proofs.Schema.Reading
import LintRelay.Proofs.Config.Settings
import LintRelay.Proofs.Config.Precedence
import LintRelay.Proofs.Text.Utf8
import LintRelay.Proofs.Uri.Percent
import LintRelay.Proofs.Linter.Reporting
import LintRelay.Proofs.Report.Indentation
import LintRelay.Proofs.Suggestion.Answering
import LintRelay.Proofs.Uri.File
import LintRelay.Proofs.Report.Cells
import LintRelay.Proofs.Report.Stopping
import LintRelay.Proofs.Console.Header
import LintRelay.Proofs.CommandLine.Titles
