import MetricBridge.Binary64.Basic
import MetricBridge.Binary64.Layout
import MetricBridge.Binary64.Read
import MetricBridge.Binary64.Rounding
import MetricBridge.Binary64.Shortest
import MetricBridge.CommandLine.Arguments
import MetricBridge.CommandLine.Run
import MetricBridge.Decimal.Bounded
import MetricBridge.Decimal.Digits
import MetricBridge.Dictionary
import MetricBridge.Export.Points
import MetricBridge.Export.Table
import MetricBridge.Fault
import MetricBridge.Ingest.Batch
import MetricBridge.Ingest.Link
import MetricBridge.Ingest.Plaintext
import MetricBridge.Ingest.Record
import MetricBridge.Json.Decode
import MetricBridge.Json.Flaw
import MetricBridge.Json.Read
import MetricBridge.Json.Sequence
import MetricBridge.Json.Skip
import MetricBridge.Json.Token
import MetricBridge.Json.Value
import MetricBridge.Main
import MetricBridge.Point
import MetricBridge.Point.Json
import MetricBridge.Read.Bounded
import MetricBridge.Read.Plan
import MetricBridge.Read.Query
import MetricBridge.Read.Tail
import MetricBridge.Render.Answer
import MetricBridge.Render.Request
import MetricBridge.Render.Status
import MetricBridge.Render.Wire
import MetricBridge.Selector
import MetricBridge.Selector.Read
import MetricBridge.Series
import MetricBridge.Series.Json
import MetricBridge.Session.Basic
import MetricBridge.Session.Steps
import MetricBridge.Settings.Basic
import MetricBridge.Settings.Environment
import MetricBridge.Settings.Json
import MetricBridge.Store.Glob
import MetricBridge.Store.Memory
import MetricBridge.Text.Alphanumeric
import MetricBridge.Text.Base64
import MetricBridge.Text.Blank
import MetricBridge.Text.CharSet
import MetricBridge.Text.Lines
import MetricBridge.Text.Percent
import MetricBridge.Text.Printable
import MetricBridge.Text.Quoted
import MetricBridge.Text.Remainder
import MetricBridge.Text.Terminal
import MetricBridge.Text.Utf8
import MetricBridge.Time.Calendar
import MetricBridge.Time.Duration
import MetricBridge.Time.Instant
import MetricBridge.Time.Rfc3339
import MetricBridge.Time.Rfc3339.Read
import MetricBridge.Url.Basic
import MetricBridge.Url.Host
import MetricBridge.Url.Read
import MetricBridge.Window.Interval
import MetricBridge.Window.Moment
import MetricBridge.Window.Options
import MetricBridge.Window.Range
import MetricBridge.Proofs.Decimal.Numerals
import MetricBridge.Proofs.Binary64.Rounding
import MetricBridge.Proofs.Binary64.ReadBack
import MetricBridge.Proofs.Ingest.Plaintext
import MetricBridge.Proofs.Point.Order
import MetricBridge.Proofs.Dictionary
import MetricBridge.Proofs.Store.Samples
import MetricBridge.Proofs.Ingest.Batch
import MetricBridge.Proofs.Read.Bounded
import MetricBridge.Proofs.Store.Submissions
import MetricBridge.Proofs.RoundTrip
import MetricBridge.Proofs.Read.Delivery
import MetricBridge.Proofs.Read.Agreement
import MetricBridge.Proofs.Read.Gaps
import MetricBridge.Proofs.Selector.Constraint
import MetricBridge.Proofs.Store.Glob
import MetricBridge.Proofs.Read.ByName
import MetricBridge.Proofs.Series.Points
import MetricBridge.Proofs.Read.Exact
import MetricBridge.Proofs.Read.Cancellation
import MetricBridge.Proofs.Ingest.Carriage
import MetricBridge.Proofs.Binary64.Whole
import MetricBridge.Proofs.Ingest.Acceptance
import MetricBridge.Proofs.Ingest.Payload
import MetricBridge.Proofs.Read.Failure
import MetricBridge.Proofs.Time.Earlier
import MetricBridge.Proofs.Window.Resolution
import MetricBridge.Proofs.Window.LookBack
import MetricBridge.Proofs.Read.Planning
import MetricBridge.Proofs.CommandLine.Preparation
import MetricBridge.Proofs.CommandLine.Output
import MetricBridge.Proofs.Window.Seconds
import MetricBridge.Proofs.Series.Sorting
import MetricBridge.Proofs.Selector.Printing
import MetricBridge.Proofs.Window.Wrapping
import MetricBridge.Proofs.Window.Amounts
import MetricBridge.Proofs.Time.Calendar
import MetricBridge.Proofs.Time.Timestamps
import MetricBridge.Proofs.Window.Elapsed
import MetricBridge.Proofs.Ingest.Stamping
import MetricBridge.Proofs.Text.Letters
import MetricBridge.Proofs.Time.Letters
import MetricBridge.Proofs.Window.Letters
import MetricBridge.Export.Relay
import MetricBridge.Proofs.CommandLine.Splitting
import MetricBridge.Proofs.Export.Calls
import MetricBridge.Proofs.Export.Completeness
import MetricBridge.Proofs.Store.Patterns
import MetricBridge.Proofs.Selector.Calls
import MetricBridge.Proofs.Json.Grammar
import MetricBridge.Proofs.Json.Strings
import MetricBridge.Proofs.Json.Skipping
import MetricBridge.Proofs.Json.Structures
import MetricBridge.Proofs.Settings.Agreement
import MetricBridge.Proofs.Json.Writing
