import AdMonitor.Account
import AdMonitor.Account.File
import AdMonitor.Accumulation
import AdMonitor.Accumulation.Tracker
import AdMonitor.Action
import AdMonitor.Action.Execution
import AdMonitor.Action.Record
import AdMonitor.Agent
import AdMonitor.Agent.Check
import AdMonitor.Agent.File
import AdMonitor.Budget
import AdMonitor.Call
import AdMonitor.CommandLine.Arguments
import AdMonitor.CommandLine.Display
import AdMonitor.CommandLine.Invocation
import AdMonitor.CommandLine.Session
import AdMonitor.Condition
import AdMonitor.Condition.Check
import AdMonitor.Condition.Form
import AdMonitor.Condition.Report
import AdMonitor.Decimal.Reading
import AdMonitor.Decimal.Shortest
import AdMonitor.Decimal.Text
import AdMonitor.Entity
import AdMonitor.Event
import AdMonitor.Event.Bus
import AdMonitor.Failure
import AdMonitor.Firing
import AdMonitor.Instant
import AdMonitor.Instant.Calendar
import AdMonitor.Instant.Reader
import AdMonitor.Instant.Writer
import AdMonitor.Json
import AdMonitor.Json.Decoder
import AdMonitor.Json.Reader
import AdMonitor.Json.Writer
import AdMonitor.Main
import AdMonitor.Metric
import AdMonitor.Monitor
import AdMonitor.NamePair
import AdMonitor.Program
import AdMonitor.Proofs.Account.Changes
import AdMonitor.Proofs.Account.File
import AdMonitor.Proofs.Account.Frame
import AdMonitor.Proofs.Accumulation.Conversion
import AdMonitor.Proofs.Accumulation.Edits
import AdMonitor.Proofs.Accumulation.Run
import AdMonitor.Proofs.Accumulation.Ticks
import AdMonitor.Proofs.Accumulation.Windows
import AdMonitor.Proofs.Action.Campaigns
import AdMonitor.Proofs.Action.Posting
import AdMonitor.Proofs.Action.Rescaling
import AdMonitor.Proofs.Action.Sequence
import AdMonitor.Proofs.Agent.Acceptance
import AdMonitor.Proofs.Agent.WellFormed
import AdMonitor.Proofs.Budget.Bounds
import AdMonitor.Proofs.Budget.Compounding
import AdMonitor.Proofs.Budget.Stage
import AdMonitor.Proofs.Condition.Acceptance
import AdMonitor.Proofs.Condition.Evaluation
import AdMonitor.Proofs.Condition.Explanation
import AdMonitor.Proofs.Condition.Truth
import AdMonitor.Proofs.Decimal.Finite
import AdMonitor.Proofs.Decimal.NegativeZero
import AdMonitor.Proofs.Decimal.Order
import AdMonitor.Proofs.Instant.Calendar
import AdMonitor.Proofs.Instant.Order
import AdMonitor.Proofs.Instant.RoundTrip
import AdMonitor.Proofs.Interleaving.Accounting
import AdMonitor.Proofs.Interleaving.Bookkeeping
import AdMonitor.Proofs.Interleaving.Collection
import AdMonitor.Proofs.Interleaving.Counting
import AdMonitor.Proofs.Interleaving.Deletion
import AdMonitor.Proofs.Interleaving.Evolution
import AdMonitor.Proofs.Interleaving.Exclusion
import AdMonitor.Proofs.Interleaving.Foresight
import AdMonitor.Proofs.Interleaving.History
import AdMonitor.Proofs.Interleaving.Isolation
import AdMonitor.Proofs.Interleaving.Lasting
import AdMonitor.Proofs.Interleaving.Locality
import AdMonitor.Proofs.Interleaving.Locks
import AdMonitor.Proofs.Interleaving.LoneTick
import AdMonitor.Proofs.Interleaving.Memory
import AdMonitor.Proofs.Interleaving.Narration
import AdMonitor.Proofs.Interleaving.Pending
import AdMonitor.Proofs.Interleaving.Persistence
import AdMonitor.Proofs.Interleaving.Phases
import AdMonitor.Proofs.Interleaving.Provenance
import AdMonitor.Proofs.Interleaving.Regime
import AdMonitor.Proofs.Interleaving.Replay
import AdMonitor.Proofs.Interleaving.Reports
import AdMonitor.Proofs.Interleaving.Requests
import AdMonitor.Proofs.Interleaving.Restraint
import AdMonitor.Proofs.Interleaving.Scene
import AdMonitor.Proofs.Interleaving.Scope
import AdMonitor.Proofs.Interleaving.Serial
import AdMonitor.Proofs.Interleaving.Shared
import AdMonitor.Proofs.Interleaving.Solo
import AdMonitor.Proofs.Interleaving.Soundness
import AdMonitor.Proofs.Interleaving.System
import AdMonitor.Proofs.Interleaving.Traces
import AdMonitor.Proofs.Interleaving.Visits
import AdMonitor.Proofs.Interleaving.Waiting
import AdMonitor.Proofs.Json.Decoding
import AdMonitor.Proofs.Json.Numbers
import AdMonitor.Proofs.Json.RoundTrip
import AdMonitor.Proofs.Json.Text
import AdMonitor.Proofs.Metric.Derivation
import AdMonitor.Proofs.Metric.Requirement
import AdMonitor.Proofs.Metric.Totals
import AdMonitor.Proofs.Overflow
import AdMonitor.Proofs.Program.Alike
import AdMonitor.Proofs.Program.Follows
import AdMonitor.Proofs.Program.Play
import AdMonitor.Proofs.Program.Trace
import AdMonitor.Proofs.Stepwise
import AdMonitor.Proofs.Store.Agents
import AdMonitor.Proofs.Store.Marks
import AdMonitor.Proofs.Store.States
import AdMonitor.Proofs.Target.Alone
import AdMonitor.Proofs.Target.Gaps
import AdMonitor.Proofs.Target.Keys
import AdMonitor.Proofs.Target.Provider
import AdMonitor.Proofs.Tick.Slots
import AdMonitor.Proofs.Tick.Stage
import AdMonitor.Proofs.Trigger.Run
import AdMonitor.Proofs.Trigger.Step
import AdMonitor.Proofs.Visit.Alike
import AdMonitor.Proofs.Visit.Announcement
import AdMonitor.Proofs.Visit.Decision
import AdMonitor.Proofs.Visit.Forecast
import AdMonitor.Proofs.Visit.Holding
import AdMonitor.Proofs.Visit.Orders
import AdMonitor.Proofs.Visit.Outcome
import AdMonitor.Proofs.Visit.Reading
import AdMonitor.Proofs.Visit.Run
import AdMonitor.Proofs.Visit.Stage
import AdMonitor.Proofs.Visit.Staleness
import AdMonitor.Query
import AdMonitor.Retry
import AdMonitor.Settings
import AdMonitor.Settings.EnvironmentFile
import AdMonitor.Settings.Lines
import AdMonitor.Settings.Source
import AdMonitor.Settings.Value
import AdMonitor.Simulation.Job
import AdMonitor.Simulation.Locks
import AdMonitor.Simulation.Runner
import AdMonitor.Simulation.Script
import AdMonitor.Simulation.World
import AdMonitor.Span
import AdMonitor.Store.Agents
import AdMonitor.Store.States
import AdMonitor.Table
import AdMonitor.Target
import AdMonitor.Target.Reading
import AdMonitor.Text.Blank
import AdMonitor.Tick
import AdMonitor.Tick.Replay
import AdMonitor.Tick.Run
import AdMonitor.Trigger
import AdMonitor.Url
import AdMonitor.Url.Address
import AdMonitor.Url.CodePoints
import AdMonitor.Url.Domain
import AdMonitor.Url.Fault
import AdMonitor.Url.Parser
import AdMonitor.Visit
import AdMonitor.Webhook
