import ChatFlow.Ai.Completion
import ChatFlow.Ai.Retry
import ChatFlow.Cli.Arguments
import ChatFlow.Cli.Help
import ChatFlow.Cli.Program
import ChatFlow.Cli.Simulation
import ChatFlow.Condition
import ChatFlow.Conversation
import ChatFlow.Decimal.Binary
import ChatFlow.Decimal.Reading
import ChatFlow.Decimal.Shortest
import ChatFlow.Delay
import ChatFlow.Engine.Call
import ChatFlow.Engine.Inbound
import ChatFlow.Engine.Output
import ChatFlow.Engine.Process
import ChatFlow.Engine.Resume
import ChatFlow.Engine.Step
import ChatFlow.Engine.Turn
import ChatFlow.Engine.Walk
import ChatFlow.Error
import ChatFlow.Event
import ChatFlow.Execution
import ChatFlow.Files
import ChatFlow.Flow.Builder
import ChatFlow.Flow.Definition
import ChatFlow.Flow.Graph
import ChatFlow.Flow.Index
import ChatFlow.Flow.Library
import ChatFlow.Flow.Loading
import ChatFlow.Flow.Node
import ChatFlow.Gateway.Routes
import ChatFlow.Gateway.Webhook
import ChatFlow.Http.Exchange
import ChatFlow.Http.MediaType
import ChatFlow.Http.Status
import ChatFlow.Http.Url
import ChatFlow.Ingress.Handling
import ChatFlow.Ingress.Pool
import ChatFlow.Json.NumberText
import ChatFlow.Json.Reading
import ChatFlow.Json.Record
import ChatFlow.Json.Tree
import ChatFlow.Json.Value
import ChatFlow.Json.Writing
import ChatFlow.Keyed
import ChatFlow.Main
import ChatFlow.Media.Kind
import ChatFlow.Media.Probe
import ChatFlow.Outbound.Chunks
import ChatFlow.Outbound.Provider
import ChatFlow.Prompt
import ChatFlow.Proofs.Ai.Retries
import ChatFlow.Proofs.Books
import ChatFlow.Proofs.Condition.Labels
import ChatFlow.Proofs.Condition.Naming
import ChatFlow.Proofs.Condition.Priorities
import ChatFlow.Proofs.Condition.Resolution
import ChatFlow.Proofs.Condition.Selection
import ChatFlow.Proofs.Decimal
import ChatFlow.Proofs.Delay.Accounts
import ChatFlow.Proofs.Delay.Couriers
import ChatFlow.Proofs.Delay.Ledger
import ChatFlow.Proofs.Delay.Pending
import ChatFlow.Proofs.Delay.Postponing
import ChatFlow.Proofs.Delay.Runs
import ChatFlow.Proofs.Delay.Timing
import ChatFlow.Proofs.Delay.Tracking
import ChatFlow.Proofs.Engine.Charge
import ChatFlow.Proofs.Engine.Conduct
import ChatFlow.Proofs.Engine.Courses
import ChatFlow.Proofs.Engine.Cuts
import ChatFlow.Proofs.Engine.Dangling
import ChatFlow.Proofs.Engine.Diary
import ChatFlow.Proofs.Engine.Interference
import ChatFlow.Proofs.Engine.Lookups
import ChatFlow.Proofs.Engine.Openings
import ChatFlow.Proofs.Engine.Ownership
import ChatFlow.Proofs.Engine.Parked
import ChatFlow.Proofs.Engine.Parts
import ChatFlow.Proofs.Engine.Position
import ChatFlow.Proofs.Engine.Reachable
import ChatFlow.Proofs.Engine.Renaming
import ChatFlow.Proofs.Engine.Replies
import ChatFlow.Proofs.Engine.Requests
import ChatFlow.Proofs.Engine.Resumption
import ChatFlow.Proofs.Engine.Serving
import ChatFlow.Proofs.Engine.Story
import ChatFlow.Proofs.Engine.Traffic
import ChatFlow.Proofs.Engine.Turns
import ChatFlow.Proofs.Flow.Choosing
import ChatFlow.Proofs.Flow.Loading
import ChatFlow.Proofs.Flow.Paths
import ChatFlow.Proofs.Flow.Undelayed
import ChatFlow.Proofs.Flow.Validation
import ChatFlow.Proofs.Flow.Writing
import ChatFlow.Proofs.Gateway.Admission
import ChatFlow.Proofs.Gateway.Lookup
import ChatFlow.Proofs.Ingress.Ledger
import ChatFlow.Proofs.Ingress.Shift
import ChatFlow.Proofs.Ingress.Turns
import ChatFlow.Proofs.Journal
import ChatFlow.Proofs.Json.Documents
import ChatFlow.Proofs.Json.Locality
import ChatFlow.Proofs.Json.Numbers
import ChatFlow.Proofs.Json.Strings
import ChatFlow.Proofs.Json.Values
import ChatFlow.Proofs.Keyed
import ChatFlow.Proofs.Lock.Calls
import ChatFlow.Proofs.Lock.Crowd
import ChatFlow.Proofs.Lock.Exclusion
import ChatFlow.Proofs.Lock.Rows
import ChatFlow.Proofs.Lock.Takeover
import ChatFlow.Proofs.Lock.Threshold
import ChatFlow.Proofs.Outbound.Cutting
import ChatFlow.Proofs.Outbound.Delivery
import ChatFlow.Proofs.Outbound.Layout
import ChatFlow.Proofs.Outbound.Rejoining
import ChatFlow.Proofs.Outbound.Splitting
import ChatFlow.Proofs.Process.Renaming
import ChatFlow.Proofs.Process.Safety
import ChatFlow.Proofs.Process.Script
import ChatFlow.Proofs.Process.Trace
import ChatFlow.Proofs.Rehearsal.Captures
import ChatFlow.Proofs.Rehearsal.Histories
import ChatFlow.Proofs.Reply.Blanks
import ChatFlow.Proofs.Reply.Drafts
import ChatFlow.Proofs.Reply.Extraction
import ChatFlow.Proofs.Reply.Fences
import ChatFlow.Proofs.Reply.Silence
import ChatFlow.Proofs.Scene
import ChatFlow.Proofs.Settings.References
import ChatFlow.Proofs.Store.Columns
import ChatFlow.Proofs.Store.Lives
import ChatFlow.Proofs.Store.Parts
import ChatFlow.Proofs.Store.Recency
import ChatFlow.Proofs.Store.Rows
import ChatFlow.Proofs.Store.Variables
import ChatFlow.Proofs.Support
import ChatFlow.Proofs.Template
import ChatFlow.Proofs.Text.Cuts
import ChatFlow.Proofs.Time.Calendar
import ChatFlow.Proofs.Time.Timestamp
import ChatFlow.Proofs.Transcript
import ChatFlow.Proofs.Turn.Aftermath
import ChatFlow.Proofs.Turn.Awaiting
import ChatFlow.Proofs.Turn.Bearing
import ChatFlow.Proofs.Turn.BestEffort
import ChatFlow.Proofs.Turn.Blanks
import ChatFlow.Proofs.Turn.Diary
import ChatFlow.Proofs.Turn.Echoes
import ChatFlow.Proofs.Turn.Legs
import ChatFlow.Proofs.Turn.Moves
import ChatFlow.Proofs.Turn.Parking
import ChatFlow.Proofs.Turn.Paths
import ChatFlow.Proofs.Turn.Progress
import ChatFlow.Proofs.Turn.Recital
import ChatFlow.Proofs.Turn.Renaming
import ChatFlow.Proofs.Turn.Report
import ChatFlow.Proofs.Turn.Route
import ChatFlow.Proofs.Turn.Script
import ChatFlow.Proofs.Turn.Slots
import ChatFlow.Proofs.Turn.Steady
import ChatFlow.Proofs.Turn.Steps
import ChatFlow.Proofs.Turn.Story
import ChatFlow.Proofs.Turn.Trail
import ChatFlow.Proofs.Turn.Truncation
import ChatFlow.Proofs.Turn.Walk
import ChatFlow.Rehearsal.Crew
import ChatFlow.Rehearsal.Play
import ChatFlow.Rehearsal.Script
import ChatFlow.Rehearsal.Stage
import ChatFlow.Reply
import ChatFlow.Settings
import ChatFlow.Settings.Environment
import ChatFlow.Settings.Reading
import ChatFlow.Settings.Writing
import ChatFlow.Store.Basic
import ChatFlow.Store.Database
import ChatFlow.Store.Executions
import ChatFlow.Store.Locks
import ChatFlow.Store.Records
import ChatFlow.Store.Session
import ChatFlow.Store.Variables
import ChatFlow.Template
import ChatFlow.Text.Ascii
import ChatFlow.Text.Blank
import ChatFlow.Text.Search
import ChatFlow.Text.Upper
import ChatFlow.Time.Calendar
import ChatFlow.Time.Span
import ChatFlow.Time.Timestamp
import ChatFlow.Toml.Item
import ChatFlow.Toml.Quoted
import ChatFlow.Toml.Reading
import ChatFlow.Toml.Scalar
import ChatFlow.Toml.Value
import ChatFlow.Toml.Writing
