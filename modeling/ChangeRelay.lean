import ChangeRelay.Command.Basic
import ChangeRelay.Command.Bootstrap
import ChangeRelay.Command.Config
import ChangeRelay.Command.Graph
import ChangeRelay.Command.Network
import ChangeRelay.Command.Program
import ChangeRelay.Command.Resilience
import ChangeRelay.Command.Run
import ChangeRelay.Command.Sequence
import ChangeRelay.Command.Server
import ChangeRelay.Command.Store
import ChangeRelay.Command.Supervisor
import ChangeRelay.Command.Worker
import ChangeRelay.Config.Basic
import ChangeRelay.Config.Check
import ChangeRelay.Config.Yaml
import ChangeRelay.Decimal.Parse
import ChangeRelay.Decimal.Rounding
import ChangeRelay.Decimal.Shortest
import ChangeRelay.Decimal.Text
import ChangeRelay.Decode.Basic
import ChangeRelay.Decode.Document
import ChangeRelay.Decode.Streaming
import ChangeRelay.Digest.Sha256
import ChangeRelay.Error
import ChangeRelay.Event.Batch
import ChangeRelay.Event.Dataverse
import ChangeRelay.Event.EventHub
import ChangeRelay.Event.Kubernetes
import ChangeRelay.Event.Mapping
import ChangeRelay.Event.Payload
import ChangeRelay.Event.Relational
import ChangeRelay.Event.Source
import ChangeRelay.Feed
import ChangeRelay.Graph.Bootstrap
import ChangeRelay.Graph.Change
import ChangeRelay.Graph.Entity
import ChangeRelay.Graph.Snapshot
import ChangeRelay.Graph.Subscription
import ChangeRelay.Http.Client
import ChangeRelay.Http.MediaType
import ChangeRelay.Http.Message
import ChangeRelay.Http.Url
import ChangeRelay.Json.Basic
import ChangeRelay.Json.Reader
import ChangeRelay.Json.Text
import ChangeRelay.Main
import ChangeRelay.Program.Arguments
import ChangeRelay.Program.Daemon
import ChangeRelay.Program.Files
import ChangeRelay.Program.Launch
import ChangeRelay.Program.Listener
import ChangeRelay.Program.Report
import ChangeRelay.Program.Session
import ChangeRelay.Proofs.Basic
import ChangeRelay.Proofs.Event.Outcome
import ChangeRelay.Proofs.Event.RowRule
import ChangeRelay.Proofs.Event.WatchRule
import ChangeRelay.Proofs.Event.Identity
import ChangeRelay.Proofs.Event.ReceiveTime
import ChangeRelay.Proofs.Graph.Paging
import ChangeRelay.Proofs.Graph.Wire
import ChangeRelay.Proofs.Graph.Labels
import ChangeRelay.Proofs.Json.Members
import ChangeRelay.Proofs.Json.ReadText
import ChangeRelay.Proofs.Json.ReadNumber
import ChangeRelay.Proofs.Json.ReadBack
import ChangeRelay.Proofs.Json.DepthLimit
import ChangeRelay.Proofs.Event.HubBody
import ChangeRelay.Proofs.Sequence.Checkpoint
import ChangeRelay.Proofs.Sequence.Overlap
import ChangeRelay.Proofs.Sequence.Issuance
import ChangeRelay.Proofs.Supervisor.Lifecycle
import ChangeRelay.Proofs.Supervisor.Schedule
import ChangeRelay.Proofs.Supervisor.Faults
import ChangeRelay.Proofs.Supervisor.FinalCheckpoint
import ChangeRelay.Proofs.Supervisor.Keys
import ChangeRelay.Proofs.Control.Subscription
import ChangeRelay.Proofs.Control.Deprovision
import ChangeRelay.Proofs.Worker.Cursor
import ChangeRelay.Proofs.Worker.Delivery
import ChangeRelay.Proofs.Worker.Execution
import ChangeRelay.Proofs.Worker.Faults
import ChangeRelay.Proofs.Worker.Numbering
import ChangeRelay.Proofs.Worker.Stamp
import ChangeRelay.Proofs.Worker.Step
import ChangeRelay.Proofs.Worker.Backoff
import ChangeRelay.Proofs.Supervisor.Timers
import ChangeRelay.Relay.ControlPlane
import ChangeRelay.Relay.Supervisor
import ChangeRelay.Relay.Worker
import ChangeRelay.Relay.World
import ChangeRelay.Resilience.Circuit
import ChangeRelay.Resilience.RateLimit
import ChangeRelay.Resilience.Retry
import ChangeRelay.Sequence
import ChangeRelay.Sidecar
import ChangeRelay.Sql.Eval
import ChangeRelay.Sql.Exec
import ChangeRelay.Sql.Lexer
import ChangeRelay.Sql.Parser
import ChangeRelay.Sql.Schema
import ChangeRelay.Sql.Script
import ChangeRelay.Sql.Session
import ChangeRelay.Sql.Syntax
import ChangeRelay.Sql.Value
import ChangeRelay.Store.Basic
import ChangeRelay.Store.Location
import ChangeRelay.Store.Memory
import ChangeRelay.Store.Sqlite
import ChangeRelay.Text.Blank
import ChangeRelay.Text.Integer
import ChangeRelay.Text.Quoted
import ChangeRelay.Text.Similarity
import ChangeRelay.Time.Duration
import ChangeRelay.Time.DurationText
import ChangeRelay.Time.Rfc3339
import ChangeRelay.Time.Seconds
import ChangeRelay.Yaml.Basic
import ChangeRelay.Yaml.Compose
import ChangeRelay.Yaml.Decode
import ChangeRelay.Yaml.Parser
import ChangeRelay.Yaml.Resolve
import ChangeRelay.Yaml.Scalar
import ChangeRelay.Yaml.Scanner
import ChangeRelay.Yaml.Token
