import Affinity.Config.Environment
import Affinity.Config.Log
import Affinity.Config.LogFilter
import Affinity.Config.Toml
import Affinity.Config.Workers
import Affinity.Config.WorkersFile
import Affinity.Context.Id
import Affinity.Context.Registry
import Affinity.Error
import Affinity.Fanout
import Affinity.Fanout.Hub
import Affinity.Files
import Affinity.Machine.Admission
import Affinity.Machine.Binding
import Affinity.Machine.Connection
import Affinity.Machine.Dispatch
import Affinity.Machine.Driver
import Affinity.Machine.Link
import Affinity.Machine.Note
import Affinity.Machine.Parts
import Affinity.Machine.Pool
import Affinity.Machine.Task
import Affinity.Machine.Turn
import Affinity.Machine.Worker
import Affinity.Machine.World
import Affinity.Main
import Affinity.Net.Address
import Affinity.Net.Client
import Affinity.Net.Endpoint
import Affinity.Net.Lifecycle
import Affinity.Net.Listen
import Affinity.Net.Pipe
import Affinity.Scenario.Mask
import Affinity.Scenario.Reply
import Affinity.Scenario.Run
import Affinity.Scenario.Step
import Affinity.Testing.Latch
import Affinity.Testing.Poll
import Affinity.Testing.Runtime
import Affinity.Text.Blank
import Affinity.Text.CharClass
import Affinity.Text.Decimal
import Affinity.Text.Digest
import Affinity.Text.Duration
import Affinity.Text.Pattern
import Affinity.Text.Quoted
import Affinity.Threads
import Affinity.Tls.Config
import Affinity.Tls.Pem
import Affinity.Proofs.Pool.Decisions
import Affinity.Proofs.Pool.Steps
import Affinity.Proofs.Pool.System
import Affinity.Proofs.Pool.Slots
import Affinity.Proofs.Pool.Waiters
import Affinity.Proofs.Pool.Leases
import Affinity.Proofs.Pool.Requests
import Affinity.Proofs.Pool.Closing
import Affinity.Proofs.Pool.Answers
import Affinity.Proofs.Pool.Handlers
import Affinity.Proofs.Pool.Refusals
import Affinity.Proofs.Connection.Frame
import Affinity.Proofs.Connection.Effects
import Affinity.Proofs.Connection.Machine
import Affinity.Proofs.Connection.Order
import Affinity.Proofs.Connection.Isolation
import Affinity.Proofs.Connection.Lifecycle
import Affinity.Proofs.Runtime.Routing
import Affinity.Proofs.Runtime.System
import Affinity.Proofs.Runtime.Placement
import Affinity.Proofs.Runtime.Order
import Affinity.Proofs.Runtime.Mailboxes
import Affinity.Proofs.Fanout.Subscribers
import Affinity.Proofs.Connection.WritePath
import Affinity.Proofs.Connection.WriteSystem
import Affinity.Proofs.Connection.Flush
import Affinity.Proofs.Connection.QueueAccounting
import Affinity.Proofs.Config.Lookup
import Affinity.Proofs.Pool.NoReuse
import Affinity.Proofs.Runtime.Refusals
import Affinity.Proofs.Context.Spread
import Affinity.Proofs.Config.LogWords
import Affinity.Proofs.Pool.ConnectChain
import Affinity.Proofs.Net.AddressReading
import Affinity.Proofs.Net.Authority
