import StartupGate.Cluster.Api
import StartupGate.CpuQuantity.Written
import StartupGate.Endpoint
import StartupGate.Gate.Clients
import StartupGate.Gate.Server
import StartupGate.Gate.Session
import StartupGate.Health.DaemonSetCheck
import StartupGate.Health.EndpointCheck
import StartupGate.Health.NodeLoadCheck
import StartupGate.Health.Schedule
import StartupGate.Json.Parser
import StartupGate.Json.Printer
import StartupGate.Labels
import StartupGate.Lease.Session
import StartupGate.LockClient
import StartupGate.Main
import StartupGate.Metrics
import StartupGate.NodeLoad
import StartupGate.Retry.Run
import StartupGate.Settings.Validation
import StartupGate.Settings.Written
import StartupGate.Text.FormEncoded
import StartupGate.Text.Quoted
import StartupGate.Time
import StartupGate.Proofs.Lease.Record
import StartupGate.Proofs.Lease.Session
import StartupGate.Proofs.Gate.Capacity
import StartupGate.Proofs.Gate.Decision
import StartupGate.Proofs.Lease.Capacity
import StartupGate.Proofs.Gate.Traceless
import StartupGate.Proofs.Gate.Clients
import StartupGate.Proofs.Number.Rounding
import StartupGate.Proofs.Time
import StartupGate.Proofs.Retry.Timeline
import StartupGate.Proofs.Retry.Cancellation
import StartupGate.Proofs.Retry.Backoff
import StartupGate.Proofs.Health.Schedule
import StartupGate.Proofs.Health.Shutdown
import StartupGate.Proofs.Health.Isolation
import StartupGate.Proofs.Health.Interleaving
import StartupGate.Proofs.Health.Plan
import StartupGate.Proofs.Health.DaemonSets
import StartupGate.Proofs.Settings.Words
import StartupGate.Proofs.Settings.Sources
import StartupGate.Proofs.Labels
import StartupGate.Proofs.Settings.Texts
import StartupGate.Proofs.Health.LabelFilter
import StartupGate.Proofs.Number.Power
import StartupGate.Proofs.Retry.Overflow
import StartupGate.Proofs.Health.ReadyPods
import StartupGate.Proofs.Number.Integer
import StartupGate.Proofs.Text.Split
import StartupGate.Proofs.Endpoint
import StartupGate.Proofs.Settings.Values
import StartupGate.Proofs.Settings.RoundTrip
import StartupGate.Proofs.Text.FormEncoded
import StartupGate.Proofs.Gate.ClientUrl
import StartupGate.Proofs.Text.Blank
import StartupGate.Proofs.Settings.Validation
import StartupGate.Proofs.Health.Pacing
import StartupGate.Proofs.Service
import StartupGate.Proofs.Number.Order
import StartupGate.Proofs.Retry.Growth
import StartupGate.Proofs.Health.DaemonSetFilter
import StartupGate.Proofs.Number.Closeness
import StartupGate.Proofs.NodeLoad.Percent
import StartupGate.Proofs.NodeLoad.Halves
import StartupGate.Proofs.Health.NodeLoadCheck
import StartupGate.Proofs.Number.Numeral
import StartupGate.Proofs.Endpoint.Grammar
import StartupGate.Proofs.NodeLoad.Monotone
import StartupGate.Proofs.Number.Deviation
import StartupGate.Proofs.Number.Decimal
import StartupGate.Proofs.CpuQuantity.Text
import StartupGate.Proofs.CpuQuantity.NanoCores
import StartupGate.Proofs.Text.Spelling
import StartupGate.Proofs.Gate.RequestedDuration
import StartupGate.Proofs.Endpoint.RoundTrip
import StartupGate.Proofs.Gate.FirstGrant
import StartupGate.Proofs.Cluster.Reads
import StartupGate.Proofs.Metrics.History
import StartupGate.Proofs.Metrics.Exposition
import StartupGate.Proofs.Network.Probe
import StartupGate.Proofs.Health.EndpointCheck
import StartupGate.Proofs.CpuQuantity.Grammar
import StartupGate.Proofs.Number.PowerOfTwo
import StartupGate.Proofs.Retry.Doubling
