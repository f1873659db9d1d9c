import PortTunnel.Config.Text
import PortTunnel.Main
import PortTunnel.Rehearsal.Server
import PortTunnel.Kubernetes.Lookup
import PortTunnel.Signal
import PortTunnel.Status.Layout
import PortTunnel.Proofs.Environment.Resolution
import PortTunnel.Proofs.NameMap
import PortTunnel.Proofs.Trail
import PortTunnel.Proofs.Retry.Delay
import PortTunnel.Proofs.Status.Board
import PortTunnel.Proofs.Status.Replay
import PortTunnel.Proofs.Status.Overlap
import PortTunnel.Proofs.Tunnel.Moves
import PortTunnel.Proofs.Tunnel.Reports
import PortTunnel.Proofs.Tunnel.Recovery
import PortTunnel.Proofs.Tunnel.Clients
import PortTunnel.Proofs.Tunnel.Connections
import PortTunnel.Proofs.Tunnel.Pumps
import PortTunnel.Proofs.Tunnel.Carriage
import PortTunnel.Proofs.Tunnel.Openings
import PortTunnel.Proofs.Tunnel.Loss
import PortTunnel.Proofs.Tunnel.Breakage
import PortTunnel.Proofs.Tunnel.Streak
import PortTunnel.Proofs.Tunnel.Verdicts
import PortTunnel.Proofs.Tunnel.Budget
import PortTunnel.Proofs.Supervisor.Fleet
import PortTunnel.Proofs.Supervisor.Runs
import PortTunnel.Proofs.Supervisor.Shutdown
import PortTunnel.Proofs.Supervisor.Cancellation
import PortTunnel.Proofs.Supervisor.Retries
import PortTunnel.Proofs.Cluster.Link
import PortTunnel.Proofs.Cluster.Sharing
import PortTunnel.Proofs.Forward.Identity
import PortTunnel.Proofs.Supervisor.Starts
import PortTunnel.Proofs.Supervisor.Links
import PortTunnel.Proofs.Tunnel.Independence
import PortTunnel.Proofs.Tunnel.Calls
import PortTunnel.Proofs.Tunnel.Causes
import PortTunnel.Proofs.Supervisor.Histories
import PortTunnel.Proofs.Supervisor.ExitCode
import PortTunnel.Proofs.Supervisor.Isolation
import PortTunnel.Proofs.Except
import PortTunnel.Proofs.Kubernetes.Persistence
import PortTunnel.Proofs.Kubeconfig.Access
import PortTunnel.Proofs.Number.Decimal
import PortTunnel.Proofs.Json.Numerals
import PortTunnel.Proofs.Json.Quotes
import PortTunnel.Proofs.Json.Grammar
import PortTunnel.Proofs.Json.Spelling
import PortTunnel.Proofs.Json.Printing
import PortTunnel.Proofs.Schema.Record
import PortTunnel.Proofs.Schema.ReadBack
import PortTunnel.Proofs.Address.Octets
import PortTunnel.Proofs.Config.Layout
import PortTunnel.Proofs.Config.RoundTrip
import PortTunnel.Proofs.Address.Groups
import PortTunnel.Proofs.Plan
import PortTunnel.Proofs.Kubernetes.Places
import PortTunnel.Proofs.Kubernetes.Queries
import PortTunnel.Proofs.Kubernetes.Selection
import PortTunnel.Proofs.Yaml.Nodes
import PortTunnel.Proofs.Json.Whole
import PortTunnel.Proofs.Schema.Landing
import PortTunnel.Proofs.Schema.Entries
import PortTunnel.Proofs.Config.Loading
import PortTunnel.Proofs.Config.Entries
import PortTunnel.Proofs.Config.Landing
import PortTunnel.Proofs.Config.Version
import PortTunnel.Proofs.Environment.Walks
import PortTunnel.Proofs.Environment.Defects
import PortTunnel.Proofs.Environment.Locality
import PortTunnel.Proofs.Schema.Strictness
import PortTunnel.Proofs.Config.Strictness
import PortTunnel.Proofs.Retry.Ceiling
import PortTunnel.Proofs.Retry.Uniform
import PortTunnel.Proofs.Environment.Flattening
import PortTunnel.Proofs.Supervisor.Teardown
import PortTunnel.Proofs.Status.Separation
import PortTunnel.Proofs.Supervisor.Separation
