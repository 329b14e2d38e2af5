import GhostLayer.Foundation.Fallible
import GhostLayer.Foundation.Bytes
import GhostLayer.Foundation.Coverings
import GhostLayer.Foundation.Segments
import GhostLayer.Foundation.Json
import GhostLayer.Foundation.Http
import GhostLayer.Foundation.Utf8
import GhostLayer.Foundation.Serde
import GhostLayer.Foundation.Frames
import GhostLayer.Foundation.Operations
import GhostLayer.Foundation.Tables
import GhostLayer.Foundation.Transition
import GhostLayer.Foundation.Interleaving
import GhostLayer.Foundation.Sorting
import GhostLayer.Network.Externals
import GhostLayer.Network.Nat
import GhostLayer.Network.NatLaws
import GhostLayer.Network.NatHistory
import GhostLayer.Network.NatPorts
import GhostLayer.Network.ReturnPath
import GhostLayer.Network.ReturnHistory
import GhostLayer.Network.ReturnRecords
import GhostLayer.Network.Config
import GhostLayer.Network.ConfigLaws
import GhostLayer.Network.Prefix
import GhostLayer.Network.OsRouting
import GhostLayer.Network.OsRoutingLaws
import GhostLayer.Network.WindowsRoutes
import GhostLayer.Network.MockRoutes
import GhostLayer.Network.Packet
import GhostLayer.Network.DnsWire
import GhostLayer.Network.DnsSockets
import GhostLayer.Network.Session
import GhostLayer.Network.Channel
import GhostLayer.Network.Pipeline
import GhostLayer.Network.PipelineLaws
import GhostLayer.Network.SessionLaws
import GhostLayer.Network.ChannelLaws
import GhostLayer.Network.Reference
import GhostLayer.Network.RouteCoverage
import GhostLayer.Network.Production
import GhostLayer.Network.Handshake
import GhostLayer.Network.HandshakeAgreement
import GhostLayer.Network.ChannelNonces
import GhostLayer.Network.ChannelIntegrity
import GhostLayer.Network.TunBridge
import GhostLayer.Network.PipelineDelivery
import GhostLayer.Network.ChannelDelivery
import GhostLayer.Network.ChannelUse
import GhostLayer.Network.ChannelPairs
import GhostLayer.Network.FrameSize
import GhostLayer.Network.Identity
import GhostLayer.Relay.Forwarding
import GhostLayer.Relay.Core
import GhostLayer.Relay.ExitNetwork
import GhostLayer.Relay.Metadata
import GhostLayer.Relay.ForwardingLaws
import GhostLayer.Relay.ContextLife
import GhostLayer.Relay.ForwardingManager
import GhostLayer.Relay.SessionManager
import GhostLayer.Relay.Node
import GhostLayer.Relay.Loop
import GhostLayer.Relay.NodeLaws
import GhostLayer.Relay.CoreLaws
import GhostLayer.Relay.EntryLaws
import GhostLayer.Relay.ExitLaws
import GhostLayer.Relay.ExitHandler
import GhostLayer.Relay.Steps
import GhostLayer.Relay.Soundness
import GhostLayer.Relay.StateLaws
import GhostLayer.Relay.Queues
import GhostLayer.Relay.Sequences
import GhostLayer.Relay.Joining
import GhostLayer.Relay.ExitFlow
import GhostLayer.Relay.Tolerance
import GhostLayer.Relay.Emissions
import GhostLayer.Relay.History
import GhostLayer.Relay.Sealings
import GhostLayer.Relay.Circuit
import GhostLayer.Relay.CircuitRuns
import GhostLayer.Relay.RoundTrips
import GhostLayer.Relay.Deliveries
import GhostLayer.Relay.Destinations
import GhostLayer.Relay.Startup
import GhostLayer.Relay.Admission
import GhostLayer.Relay.Connections
import GhostLayer.Relay.EntryPath
import GhostLayer.Relay.Dialing
import GhostLayer.Relay.TunReturn
import GhostLayer.Relay.Routing
import GhostLayer.Relay.Timestamps
import GhostLayer.Relay.MetadataLaws
import GhostLayer.Relay.RoutingLaws
import GhostLayer.Relay.Selection
import GhostLayer.Relay.Health
import GhostLayer.Relay.Resources
import GhostLayer.Relay.Service
import GhostLayer.Relay.HealthServer
import GhostLayer.Client.Engine
import GhostLayer.Client.Steps
import GhostLayer.Client.Joining
import GhostLayer.Client.Emission
import GhostLayer.Client.Queues
import GhostLayer.Client.Sequences
import GhostLayer.Client.Program
import GhostLayer.Client.Decoding
import GhostLayer.Client.Carrying
import GhostLayer.Client.DnsPackets
import GhostLayer.Client.Standing
import GhostLayer.Client.Loops
import GhostLayer.Client.Handshakes
import GhostLayer.Client.Reports
import GhostLayer.Client.Endings
import GhostLayer.Client.Sessions
import GhostLayer.Client.EndToEnd
import GhostLayer.Client.Discovery
import GhostLayer.Client.AndroidCore
import GhostLayer.App.Dart
import GhostLayer.App.BackendBridge
import GhostLayer.App.StatusLaws
import GhostLayer.App.Backends
import GhostLayer.App.RelayAnswers
import GhostLayer.App.Endpoints
import GhostLayer.App.Controller
