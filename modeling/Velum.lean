import Velum.Foundation.TransitionSystem
import Velum.Foundation.OrderedMap
import Velum.Foundation.OrderedDelivery
import Velum.Foundation.Checked
import Velum.Foundation.BigEndian
import Velum.Foundation.ByteReader
import Velum.Protocol.Types
import Velum.Protocol.Frame
import Velum.Protocol.FrameCodec
import Velum.Crypto.Attachment
import Velum.Session.Transition
import Velum.Session.Tracer
import Velum.Session.Effects
import Velum.Session.Calls
import Velum.Session.Accounting
import Velum.Session.Delivery
import Velum.Session.Attachment
import Velum.Session.Dispatcher
import Velum.Session.Endpoint
import Velum.Session.Carriers
import Velum.Session.Wire
import Velum.Foundation.Cutting
import Velum.Protocol.FrameDecoder
import Velum.Protocol.DecoderErrors
import Velum.Protocol.FailClosed
import Velum.Runtime.Lifecycle
import Velum.Runtime.ClientRuntime
import Velum.Runtime.NodePool
import Velum.Runtime.Generations
import Velum.Runtime.Ownership
import Velum.Protocol.Datagram
import Velum.Server.Admission
import Velum.Server.Ledger
import Velum.Node.DatagramRelay
import Velum.Node.Admission
import Velum.Node.Conservation
import Velum.Node.Associations
import Velum.Node.Listener
import Velum.Node.Egress
import Velum.Node.Serving
import Velum.Foundation.Script
import Velum.Helper.Protocol
import Velum.Helper.RequestDecoder
import Velum.Host.TrafficHost
import Velum.Host.Recovery
import Velum.Host.Replacement
import Velum.Host.Coherence
import Velum.Host.Idempotence
import Velum.Foundation.Files
import Velum.Client.Repository
import Velum.Client.Commit
import Velum.Foundation.Interleaving
import Velum.Client.Interleaving
import Velum.Foundation.Hex
import Velum.Node.Enrollment
import Velum.Client.Enrollment
import Velum.Client.Installation
import Velum.Client.SystemProxy
import Velum.Client.DesktopProxies
import Velum.Client.ProxySnapshots
import Velum.Client.ProxyRecovery
import Velum.Client.ProxyLaunch
import Velum.Client.TrafficHonesty
import Velum.Runtime.References
import Velum.Client.EngineController
import Velum.Client.EngineSnapshots
import Velum.Client.Reconnect
import Velum.Client.ReconnectBound
import Velum.Native.HandleSafety
import Velum.Protocol.DatagramCodec
import Velum.Node.OpenRecord
import Velum.Proxy.HalfClose
import Velum.Foundation.Text
import Velum.Foundation.TextParser
import Velum.Foundation.JsonReader
import Velum.Protocol.AddressText
import Velum.Proxy.Target
import Velum.Proxy.HttpRequest
import Velum.Proxy.ConnectHeaders
import Velum.Routing.Policy
import Velum.Tun.FakeDns
import Velum.Routing.Domains
import Velum.Routing.Hostnames
import Velum.Client.RoutingRule
import Velum.Client.RoutingRoundTrip
import Velum.Routing.Agreement
import Velum.Proxy.ForwardHead
import Velum.Proxy.ReadRequest
import Velum.Node.HexDecoding
import Velum.Node.EnrollmentDocuments
import Velum.Profile.ClientProfile
import Velum.Profile.Normalization
import Velum.Session.Acknowledgements
import Velum.Session.Timeouts
import Velum.Session.FinalCursor
import Velum.Session.Panics
import Velum.Protocol.Negotiation
import Velum.Crypto.ProofBinding
import Velum.Foundation.Cursor
import Velum.Tun.Associations
import Velum.Runtime.Datagrams
import Velum.Tun.Packets
import Velum.Tun.Registry
import Velum.Tun.Leases
import Velum.Tun.UdpEngine
import Velum.Tun.AndroidReceiver
import Velum.Tun.FakeDnsTable
import Velum.Tun.AddressProbe
import Velum.Tun.PolicyEngine
import Velum.Server.Authentication
import Velum.Foundation.Bits
import Velum.Routing.Cidr
import Velum.Routing.Decisions
import Velum.Foundation.IpHeaders
import Velum.Tun.IpPackets
import Velum.Tun.UdpResponses
import Velum.Foundation.FilePath
import Velum.Foundation.HostFiles
import Velum.Foundation.FileModes
import Velum.Node.AcmeActivation
import Velum.Node.AcmeSteps
import Velum.Node.PairActivation
import Velum.Node.Issuance
import Velum.Node.RelayStart
import Velum.Node.ConfigText
import Velum.Node.IssuanceRollback
import Velum.Session.Simulator
import Velum.Session.Campaign
import Velum.Session.Migration
import Velum.Foundation.CrashDisk
import Velum.Host.RecordText
import Velum.Host.FileJournal
import Velum.Foundation.Search
import Velum.Xtask.Architecture
import Velum.Xtask.Conformance
import Velum.Foundation.HttpMessage
import Velum.Forest.CoverService
import Velum.Forest.CoverResponses
import Velum.Proxy.Serving
import Velum.Proxy.ServingSafety
import Velum.Foundation.TaskPool
import Velum.Node.AcceptLoop
import Velum.Foundation.Assignments
import Velum.Client.LinuxProxyBackend
import Velum.Client.LinuxProxyRestore
import Velum.Node.LoopDatagrams
import Velum.Runtime.SentDatagrams
import Velum.Tun.SessionNumbers
import Velum.Tun.UdpIsolation
import Velum.Node.AcceptedClients
import Velum.Forest.Profiles
