import Velum.Node.Egress
import Velum.Runtime.SentDatagrams
import Velum.Tun.UdpEngine

/-!
# The way of a datagram

A captured frame goes through the tunnel engine, the runtime, and one of the
connections of the runtime to the node, which sends its payload from a socket.
A response goes the same way back.  The connections carry datagrams as they
like: an envelope arrives late, repeatedly, out of order, or never.  The node
serves connections of others at the same time, and these bring anything.
-/

namespace Velum.Tun

open Foundation Protocol Velum.Runtime Velum.Node

/-- The arguments of one call of `send_datagram`. -/
structure Submission where
  flow : FlowKey
  sessionId : DatagramSessionId
  payload : List UInt8
  deriving DecidableEq

namespace TunUdpEngine

/-- The frame that is forwarded next and the send that its forwarding
awaits, if it comes that far. -/
def submission (engine : TunUdpEngine) (views : PacketViews)
    (reads : Reads) : Option (List UInt8 × Submission) :=
  match engine.queue.popInbound.1 with
  | none => none
  | some frame =>
      match views.classifyIpv4Packet frame, views.udpPayload frame with
      | .ok flow, .ok payload =>
          match (engine.registry.admitFlow reads flow).1,
              (engine.associations.sessionFor flow).1 with
          | .ok _, .ok sessionId => some (frame, ⟨flow, sessionId, payload⟩)
          | _, _ => none
      | _, _ => none

end TunUdpEngine

/-- Both directions keep what the connections were given. -/
structure UdpPath where
  engine : TunUdpEngine
  node : Listener
  sent : List (Nat × List UInt8) := []
  answered : List (Nat × List UInt8) := []

inductive PathEvent where
  | quiet
  | submitted (connection : Nat) (frame : List UInt8)
      (submission : Submission)
  | served (egress : Listener.Egress)
  | handed (frame : List UInt8)

namespace UdpPath

/-- What does not change while datagrams travel: the packet views and the
credential of the client, the configuration of the node, and which connections
of the node are those of the client. -/
structure Setting where
  views : PacketViews
  credential : List UInt8
  own : Nat → Prop
  parse : List UInt8 → Option SocketAddr
  admission : RelayAdmission
  config : QuicRelayConfig

variable (setting : Setting)

def Setting.send (active : RuntimeSnapshot) (link : DatagramLink)
    (submission : Submission) : Except RuntimeError (List UInt8) :=
  sendDatagram active setting.credential link submission.sessionId
    submission.flow.destination submission.payload

/-- What the loops of the client's connections have read was sent to them. -/
def Setting.Arrived (sent : List (Nat × List UInt8)) (node : Listener) :
    Prop :=
  ∀ id connection datagram credential, setting.own id →
    node.connections id = some connection →
    connection.phase = .admitting datagram credential →
    (id, datagram) ∈ sent

/-- The envelope that the node gives to a connection. -/
def envelopes : Listener.Egress → List (Nat × List UInt8)
  | .response id _ response => (response.encode.toOption.map (id, ·)).toList
  | _ => []

inductive Step (path : UdpPath) : PathEvent → UdpPath → Prop where
  | captured (frame : List UInt8) :
      Step path .quiet
        { path with engine := (path.engine.pushInbound frame).2 }
  | cleared :
      Step path .quiet { path with engine := path.engine.clear }
  | skipped {awaited : Awaited Unit}
      (nothing : path.engine.submission setting.views awaited.reads = none) :
      Step path .quiet
        { path with
          engine := (path.engine.forwardNext setting.views awaited).2 }
  | submitted {connection : Nat} {frame : List UInt8}
      {submission : Submission} {awaited : Awaited Unit}
      {active : RuntimeSnapshot} {link : DatagramLink}
      (own : setting.own connection)
      (submits : path.engine.submission setting.views awaited.reads =
        some (frame, submission))
      (answers : awaited.answer =
        (setting.send active link submission).map fun _ => ()) :
      Step path (.submitted connection frame submission)
        { path with
          engine := (path.engine.forwardNext setting.views awaited).2
          sent := path.sent ++
            ((setting.send active link submission).toOption.map
              (connection, ·)).toList }
  | served {egress : Listener.Egress} {node : Listener}
      (move : Listener.Step setting.parse setting.admission setting.config
        path.node egress node)
      (arrived : setting.Arrived path.sent node) :
      Step path (.served egress)
        { path with node, answered := path.answered ++ envelopes egress }
  | received {connection : Nat} {read : ReadDatagram}
      {active after snapshot online : RuntimeSnapshot}
      (own : setting.own connection)
      (carried : ∀ envelope, read = some envelope →
        (connection, envelope) ∈ path.answered) :
      Step path .quiet
        { path with
          engine := (path.engine.receiveNext setting.views
            (receiveDatagram active read after) snapshot online).2 }
  | handed {frame : List UInt8}
      (next : path.engine.popOutbound.1 = some frame) :
      Step path (.handed frame)
        { path with engine := path.engine.popOutbound.2 }

end UdpPath

end Velum.Tun
