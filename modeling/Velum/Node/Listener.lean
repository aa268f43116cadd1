import Velum.Node.Admission
import Velum.Node.DatagramRelay

/-!
# Serving connections

Each connection is served by a loop that takes streams and datagrams, and by
one task for each stream.  All of them use the admission of their connection;
the datagrams go through a relay of their own.  A connection that is aborted,
or whose loop panics, takes no further step, but the receivers of its relay
are not part of it and go on.
-/

namespace Velum.Node

open Foundation Protocol Server

/-- One request of a client, as its control record has it. -/
structure OpenRequest where
  secret : List UInt8
  target : SocketAddr
  deriving DecidableEq

inductive ControlError where
  | invalid
  | secretTooLarge
  deriving DecidableEq, Repr

def maxSecretBytes : Nat := 128
def headerBytes : Nat := 4

/-- The lengths of the secret and of the target in a header. -/
def recordLengths (bytes : List UInt8) : Nat × Nat :=
  ((word16 (bytes.take 2)).toNat, (word16 ((bytes.drop 2).take 2)).toNat)

/-- The text of the target is parsed by `parse`. -/
def decodeOpen (parse : List UInt8 → Option SocketAddr)
    (bytes : List UInt8) : Except ControlError OpenRequest :=
  if bytes.length < headerBytes then .error .invalid
  else
    let (secretLength, targetLength) := recordLengths bytes
    if secretLength = 0 ∨ secretLength > maxSecretBytes ∨
        bytes.length ≠ headerBytes + secretLength + targetLength then
      .error .invalid
    else
      match parse (bytes.drop (headerBytes + secretLength)) with
      | none => .error .invalid
      | some target =>
          .ok { secret := (bytes.drop headerBytes).take secretLength, target }

/-- Reads a record from the bytes that a stream delivers before it ends. -/
def readOpenRequest (parse : List UInt8 → Option SocketAddr)
    (maximum : Nat) (input : List UInt8) : Except RelayError OpenRequest :=
  if maximum < headerBytes then .error .invalidControl
  else if input.length < headerBytes then .error .transport
  else
    let (secretLength, targetLength) := recordLengths input
    let length := headerBytes + secretLength + targetLength
    if length > maximum then .error .invalidControl
    else if input.length < length then .error .transport
    else
      match decodeOpen parse (input.take length) with
      | .error _ => .error .invalidControl
      | .ok request => .ok request

/-- Times are in nanoseconds. -/
structure QuicRelayConfig where
  schemaVersion : UInt16 := 1
  connectTimeout : Nat := 5 * 10 ^ 9
  controlTimeout : Nat := 5 * 10 ^ 9
  shutdownTimeout : Nat := 5 * 10 ^ 9
  maxControlBytes : Nat := maxSecretBytes + 64
  maxConnections : Nat := 1024
  maxStreamsPerConnection : Nat := 64
  deriving DecidableEq, Repr

inductive ConfigError where
  | unsupportedSchema
  | zeroConnectTimeout
  | zeroControlTimeout
  | zeroShutdownTimeout
  | controlLimitTooSmall
  | zeroConnectionLimit
  | zeroStreamLimit
  | streamLimitTooLarge
  deriving DecidableEq, Repr

def QuicRelayConfig.validate (config : QuicRelayConfig) :
    Except ConfigError Unit :=
  if config.schemaVersion ≠ 1 then .error .unsupportedSchema
  else if config.connectTimeout = 0 then .error .zeroConnectTimeout
  else if config.controlTimeout = 0 then .error .zeroControlTimeout
  else if config.shutdownTimeout = 0 then .error .zeroShutdownTimeout
  else if config.maxControlBytes < headerBytes + 1 + "[::1]:65535".length then
    .error .controlLimitTooSmall
  else if config.maxConnections = 0 then .error .zeroConnectionLimit
  else if config.maxStreamsPerConnection = 0 then .error .zeroStreamLimit
  else .ok ()

/-- What `relay_quic_stream` does before it reserves a flow. -/
def authoriseStream (parse : List UInt8 → Option SocketAddr)
    (admission : RelayAdmission) (config : QuicRelayConfig)
    (input : List UInt8) : Except RelayError (OpenRequest × PrincipalId) :=
  match config.validate with
  | .error _ => .error .invalidControl
  | .ok () =>
      match readOpenRequest parse config.maxControlBytes input with
      | .error error => .error error
      | .ok request =>
          match admission.authenticator.authenticate request.secret with
          | .error _ => .error .authenticationRejected
          | .ok principal =>
              if admission.destinations.allows request.target then
                .ok (request, principal)
              else .error .destinationRejected

/-- Where the task of a stream is. -/
inductive StreamPhase where
  | reading
  | reserving (request : OpenRequest) (principal : PrincipalId)
  | inReserve (request : OpenRequest) (principal : PrincipalId)
  | connecting (request : OpenRequest) (session : AdmittedSession)
  | relaying (request : OpenRequest) (session : AdmittedSession)
  | releasing (lease : SessionLease)
  | inRelease (lease : SessionLease)
  | finished

/-- Where the loop of a connection is. -/
inductive LoopPhase where
  | listening
  | admitting (datagram credential : List UInt8)
  | inAdmit (datagram credential : List UInt8)
  | forwarding (datagram : List UInt8)
  | inForward (datagram : List UInt8)
  | draining
  | joining
  | closing
  | inClose
  | finished
  | stopped
  deriving DecidableEq

structure Connection where
  phase : LoopPhase := .listening
  streams : Nat → Option StreamPhase := fun _ => none
  relay : DatagramRelay := { config := {} }

structure Listener where
  admissions : Admissions
  connections : Nat → Option Connection := fun _ => none

namespace Connection

def setPhase (connection : Connection) (phase : LoopPhase) : Connection :=
  { connection with phase }

def setStream (connection : Connection) (stream : Nat)
    (phase : StreamPhase) : Connection :=
  { connection with
    streams := Function.update connection.streams stream (some phase) }

def setRelay (connection : Connection) (relay : DatagramRelay) :
    Connection :=
  { connection with relay }

/-- Every stream that was accepted has finished. -/
def Joined (connection : Connection) : Prop :=
  ∀ stream phase, connection.streams stream = some phase → phase = .finished

end Connection

/-- The steps of an operation between its beginning and its return. -/
def Event.Inner : Event → Prop
  | .opened _ _ => True
  | .progressed _ => True
  | _ => False

namespace Listener

def setConnection (node : Listener) (id : Nat) (connection : Connection) :
    Listener :=
  { node with
    connections := Function.update node.connections id (some connection) }

def setAdmissions (node : Listener) (admissions : Admissions) : Listener :=
  { node with admissions }

@[simp] theorem admissions_setConnection (node : Listener) (id : Nat)
    (connection : Connection) :
    (node.setConnection id connection).admissions = node.admissions := rfl

/-- A connection of the node after one was set is that one, or it was there
before. -/
theorem setConnection_cases {node : Listener} {id other : Nat}
    {moved connection : Connection}
    (found : (node.setConnection id moved).connections other =
      some connection) :
    (other = id ∧ connection = moved) ∨
      (other ≠ id ∧ node.connections other = some connection) := by
  change Function.update node.connections id (some moved) other = _ at found
  by_cases own : other = id
  · rw [own, Function.update_self] at found
    exact .inl ⟨own, (Option.some.inj found).symm⟩
  · rw [Function.update_of_ne own] at found
    exact .inr ⟨own, found⟩

/-- What the node does towards the network. -/
inductive Egress where
  | quiet
  | tcpConnect (connection stream : Nat) (request : OpenRequest)
  | tcpRelay (connection stream : Nat) (request : OpenRequest)
  | associated (connection address : Nat) (sessionId : DatagramSessionId)
      (destination : SocketAddr)
  | udpSend (connection : Nat) (datagram : List UInt8) (address : Nat)
      (destination : SocketAddr) (payload : List UInt8)
  | response (connection address : Nat) (response : Datagram)

/-- What is seen of a step that the relay of a connection makes by itself. -/
def relayEgress (connection : Nat) : DatagramRelay.Event → Option Egress
  | .quiet => some .quiet
  | .oversized _ _ => some .quiet
  | .sinkRefused _ _ => some .quiet
  | .socketFailed _ => some .quiet
  | .associated address sessionId destination =>
      some (.associated connection address sessionId destination)
  | .forwarded address response =>
      some (.response connection address response)
  | _ => none

inductive Step (parse : List UInt8 → Option SocketAddr)
    (admission : RelayAdmission) (config : QuicRelayConfig) :
    Listener → Egress → Listener → Prop where
  | accept {node : Listener} {id : Nat} (free : node.connections id = none) :
      Step parse admission config node .quiet (node.setConnection id {})
  | aborted {node : Listener} {id : Nat} {connection : Connection}
      (present : node.connections id = some connection) :
      Step parse admission config node .quiet
        (node.setConnection id (connection.setPhase .stopped))
  | operated {node : Listener} {id : Nat} {connection : Connection}
      {event : Event} {admissions : Admissions}
      (present : node.connections id = some connection)
      (alive : connection.phase ≠ .stopped)
      (here : event.connection = id) (inner : event.Inner)
      (move : Admissions.Step admission node.admissions event admissions) :
      Step parse admission config node .quiet (node.setAdmissions admissions)
  -- relay_quic_stream
  | streamAccepted {node : Listener} {id stream : Nat} {connection : Connection}
      (present : node.connections id = some connection)
      (listening : connection.phase = .listening)
      (free : connection.streams stream = none) :
      Step parse admission config node .quiet
        (node.setConnection id (connection.setStream stream .reading))
  | controlTimedOut {node : Listener} {id stream : Nat}
      {connection : Connection}
      (present : node.connections id = some connection)
      (alive : connection.phase ≠ .stopped)
      (stage : connection.streams stream = some .reading) :
      Step parse admission config node .quiet
        (node.setConnection id (connection.setStream stream .finished))
  | streamRefused {node : Listener} {id stream : Nat} {connection : Connection}
      {input : List UInt8} {error : RelayError}
      (present : node.connections id = some connection)
      (alive : connection.phase ≠ .stopped)
      (stage : connection.streams stream = some .reading)
      (refused : authoriseStream parse admission config input =
        .error error) :
      Step parse admission config node .quiet
        (node.setConnection id (connection.setStream stream .finished))
  | streamAuthorised {node : Listener} {id stream : Nat}
      {connection : Connection} {input : List UInt8} {request : OpenRequest}
      {principal : PrincipalId}
      (present : node.connections id = some connection)
      (alive : connection.phase ≠ .stopped)
      (stage : connection.streams stream = some .reading)
      (authorised : authoriseStream parse admission config input =
        .ok (request, principal)) :
      Step parse admission config node .quiet
        (node.setConnection id
          (connection.setStream stream (.reserving request principal)))
  | reserveBegan {node : Listener} {id stream : Nat} {connection : Connection}
      {request : OpenRequest} {principal : PrincipalId}
      {admissions : Admissions}
      (present : node.connections id = some connection)
      (alive : connection.phase ≠ .stopped)
      (stage : connection.streams stream =
        some (.reserving request principal))
      (move : Admissions.Step admission node.admissions
        (.began id (.reserveFlow stream principal)) admissions) :
      Step parse admission config node .quiet
        ((node.setAdmissions admissions).setConnection id
          (connection.setStream stream (.inReserve request principal)))
  | reserved {node : Listener} {id stream : Nat} {connection : Connection}
      {request : OpenRequest} {principal : PrincipalId}
      {lease : SessionLease} {admissions : Admissions}
      (present : node.connections id = some connection)
      (alive : connection.phase ≠ .stopped)
      (stage : connection.streams stream =
        some (.inReserve request principal))
      (move : Admissions.Step admission node.admissions
        (.returned id (.reserveFlow stream principal) (.reserved lease))
        admissions) :
      Step parse admission config node .quiet
        ((node.setAdmissions admissions).setConnection id
          (connection.setStream stream
            (.connecting request ⟨principal, lease⟩)))
  | reserveFailed {node : Listener} {id stream : Nat} {connection : Connection}
      {request : OpenRequest} {principal : PrincipalId} {result : Result}
      {admissions : Admissions}
      (present : node.connections id = some connection)
      (alive : connection.phase ≠ .stopped)
      (stage : connection.streams stream =
        some (.inReserve request principal))
      (failed : result.Failure)
      (move : Admissions.Step admission node.admissions
        (.returned id (.reserveFlow stream principal) result) admissions) :
      Step parse admission config node .quiet
        ((node.setAdmissions admissions).setConnection id
          (connection.setStream stream .finished))
  | connected {node : Listener} {id stream : Nat} {connection : Connection}
      {request : OpenRequest} {session : AdmittedSession}
      (present : node.connections id = some connection)
      (alive : connection.phase ≠ .stopped)
      (stage : connection.streams stream =
        some (.connecting request session)) :
      Step parse admission config node (.tcpConnect id stream request)
        (node.setConnection id
          (connection.setStream stream (.relaying request session)))
  | relayed {node : Listener} {id stream : Nat} {connection : Connection}
      {request : OpenRequest} {session : AdmittedSession}
      (present : node.connections id = some connection)
      (alive : connection.phase ≠ .stopped)
      (stage : connection.streams stream =
        some (.relaying request session)) :
      Step parse admission config node (.tcpRelay id stream request) node
  -- The connect failed or timed out, or the relaying has ended.
  | relayEnded {node : Listener} {id stream : Nat} {connection : Connection}
      {request : OpenRequest} {session : AdmittedSession}
      (present : node.connections id = some connection)
      (alive : connection.phase ≠ .stopped)
      (stage : connection.streams stream =
        some (.relaying request session)) :
      Step parse admission config node .quiet
        (node.setConnection id
          (connection.setStream stream (.releasing session.lease)))
  | releaseBegan {node : Listener} {id stream : Nat} {connection : Connection}
      {lease : SessionLease} {admissions : Admissions}
      (present : node.connections id = some connection)
      (alive : connection.phase ≠ .stopped)
      (stage : connection.streams stream = some (.releasing lease))
      (move : Admissions.Step admission node.admissions
        (.began id (.releaseFlow stream lease)) admissions) :
      Step parse admission config node .quiet
        ((node.setAdmissions admissions).setConnection id
          (connection.setStream stream (.inRelease lease)))
  | released {node : Listener} {id stream : Nat} {connection : Connection}
      {lease : SessionLease} {admissions : Admissions}
      (present : node.connections id = some connection)
      (alive : connection.phase ≠ .stopped)
      (stage : connection.streams stream = some (.inRelease lease))
      (move : Admissions.Step admission node.admissions
        (.returned id (.releaseFlow stream lease) .done) admissions) :
      Step parse admission config node .quiet
        ((node.setAdmissions admissions).setConnection id
          (connection.setStream stream .finished))
  -- The datagrams of the loop
  | datagramRejected {node : Listener} {id : Nat} {connection : Connection}
      {datagram : List UInt8}
      (present : node.connections id = some connection)
      (listening : connection.phase = .listening)
      (foreign : ∀ credential sessionId destination payload,
        Datagram.decode datagram ≠
          .ok (.clientToServer credential sessionId destination payload)) :
      Step parse admission config node .quiet node
  | datagramDecoded {node : Listener} {id : Nat} {connection : Connection}
      {datagram credential : List UInt8} {sessionId : DatagramSessionId}
      {destination : SocketAddr} {payload : List UInt8}
      (present : node.connections id = some connection)
      (listening : connection.phase = .listening)
      (decoded : Datagram.decode datagram =
        .ok (.clientToServer credential sessionId destination payload)) :
      Step parse admission config node .quiet
        (node.setConnection id
          (connection.setPhase (.admitting datagram credential)))
  | admitUnauthenticated {node : Listener} {id : Nat} {connection : Connection}
      {datagram credential : List UInt8} {error : AuthenticationError}
      (present : node.connections id = some connection)
      (stage : connection.phase = .admitting datagram credential)
      (rejected : admission.authenticator.authenticate credential =
        .error error) :
      Step parse admission config node .quiet
        (node.setConnection id (connection.setPhase .listening))
  | admitBegan {node : Listener} {id : Nat} {connection : Connection}
      {datagram credential : List UInt8} {admissions : Admissions}
      (present : node.connections id = some connection)
      (stage : connection.phase = .admitting datagram credential)
      (move : Admissions.Step admission node.admissions
        (.began id (.admitDatagram credential)) admissions) :
      Step parse admission config node .quiet
        ((node.setAdmissions admissions).setConnection id
          (connection.setPhase (.inAdmit datagram credential)))
  | admitted {node : Listener} {id : Nat} {connection : Connection}
      {datagram credential : List UInt8} {admissions : Admissions}
      (present : node.connections id = some connection)
      (stage : connection.phase = .inAdmit datagram credential)
      (move : Admissions.Step admission node.admissions
        (.returned id (.admitDatagram credential) .done) admissions) :
      Step parse admission config node .quiet
        ((node.setAdmissions admissions).setConnection id
          (connection.setPhase (.forwarding datagram)))
  | admitFailed {node : Listener} {id : Nat} {connection : Connection}
      {datagram credential : List UInt8} {error : RelayError}
      {admissions : Admissions}
      (present : node.connections id = some connection)
      (stage : connection.phase = .inAdmit datagram credential)
      (move : Admissions.Step admission node.admissions
        (.returned id (.admitDatagram credential) (.failed error))
        admissions) :
      Step parse admission config node .quiet
        ((node.setAdmissions admissions).setConnection id
          (connection.setPhase .listening))
  | admitPanicked {node : Listener} {id : Nat} {connection : Connection}
      {datagram credential : List UInt8} {admissions : Admissions}
      (present : node.connections id = some connection)
      (stage : connection.phase = .inAdmit datagram credential)
      (move : Admissions.Step admission node.admissions
        (.returned id (.admitDatagram credential) .panicked) admissions) :
      Step parse admission config node .quiet
        ((node.setAdmissions admissions).setConnection id
          (connection.setPhase .stopped))
  | forwardRejected {node : Listener} {id : Nat} {connection : Connection}
      {datagram : List UInt8} {error : DatagramRelayError}
      {relay : DatagramRelay}
      (present : node.connections id = some connection)
      (stage : connection.phase = .forwarding datagram)
      (move : DatagramRelay.Step connection.relay
        (.rejected admission.destinations datagram error) relay) :
      Step parse admission config node .quiet
        (node.setConnection id
          ((connection.setRelay relay).setPhase .listening))
  | forwardAccepted {node : Listener} {id : Nat} {connection : Connection}
      {datagram : List UInt8} {relay : DatagramRelay}
      (present : node.connections id = some connection)
      (stage : connection.phase = .forwarding datagram)
      (move : DatagramRelay.Step connection.relay
        (.accepted 0 admission.destinations datagram) relay) :
      Step parse admission config node .quiet
        (node.setConnection id
          ((connection.setRelay relay).setPhase (.inForward datagram)))
  | forwardRefused {node : Listener} {id : Nat} {connection : Connection}
      {datagram : List UInt8} {error : DatagramRelayError}
      {relay : DatagramRelay}
      (present : node.connections id = some connection)
      (stage : connection.phase = .inForward datagram)
      (move : DatagramRelay.Step connection.relay (.refused 0 error) relay) :
      Step parse admission config node .quiet
        (node.setConnection id
          ((connection.setRelay relay).setPhase .listening))
  | forwarded {node : Listener} {id : Nat} {connection : Connection}
      {datagram payload : List UInt8} {address : Nat}
      {destination : SocketAddr} {accepted : Bool} {relay : DatagramRelay}
      (present : node.connections id = some connection)
      (stage : connection.phase = .inForward datagram)
      (move : DatagramRelay.Step connection.relay
        (.sent 0 address destination payload accepted) relay) :
      Step parse admission config node
        (.udpSend id datagram address destination payload)
        (node.setConnection id
          ((connection.setRelay relay).setPhase .listening))
  | relayMoved {node : Listener} {id : Nat} {connection : Connection}
      {event : DatagramRelay.Event} {egress : Egress}
      {relay : DatagramRelay}
      (present : node.connections id = some connection)
      (move : DatagramRelay.Step connection.relay event relay)
      (seen : relayEgress id event = some egress) :
      Step parse admission config node egress
        (node.setConnection id (connection.setRelay relay))
  -- The end of the loop
  | loopEnded {node : Listener} {id : Nat} {connection : Connection}
      (present : node.connections id = some connection)
      (listening : connection.phase = .listening) :
      Step parse admission config node .quiet
        (node.setConnection id (connection.setPhase .draining))
  | relayShutDown {node : Listener} {id : Nat} {connection : Connection}
      {relay : DatagramRelay}
      (present : node.connections id = some connection)
      (draining : connection.phase = .draining)
      (move : DatagramRelay.Step connection.relay .shutdown relay) :
      Step parse admission config node .quiet
        (node.setConnection id
          ((connection.setRelay relay).setPhase .joining))
  | flowsJoined {node : Listener} {id : Nat} {connection : Connection}
      (present : node.connections id = some connection)
      (joining : connection.phase = .joining)
      (joined : connection.Joined) :
      Step parse admission config node .quiet
        (node.setConnection id (connection.setPhase .closing))
  | closeBegan {node : Listener} {id : Nat} {connection : Connection}
      {admissions : Admissions}
      (present : node.connections id = some connection)
      (closing : connection.phase = .closing)
      (move : Admissions.Step admission node.admissions (.began id .close)
        admissions) :
      Step parse admission config node .quiet
        ((node.setAdmissions admissions).setConnection id
          (connection.setPhase .inClose))
  | closed {node : Listener} {id : Nat} {connection : Connection}
      {admissions : Admissions}
      (present : node.connections id = some connection)
      (stage : connection.phase = .inClose)
      (move : Admissions.Step admission node.admissions
        (.returned id .close .done) admissions) :
      Step parse admission config node .quiet
        ((node.setAdmissions admissions).setConnection id
          (connection.setPhase .finished))

end Listener

end Velum.Node
