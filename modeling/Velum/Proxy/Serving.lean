import Velum.Foundation.Script
import Velum.Proxy.ReadRequest
import Velum.Proxy.Relay
import Velum.Routing.Policy

/-!
# Serving a proxied connection

A connection to the local proxy names its target, the policy chooses a route
for it, and an upstream connection is opened along that route before the
client is told of it.  Every call may fail, and one that writes may have
written a part.
-/

namespace Velum.Proxy

open Foundation Protocol Routing

/-- A runtime with one node, or a pool of nodes. -/
inductive ProxyRuntime where
  | single
  | pool
  deriving DecidableEq

inductive Route where
  | direct
  | node (reference : Text)
  deriving DecidableEq

inductive ServeFailure where
  -- A request that is refused, or a transport that fails.
  | io (failure : IoError)
  | transport
  -- A stream of the runtime failed.
  | runtime
  -- The generation of a new stream has ended.
  | notConnected
  -- Explicit node routing requires a pool.
  | unsupported
  -- The policy rejects the request.
  | rejected
  deriving DecidableEq

/-! ## Protocols -/

namespace ConnectProtocol

def forwardHead : ConnectProtocol → Option (List UInt8)
  | .httpForward head => some head
  | .httpConnect => none
  | .socks5 => none

/-- What reading a request writes back. -/
def greeting : ConnectProtocol → List UInt8
  | .socks5 => [5, 0]
  | .httpConnect => []
  | .httpForward _ => []

def success : ConnectProtocol → List UInt8
  | .httpConnect =>
      Text.utf8 "HTTP/1.1 200 Connection Established\r\n\r\n".toList
  | .socks5 => [5, 0, 0, 1, 0, 0, 0, 0, 0, 0]
  | .httpForward _ => []

def rejected : ConnectProtocol → List UInt8
  | .socks5 => [5, 2, 0, 1, 0, 0, 0, 0, 0, 0]
  | .httpConnect | .httpForward _ => Text.utf8
      "HTTP/1.1 403 Forbidden\r\nContent-Length: 0\r\n\r\n".toList

end ConnectProtocol

def ProxyTarget.hostName : ProxyTarget → Option Text
  | .address _ => none
  | .domain host _ => some host

/-! ## The environment -/

inductive ProxyCall where
  | readRequest
  | lookupHost (host : Text) (port : UInt16)
  | connect (target : SocketAddr)
  | openStream (reference : Text) (target : SocketAddr)
  | isGenerationOnline
  | write (bytes : List UInt8)
  | writeUpstream (bytes : List UInt8)
  | copyBidirectional
  | relayHalves

def ProxyCall.Reply : ProxyCall → Type
  | .readRequest => Except ServeFailure ProxyRequest
  | .lookupHost _ _ => Except ServeFailure SocketAddr
  | .isGenerationOnline => Except ServeFailure Bool
  | _ => Except ServeFailure Unit

/-- What the client and the upstream have still to send, what they have been
sent, and the upstream connections opened so far. -/
structure ProxyWorld where
  input : List UInt8
  output : List UInt8
  opened : List (Route × SocketAddr)
  upstreamInput : List UInt8
  upstreamOutput : List UInt8
  deriving DecidableEq

namespace ProxyWorld

/-- Reading a request takes no more bytes than the request has.  A request
that is not read to its end may have been greeted. -/
def ReadsRequest (world : ProxyWorld) (reply : Except ServeFailure ProxyRequest)
    (after : ProxyWorld) : Prop :=
  (∃ failure sent left, reply = .error failure ∧ failure ≠ .rejected ∧
    sent <+: [5, 0] ∧ (sent ≠ [] → world.input.head? = some 5) ∧
    after = { world with input := left, output := world.output ++ sent }) ∨
  ∃ request rest, readRequest (.ok ()) world.input = .ok (request, rest) ∧
    reply = .ok request ∧
    after = { world with
      input := rest
      output := world.output ++ request.protocol.greeting }

def LooksUp (world : ProxyWorld) (port : UInt16)
    (reply : Except ServeFailure SocketAddr) (after : ProxyWorld) : Prop :=
  ((∃ failure, failure ≠ .rejected ∧ reply = .error failure) ∨
    ∃ address, address.port = port ∧ reply = .ok address) ∧ after = world

def Opens (world : ProxyWorld) (route : Route) (target : SocketAddr)
    (reply : Except ServeFailure Unit) (after : ProxyWorld) : Prop :=
  (∃ failure, failure ≠ .rejected ∧ reply = .error failure ∧
    after = world) ∨
  reply = .ok () ∧
    after = { world with opened := world.opened ++ [(route, target)] }

/-- Copying in both directions fails at any point.  The upstream's bytes are
copied to their end if it does not fail, and the client's if they are
`awaited`. -/
def Copies (world : ProxyWorld) (awaited : Prop)
    (reply : Except ServeFailure Unit) (after : ProxyWorld) : Prop :=
  ∃ sent answered left pending, sent <+: world.input ∧
    answered <+: world.upstreamOutput ∧
    after = { world with
      input := left
      output := world.output ++ answered
      upstreamInput := world.upstreamInput ++ sent
      upstreamOutput := pending } ∧
    ((∃ failure, failure ≠ .rejected ∧ reply = .error failure) ∨
      reply = .ok () ∧ answered = world.upstreamOutput ∧
        (awaited → sent = world.input))

/-- The two loops of the relay get what the client and the upstream have still
to send, and stop where a read or a write fails.  The relay returns when the
downstream loop does. -/
def Relays (world : ProxyWorld) (reply : Except ServeFailure Unit)
    (after : ProxyWorld) : Prop :=
  ∃ trace relay left pending, Run (Relay.Step relayHalves) {} trace relay ∧
    (relay.copy .upstream).sent <+: world.input ∧
    (relay.copy .downstream).sent <+: world.upstreamOutput ∧
    ((relay.copy .downstream).ended = true →
      (relay.copy .downstream).sent = world.upstreamOutput) ∧
    after = { world with
      input := left
      output := world.output ++ (relay.copy .downstream).written
      upstreamInput := world.upstreamInput ++ (relay.copy .upstream).written
      upstreamOutput := pending } ∧
    ((∃ failure, failure ≠ .rejected ∧ reply = .error failure) ∨
      reply = .ok () ∧ (relay.copy .downstream).stage = .done)

def Writes (world : ProxyWorld) (bytes : List UInt8)
    (reply : Except ServeFailure Unit) (after : ProxyWorld) : Prop :=
  (∃ sent, sent <+: bytes ∧ reply = .error .transport ∧
    after = { world with output := world.output ++ sent }) ∨
  reply = .ok () ∧ after = { world with output := world.output ++ bytes }

def WritesUpstream (world : ProxyWorld) (bytes : List UInt8)
    (reply : Except ServeFailure Unit) (after : ProxyWorld) : Prop :=
  (∃ failure sent, sent <+: bytes ∧ failure ≠ .rejected ∧
    reply = .error failure ∧
    after = { world with upstreamInput := world.upstreamInput ++ sent }) ∨
  reply = .ok () ∧
    after = { world with upstreamInput := world.upstreamInput ++ bytes }

def Answers (world : ProxyWorld) :
    (call : ProxyCall) → call.Reply → ProxyWorld → Prop
  | .readRequest, reply, after => world.ReadsRequest reply after
  | .lookupHost _ port, reply, after => world.LooksUp port reply after
  | .connect target, reply, after => world.Opens .direct target reply after
  | .openStream reference target, reply, after =>
      world.Opens (.node reference) target reply after
  | .isGenerationOnline, reply, after =>
      (∃ online, reply = .ok online) ∧ after = world
  | .write bytes, reply, after => world.Writes bytes reply after
  | .writeUpstream bytes, reply, after =>
      world.WritesUpstream bytes reply after
  | .copyBidirectional, reply, after => world.Copies True reply after
  | .relayHalves, reply, after => world.Relays reply after

end ProxyWorld

abbrev ProxyScript (Value : Type) :=
  ExceptT ServeFailure (Script ProxyCall ProxyCall.Reply) Value

namespace ProxyScript

def readRequest : ProxyScript ProxyRequest :=
  ExceptT.mk (Script.call ProxyCall.readRequest)

def lookupHost (host : Text) (port : UInt16) : ProxyScript SocketAddr :=
  ExceptT.mk (Script.call (ProxyCall.lookupHost host port))

def connect (target : SocketAddr) : ProxyScript Unit :=
  ExceptT.mk (Script.call (ProxyCall.connect target))

def openStream (reference : Text) (target : SocketAddr) : ProxyScript Unit :=
  ExceptT.mk (Script.call (ProxyCall.openStream reference target))

def isGenerationOnline : ProxyScript Bool :=
  ExceptT.mk (Script.call ProxyCall.isGenerationOnline)

def write (bytes : List UInt8) : ProxyScript Unit :=
  ExceptT.mk (Script.call (ProxyCall.write bytes))

def writeUpstream (bytes : List UInt8) : ProxyScript Unit :=
  ExceptT.mk (Script.call (ProxyCall.writeUpstream bytes))

def copyBidirectional : ProxyScript Unit :=
  ExceptT.mk (Script.call ProxyCall.copyBidirectional)

def relayHalves : ProxyScript Unit :=
  ExceptT.mk (Script.call ProxyCall.relayHalves)

end ProxyScript

/-! ## The script -/

def ProxyTarget.resolve : ProxyTarget → ProxyScript SocketAddr
  | .address literal => pure literal
  | .domain host port => ProxyScript.lookupHost host port

/-- Nothing is written for a forwarded request. -/
def writeSuccess (protocol : ConnectProtocol) : ProxyScript Unit :=
  match protocol with
  | .httpForward _ => pure ()
  | _ => ProxyScript.write protocol.success

def writeRejected (protocol : ConnectProtocol) : ProxyScript Unit :=
  ProxyScript.write protocol.rejected

def writeForwardHead (protocol : ConnectProtocol) : ProxyScript Unit :=
  match protocol.forwardHead with
  | some head => ProxyScript.writeUpstream head
  | none => pure ()

def relayStream (protocol : ConnectProtocol) : ProxyScript Unit := do
  writeSuccess protocol
  writeForwardHead protocol
  ProxyScript.relayHalves

def proxyReference : Text := "PROXY".toList

def relayProxy (runtime : ProxyRuntime) (reference : Text)
    (target : SocketAddr) (protocol : ConnectProtocol) : ProxyScript Unit :=
  match runtime with
  | .single =>
      if reference = proxyReference then do
        ProxyScript.openStream reference target
        let online ← ProxyScript.isGenerationOnline
        if online then relayStream protocol else throw .notConnected
      else throw .unsupported
  | .pool => do
      ProxyScript.openStream reference target
      relayStream protocol

def serve (runtime : ProxyRuntime) (policy : RoutingPolicy) :
    ProxyScript Unit := do
  let request ← ProxyScript.readRequest
  let target ← request.target.resolve
  match policy.decide ⟨request.target.hostName, target.ip, target.port⟩ with
  | .direct => do
      ProxyScript.connect target
      writeSuccess request.protocol
      writeForwardHead request.protocol
      ProxyScript.copyBidirectional
  | .proxy => relayProxy runtime proxyReference target request.protocol
  | .reject => do
      writeRejected request.protocol
      throw .rejected
  | .node node => relayProxy runtime node target request.protocol

end Velum.Proxy
