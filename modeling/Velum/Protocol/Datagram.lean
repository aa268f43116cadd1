import Velum.Foundation.ByteReader
import Mathlib.Order.Defs.LinearOrder
import Mathlib.Order.Lattice.Nat

/-!
# Datagram envelopes

Bounded application envelopes that native unreliable datagrams carry.  The
direction byte decides whether a credential stands before the association
identifier.  A socket address keeps its flow information and its scope, which
are compared but not written.
-/

namespace Velum.Protocol

open Foundation

inductive IpAddr where
  | v4 (octets : List.Vector UInt8 4)
  | v6 (octets : List.Vector UInt8 16)
  deriving DecidableEq

inductive SocketAddr where
  | v4 (octets : List.Vector UInt8 4) (port : UInt16)
  | v6 (octets : List.Vector UInt8 16) (port : UInt16)
      (flowinfo scopeId : UInt32)
  deriving DecidableEq

namespace SocketAddr

def new : IpAddr → UInt16 → SocketAddr
  | .v4 octets, port => .v4 octets port
  | .v6 octets, port => .v6 octets port 0 0

def ip : SocketAddr → IpAddr
  | .v4 octets _ => .v4 octets
  | .v6 octets _ _ _ => .v6 octets

def port : SocketAddr → UInt16
  | .v4 _ port => port
  | .v6 _ port _ _ => port

end SocketAddr

def maxDatagramPayloadBytes : Nat := 60 * 1024
def maxDatagramCredentialBytes : Nat := 128
def maxDatagramEnvelopeBytes : Nat :=
  maxDatagramPayloadBytes + 29 + maxDatagramCredentialBytes

/-- Opaque, non-zero identifier for one UDP association within a carrier. -/
structure DatagramSessionId where
  value : UInt64
  nonzero : value ≠ 0
  deriving DecidableEq

inductive DatagramSessionIdError where
  | zero
  deriving DecidableEq, Repr

namespace DatagramSessionId

def new (value : UInt64) : Except DatagramSessionIdError DatagramSessionId :=
  if nonzero : value ≠ 0 then .ok ⟨value, nonzero⟩ else .error .zero

theorem value_toNat_injective :
    Function.Injective fun id : DatagramSessionId => id.value.toNat := by
  intro left right equality
  cases left
  cases right
  congr
  exact UInt64.toNat_inj.mp equality

instance : LinearOrder DatagramSessionId :=
  LinearOrder.lift' (fun id : DatagramSessionId => id.value.toNat)
    value_toNat_injective

end DatagramSessionId

/-- One application datagram, in the direction selected by its envelope
type. -/
inductive Datagram where
  | clientToServer (credential : List UInt8) (sessionId : DatagramSessionId)
      (destination : SocketAddr) (payload : List UInt8)
  | serverToClient (sessionId : DatagramSessionId) (source : SocketAddr)
      (payload : List UInt8)
  deriving DecidableEq

inductive DatagramEncodeError where
  | invalidCredentialLength (minimum maximum actual : Nat)
  | payloadTooLarge (maximum actual : Nat)
  deriving DecidableEq, Repr

inductive DatagramDecodeError where
  | tooShort
  | tooLarge (maximum actual : Nat)
  | unknownDirection (direction : UInt8)
  | invalidCredentialLength (minimum maximum actual : Nat)
  | invalidAddressFamily (family : UInt8)
  | zeroSessionId
  deriving DecidableEq, Repr

def clientToServerByte : UInt8 := 0x01
def serverToClientByte : UInt8 := 0x02
def ipv4Byte : UInt8 := 0x04
def ipv6Byte : UInt8 := 0x06

namespace Datagram

/-- What `push_address` appends. -/
def addressBytes (address : SocketAddr) : List UInt8 :=
  (match address.ip with
    | .v4 octets => ipv4Byte :: octets.toList
    | .v6 octets => ipv6Byte :: octets.toList) ++ wordBytes16 address.port

/-- The common end of every envelope, with the check of its payload. -/
def encodeFrom (front : List UInt8) (sessionId : DatagramSessionId)
    (address : SocketAddr) (payload : List UInt8) :
    Except DatagramEncodeError (List UInt8) :=
  if payload.length > maxDatagramPayloadBytes then
    .error (.payloadTooLarge maxDatagramPayloadBytes payload.length)
  else
    .ok (front ++ wordBytes64 sessionId.value ++ addressBytes address ++
      payload)

def encode : Datagram → Except DatagramEncodeError (List UInt8)
  | .clientToServer credential sessionId destination payload =>
      if 1 ≤ credential.length ∧
          credential.length ≤ maxDatagramCredentialBytes then
        encodeFrom (clientToServerByte :: UInt8.ofNat credential.length ::
          credential) sessionId destination payload
      else
        .error (.invalidCredentialLength 1 maxDatagramCredentialBytes
          credential.length)
  | .serverToClient sessionId source payload =>
      encodeFrom [serverToClientByte] sessionId source payload

theorem encodeFrom_eq_ok_iff {front payload bytes : List UInt8}
    {sessionId : DatagramSessionId} {address : SocketAddr} :
    encodeFrom front sessionId address payload = .ok bytes ↔
      payload.length ≤ maxDatagramPayloadBytes ∧
        bytes = front ++ wordBytes64 sessionId.value ++
          addressBytes address ++ payload := by
  unfold encodeFrom
  split
  · rename_i large
    simp [Nat.not_le.mpr large]
  · rename_i small
    simp [Nat.not_lt.mp small, eq_comm]

/-- A reply is encoded exactly when its payload is within the limit. -/
theorem encode_serverToClient_eq_ok_iff {sessionId : DatagramSessionId}
    {source : SocketAddr} {payload encoded : List UInt8} :
    (serverToClient sessionId source payload).encode = .ok encoded ↔
      payload.length ≤ maxDatagramPayloadBytes ∧
        encoded = [serverToClientByte] ++ wordBytes64 sessionId.value ++
          addressBytes source ++ payload :=
  encodeFrom_eq_ok_iff

end Datagram

abbrev DatagramReader := ByteReader DatagramDecodeError

namespace DatagramReader

def u8 : DatagramReader UInt8 := do
  let bytes ← ByteReader.take .tooShort 1
  pure bytes.head

def u64 : DatagramReader UInt64 :=
  ByteReader.word64 .tooShort

def address : DatagramReader SocketAddr := do
  let family ← u8
  let ip ←
    if family = ipv4Byte then do
      let octets ← ByteReader.take .tooShort 4
      pure (IpAddr.v4 octets)
    else if family = ipv6Byte then do
      let octets ← ByteReader.take .tooShort 16
      pure (IpAddr.v6 octets)
    else throw (.invalidAddressFamily family)
  let port ← ByteReader.word16 .tooShort
  pure (SocketAddr.new ip port)

def credential (direction : UInt8) : DatagramReader (List UInt8) :=
  if direction = clientToServerByte then do
    let length ← u8
    if 1 ≤ length.toNat ∧ length.toNat ≤ maxDatagramCredentialBytes then do
      let bytes ← ByteReader.take .tooShort length.toNat
      pure bytes.toList
    else
      throw (.invalidCredentialLength 1 maxDatagramCredentialBytes
        length.toNat)
  else pure []

def sessionId : DatagramReader DatagramSessionId :=
  u64.checked DatagramSessionId.new .zeroSessionId

def envelope : DatagramReader Datagram := do
  let direction ← u8
  let secret ← credential direction
  let session ← sessionId
  let peer ← address
  let payload ← ByteReader.takeRemaining
  if payload.length > maxDatagramPayloadBytes then
    throw (.tooLarge maxDatagramPayloadBytes payload.length)
  else if direction = clientToServerByte then
    pure (.clientToServer secret session peer payload)
  else if direction = serverToClientByte then
    pure (.serverToClient session peer payload)
  else throw (.unknownDirection direction)

end DatagramReader

namespace Datagram

def decode (bytes : List UInt8) : Except DatagramDecodeError Datagram :=
  if bytes.length > maxDatagramEnvelopeBytes then
    .error (.tooLarge maxDatagramEnvelopeBytes bytes.length)
  else
    match DatagramReader.envelope.run bytes with
    | .error failure => .error failure
    | .ok (datagram, _) => .ok datagram

end Datagram

end Velum.Protocol
