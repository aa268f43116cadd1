import Velum.Tun.Associations

/-!
# Frames of a tunnel interface

Frames are read and written through the packet views of a network stack that
is not part of the repository.  The views are a parameter: each one gives what
a checked view reads, and nothing where the stack refuses the bytes.
-/

namespace Velum.Tun

open Foundation Protocol

/-- A packet that cannot safely enter the adapter flow table. -/
inductive PacketError where
  | malformedIpv4
  | malformedIpv6
  | fragmentedIpv4
  | unsupportedProtocol
  | malformedTransport
  deriving DecidableEq, Repr

inductive PacketEncodeError where
  | addressFamilyMismatch
  | mtuExceeded
  deriving DecidableEq, Repr

inductive IpProtocol where
  | tcp
  | udp
  | other (number : UInt8)
  deriving DecidableEq, Repr

/-- The fields that are read from a network header. -/
structure IpRepr (width : Nat) where
  srcAddr : List.Vector UInt8 width
  dstAddr : List.Vector UInt8 width
  nextHeader : IpProtocol

/-- The fields that are read from or written to a transport header. -/
structure TransportRepr where
  srcPort : UInt16
  dstPort : UInt16
  deriving DecidableEq, Repr

structure PacketViews where
  /-- `Ipv4Packet::new_checked` and its payload. -/
  ipv4Packet : List UInt8 → Option (List UInt8)
  /-- `Ipv4Repr::parse` of a checked packet. -/
  ipv4Repr : List UInt8 → Option (IpRepr 4)
  tcpPacket : List UInt8 → Option TransportRepr
  /-- `UdpPacket::new_checked`, its ports and its payload. -/
  udpPacket : List UInt8 → Option (TransportRepr × List UInt8)
  /-- The frame that the emitters of both headers and the copied payload
  leave in the zeroed buffer. -/
  emitUdpIpv4 : IpRepr 4 → TransportRepr → List UInt8 → List UInt8
  emitUdpIpv6 : IpRepr 16 → TransportRepr → List UInt8 → List UInt8

def ipv4HeaderLen : Nat := 20
def ipv6HeaderLen : Nat := 40
def udpHeaderLen : Nat := 8

namespace PacketViews

variable (views : PacketViews)

/-- The transport header behind a network header. -/
def transport (nextHeader : IpProtocol) (payload : List UInt8) :
    Except PacketError (FlowProtocol × TransportRepr) :=
  match nextHeader with
  | .tcp =>
      match views.tcpPacket payload with
      | none => .error .malformedTransport
      | some ports => .ok (.tcp, ports)
  | .udp =>
      match views.udpPacket payload with
      | none => .error .malformedTransport
      | some (ports, _) => .ok (.udp, ports)
  | .other _ => .error .unsupportedProtocol

/-- Classifies one IPv4 TCP or UDP packet. -/
def classifyIpv4Packet (frame : List UInt8) : Except PacketError FlowKey :=
  match views.ipv4Packet frame with
  | none => .error .malformedIpv4
  | some payload =>
      match views.ipv4Repr frame with
      | none => .error .fragmentedIpv4
      | some ipv4 =>
          match views.transport ipv4.nextHeader payload with
          | .error failure => .error failure
          | .ok (protocol, ports) =>
              if ports.dstPort = 0 then .error .malformedTransport
              else
                .ok
                  { protocol
                    source := .new (.v4 ipv4.srcAddr) ports.srcPort
                    destination := .new (.v4 ipv4.dstAddr) ports.dstPort }

/-- Extracts the payload from one validated IPv4 UDP frame. -/
def udpPayload (frame : List UInt8) : Except PacketError (List UInt8) :=
  match views.classifyIpv4Packet frame with
  | .error failure => .error failure
  | .ok key =>
      if key.protocol ≠ .udp then .error .unsupportedProtocol
      else
        match views.ipv4Packet frame with
        | none => .error .malformedIpv4
        | some payload =>
            match views.udpPacket payload with
            | none => .error .malformedTransport
            | some (_, body) => .ok body

/-- Encodes a relay response for delivery to its original flow. -/
def encodeUdpResponse (flow : FlowKey) (payload : List UInt8) (mtu : Nat) :
    Except PacketEncodeError (List UInt8) :=
  let udp : TransportRepr := ⟨flow.destination.port, flow.source.port⟩
  match flow.destination.ip, flow.source.ip with
  | .v4 source, .v4 destination =>
      if mtu < ipv4HeaderLen + udpHeaderLen + payload.length then
        .error .mtuExceeded
      else .ok (views.emitUdpIpv4 ⟨source, destination, .udp⟩ udp payload)
  | .v6 source, .v6 destination =>
      if mtu < ipv6HeaderLen + udpHeaderLen + payload.length then
        .error .mtuExceeded
      else .ok (views.emitUdpIpv6 ⟨source, destination, .udp⟩ udp payload)
  | _, _ => .error .addressFamilyMismatch

/-- Only a UDP frame has a payload to forward. -/
theorem udp_of_udpPayload {frame payload : List UInt8} {flow : FlowKey}
    (classified : views.classifyIpv4Packet frame = .ok flow)
    (extracted : views.udpPayload frame = .ok payload) :
    flow.protocol = .udp := by
  by_contra other
  simp [udpPayload, classified, other] at extracted

end PacketViews

end Velum.Tun
