import Velum.Foundation.IpHeaders
import Velum.Tun.Packets

/-!
# Frames of both families

The classifier takes IPv4 and IPv6 frames.  Of the packet views of the network
stack it is assumed that they follow the layouts of the headers: they read
back a packet that is laid out so, and they write packets that are.
-/

namespace Velum.Tun

open Foundation Protocol

namespace IpProtocol

/-- The assigned protocol numbers. -/
def number : IpProtocol → UInt8
  | .tcp => 6
  | .udp => 17
  | .other number => number

def ofNumber (number : UInt8) : IpProtocol :=
  if number = 6 then .tcp else if number = 17 then .udp else .other number

end IpProtocol

/-- The first four bits of a frame. -/
def version (frame : List UInt8) : Option UInt8 :=
  frame.head?.map fun byte : UInt8 => byte >>> (4 : UInt8)

/-- The views of both families. -/
structure IpPacketViews extends PacketViews where
  /-- `Ipv6Packet::new_checked` and its payload. -/
  ipv6Packet : List UInt8 → Option (List UInt8)
  /-- `Ipv6Repr::parse` of a checked packet. -/
  ipv6Repr : List UInt8 → Option (IpRepr 16)

namespace IpPacketViews

variable (views : IpPacketViews)

/-- Classifies one IPv6 TCP or UDP packet without extension headers. -/
def classifyIpv6Packet (frame : List UInt8) : Except PacketError FlowKey :=
  match views.ipv6Packet frame with
  | none => .error .malformedIpv6
  | some payload =>
      match views.ipv6Repr frame with
      | none => .error .malformedIpv6
      | some ipv6 =>
          match views.transport ipv6.nextHeader payload with
          | .error failure => .error failure
          | .ok (protocol, ports) =>
              if ports.dstPort = 0 then .error .malformedTransport
              else
                .ok
                  { protocol
                    source := .new (.v6 ipv6.srcAddr) ports.srcPort
                    destination := .new (.v6 ipv6.dstAddr) ports.dstPort }

/-- Classifies one frame by the version in its first four bits. -/
def classifyIpPacket (frame : List UInt8) : Except PacketError FlowKey :=
  match version frame with
  | some 4 => views.classifyIpv4Packet frame
  | some 6 => views.classifyIpv6Packet frame
  | _ => .error .unsupportedProtocol

/-- The payload that a UDP frame of either family carries. -/
def carriedPayload (frame : List UInt8) : Option (List UInt8) :=
  let body := match version frame with
    | some 4 => views.ipv4Packet frame
    | some 6 => views.ipv6Packet frame
    | _ => none
  (body.bind views.udpPacket).map Prod.snd

end IpPacketViews

/-! ## The layouts -/

/-- The header has the fields that are written. -/
structure WrittenIpv4 (repr : IpRepr 4) (header : Ipv4Header) : Prop where
  source : header.source = repr.srcAddr
  destination : header.destination = repr.dstAddr
  protocol : header.protocol = repr.nextHeader.number

structure WrittenIpv6 (repr : IpRepr 16) (header : Ipv6Header) : Prop where
  source : header.source = repr.srcAddr
  destination : header.destination = repr.dstAddr
  nextHeader : header.nextHeader = repr.nextHeader.number

structure WrittenUdp (ports : TransportRepr) (header : UdpHeader) : Prop where
  source : header.source = ports.srcPort
  destination : header.destination = ports.dstPort

/-- A datagram behind its header, and the packet around it. -/
def ipv4Datagram (header : Ipv4Header) (udp : UdpHeader)
    (payload : List UInt8) : List UInt8 :=
  header.bytes (8 + payload.length) ++ (udp.bytes payload.length ++ payload)

def ipv6Datagram (header : Ipv6Header) (udp : UdpHeader)
    (payload : List UInt8) : List UInt8 :=
  header.bytes (8 + payload.length) ++ (udp.bytes payload.length ++ payload)

/-- The views follow the layouts, for packets whose length fits its field. -/
structure IpPacketViews.FollowsLayouts (views : IpPacketViews) : Prop where
  ipv4 : ∀ (header : Ipv4Header) (body : List UInt8),
    20 + body.length < 65536 →
    views.ipv4Packet (header.bytes body.length ++ body) = some body ∧
      views.ipv4Repr (header.bytes body.length ++ body) =
        some ⟨header.source, header.destination, .ofNumber header.protocol⟩
  ipv6 : ∀ (header : Ipv6Header) (body : List UInt8), body.length < 65536 →
    views.ipv6Packet (header.bytes body.length ++ body) = some body ∧
      views.ipv6Repr (header.bytes body.length ++ body) =
        some ⟨header.source, header.destination, .ofNumber header.nextHeader⟩
  udp : ∀ (header : UdpHeader) (body : List UInt8), 8 + body.length < 65536 →
    views.udpPacket (header.bytes body.length ++ body) =
      some (⟨header.source, header.destination⟩, body)
  emitIpv4 : ∀ (repr : IpRepr 4) (ports : TransportRepr)
    (payload : List UInt8), 28 + payload.length < 65536 →
    ∃ header udp, WrittenIpv4 repr header ∧ WrittenUdp ports udp ∧
      views.emitUdpIpv4 repr ports payload = ipv4Datagram header udp payload
  emitIpv6 : ∀ (repr : IpRepr 16) (ports : TransportRepr)
    (payload : List UInt8), 8 + payload.length < 65536 →
    ∃ header udp, WrittenIpv6 repr header ∧ WrittenUdp ports udp ∧
      views.emitUdpIpv6 repr ports payload = ipv6Datagram header udp payload

/-! ## Datagrams that are read back -/

section Datagrams

variable {views : IpPacketViews} (udp : UdpHeader) (payload : List UInt8)

theorem length_udpBytes :
    (udp.bytes payload.length ++ payload).length = 8 + payload.length := by
  simp

theorem length_ipv4Datagram (header : Ipv4Header) :
    (ipv4Datagram header udp payload).length =
      ipv4HeaderLen + udpHeaderLen + payload.length := by
  simp [ipv4Datagram, ipv4HeaderLen, udpHeaderLen]
  omega

theorem length_ipv6Datagram (header : Ipv6Header) :
    (ipv6Datagram header udp payload).length =
      ipv6HeaderLen + udpHeaderLen + payload.length := by
  simp [ipv6Datagram, ipv6HeaderLen, udpHeaderLen]
  omega

/-- The version of a packet sends it to its own classifier. -/
theorem IpPacketViews.classifyIpPacket_ipv4 (views : IpPacketViews)
    (header : Ipv4Header) :
    views.classifyIpPacket (ipv4Datagram header udp payload) =
        views.classifyIpv4Packet (ipv4Datagram header udp payload) ∧
      views.carriedPayload (ipv4Datagram header udp payload) =
        ((views.ipv4Packet (ipv4Datagram header udp payload)).bind
          views.udpPacket).map Prod.snd := by
  have four : version (ipv4Datagram header udp payload) = some 4 := by
    have first : (ipv4Datagram header udp payload).head? = some 0x45 :=
      header.head?_bytes _ _
    rw [version, first]
    rfl
  rw [classifyIpPacket, carriedPayload, four]
  exact ⟨rfl, rfl⟩

theorem IpPacketViews.classifyIpPacket_ipv6 (views : IpPacketViews)
    (header : Ipv6Header) :
    views.classifyIpPacket (ipv6Datagram header udp payload) =
        views.classifyIpv6Packet (ipv6Datagram header udp payload) ∧
      views.carriedPayload (ipv6Datagram header udp payload) =
        ((views.ipv6Packet (ipv6Datagram header udp payload)).bind
          views.udpPacket).map Prod.snd := by
  have six : version (ipv6Datagram header udp payload) = some 6 := by
    obtain ⟨byte, first, shifted⟩ :=
      header.head?_bytes (8 + payload.length)
        (udp.bytes payload.length ++ payload)
    have same : (ipv6Datagram header udp payload).head? = some byte := first
    rw [version, same, Option.map_some, shifted]
  rw [classifyIpPacket, carriedPayload, six]
  exact ⟨rfl, rfl⟩

namespace IpPacketViews.FollowsLayouts

/-- The transport header of a laid out datagram is that of the datagram. -/
theorem transport_udp (follows : views.FollowsLayouts)
    (fits : 8 + payload.length < 65536) :
    views.transport .udp (udp.bytes payload.length ++ payload) =
      .ok (.udp, ⟨udp.source, udp.destination⟩) := by
  rw [PacketViews.transport, follows.udp udp payload fits]

/-- A datagram that is laid out as an IPv4 packet is classified by its
addresses and ports, unless it has no destination port. -/
theorem ipv4Datagram_read (follows : views.FollowsLayouts)
    (header : Ipv4Header) (protocol : header.protocol = 17)
    (fits : 28 + payload.length < 65536) :
    views.classifyIpPacket (ipv4Datagram header udp payload) =
        (if udp.destination = 0 then .error .malformedTransport
        else .ok ⟨.udp, .v4 header.source udp.source,
          .v4 header.destination udp.destination⟩) ∧
      views.carriedPayload (ipv4Datagram header udp payload) =
        some payload := by
  have body := length_udpBytes udp payload
  obtain ⟨packet, repr⟩ := follows.ipv4 header
    (udp.bytes payload.length ++ payload) (by omega)
  rw [body] at packet repr
  obtain ⟨classified, carried⟩ := views.classifyIpPacket_ipv4 udp payload
    header
  have transport := follows.transport_udp udp payload (by omega)
  have datagram : IpProtocol.ofNumber 17 = .udp := rfl
  rw [classified, carried, ipv4Datagram]
  constructor
  · simp only [PacketViews.classifyIpv4Packet, packet, repr, protocol,
      datagram, transport]
    rfl
  · rw [packet, Option.bind_some, follows.udp udp payload (by omega)]
    rfl

theorem ipv6Datagram_read (follows : views.FollowsLayouts)
    (header : Ipv6Header) (nextHeader : header.nextHeader = 17)
    (fits : 8 + payload.length < 65536) :
    views.classifyIpPacket (ipv6Datagram header udp payload) =
        (if udp.destination = 0 then .error .malformedTransport
        else .ok ⟨.udp, .v6 header.source udp.source 0 0,
          .v6 header.destination udp.destination 0 0⟩) ∧
      views.carriedPayload (ipv6Datagram header udp payload) =
        some payload := by
  have body := length_udpBytes udp payload
  obtain ⟨packet, repr⟩ := follows.ipv6 header
    (udp.bytes payload.length ++ payload) (by omega)
  rw [body] at packet repr
  obtain ⟨classified, carried⟩ := views.classifyIpPacket_ipv6 udp payload
    header
  have transport := follows.transport_udp udp payload (by omega)
  have datagram : IpProtocol.ofNumber 17 = .udp := rfl
  rw [classified, carried, ipv6Datagram]
  constructor
  · simp only [classifyIpv6Packet, packet, repr, nextHeader, datagram,
      transport]
    rfl
  · rw [packet, Option.bind_some, follows.udp udp payload (by omega)]
    rfl

end IpPacketViews.FollowsLayouts

end Datagrams

end Velum.Tun
