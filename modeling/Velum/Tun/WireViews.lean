import Velum.Tun.IpPackets

/-!
# Views by offset

Packet views that read every field at its offset and write the headers with
their checksums, as the network stack does.  They follow the layouts.
-/

namespace Velum.Tun

open Foundation Protocol

/-! ## Checksums -/

/-- The sum of the 16-bit words of a byte string. -/
def wordSum : List UInt8 → Nat
  | [] => 0
  | [byte] => byte.toNat * 256
  | high :: low :: rest => high.toNat * 256 + low.toNat + wordSum rest

/-- The complement of a sum in ones' complement. -/
def internetChecksum (sum : Nat) : UInt16 :=
  UInt16.ofNat (65535 - if sum = 0 then 0 else (sum - 1) % 65535 + 1)

/-- A datagram whose checksum comes out as zero carries all ones. -/
def datagramChecksum (sum : Nat) : UInt16 :=
  if internetChecksum sum = 0 then 65535 else internetChecksum sum

def udpHeader (source destination : List UInt8) (ports : TransportRepr)
    (payload : List UInt8) : UdpHeader :=
  let blank : UdpHeader := ⟨ports.srcPort, ports.dstPort, 0⟩
  { blank with
    checksum := datagramChecksum (wordSum source + wordSum destination + 17 +
      (8 + payload.length) + wordSum (blank.bytes payload.length ++ payload)) }

def ipv4Header (repr : IpRepr 4) (bodyLength : Nat) : Ipv4Header :=
  let blank : Ipv4Header := {
    service := 0
    identification := 0
    dontFragment := true
    hopLimit := 64
    protocol := repr.nextHeader.number
    checksum := 0
    source := repr.srcAddr
    destination := repr.dstAddr }
  { blank with
    checksum := internetChecksum (wordSum (blank.bytes bodyLength)) }

def ipv6Header (repr : IpRepr 16) : Ipv6Header where
  trafficClass := 0
  flowLabel := 0
  nextHeader := repr.nextHeader.number
  hopLimit := 64
  source := repr.srcAddr
  destination := repr.dstAddr

/-! ## Views -/

def readIpv4Packet (frame : List UInt8) : Option (List UInt8) :=
  let headerLength := (byteAt frame 0).toNat % 16 * 4
  let totalLength := wordAt frame 2
  if frame.length < 20 ∨ frame.length < headerLength ∨
      totalLength < headerLength ∨ frame.length < totalLength then none
  else some ((frame.take totalLength).drop headerLength)

/-- Fragments are refused: the bits below the one that forbids them count. -/
def readIpv4Repr (frame : List UInt8) : Option (IpRepr 4) :=
  if (byteAt frame 0).toNat / 16 ≠ 4 ∨ wordAt frame 6 % 16384 ≠ 0 then none
  else some ⟨octetsAt 4 frame 12, octetsAt 4 frame 16,
    .ofNumber (byteAt frame 9)⟩

def readIpv6Packet (frame : List UInt8) : Option (List UInt8) :=
  let totalLength := 40 + wordAt frame 4
  if frame.length < totalLength then none
  else some ((frame.take totalLength).drop 40)

def readIpv6Repr (frame : List UInt8) : Option (IpRepr 16) :=
  if (byteAt frame 0).toNat / 16 ≠ 6 then none
  else some ⟨octetsAt 16 frame 8, octetsAt 16 frame 24,
    .ofNumber (byteAt frame 6)⟩

def readPorts (packet : List UInt8) : TransportRepr :=
  ⟨UInt16.ofNat (wordAt packet 0), UInt16.ofNat (wordAt packet 2)⟩

def readTcpPacket (packet : List UInt8) : Option TransportRepr :=
  let headerLength := (byteAt packet 12).toNat / 16 * 4
  if packet.length < 20 ∨ packet.length < headerLength ∨ headerLength < 20
  then none
  else some (readPorts packet)

def readUdpPacket (packet : List UInt8) :
    Option (TransportRepr × List UInt8) :=
  let length := wordAt packet 4
  if packet.length < 8 ∨ packet.length < length ∨ length < 8 then none
  else some (readPorts packet, (packet.take length).drop 8)

def wireViews : IpPacketViews where
  ipv4Packet := readIpv4Packet
  ipv4Repr := readIpv4Repr
  ipv6Packet := readIpv6Packet
  ipv6Repr := readIpv6Repr
  tcpPacket := readTcpPacket
  udpPacket := readUdpPacket
  emitUdpIpv4 repr ports payload :=
    ipv4Datagram (ipv4Header repr (8 + payload.length))
      (udpHeader repr.srcAddr.toList repr.dstAddr.toList ports payload) payload
  emitUdpIpv6 repr ports payload :=
    ipv6Datagram (ipv6Header repr)
      (udpHeader repr.srcAddr.toList repr.dstAddr.toList ports payload) payload

theorem drop_take_bytes {header body : List UInt8} {length total : Nat}
    (front : header.length = length) (whole : total = length + body.length) :
    ((header ++ body).take total).drop length = body := by
  subst front whole
  rw [List.take_of_length_le (by simp), List.drop_left]

theorem readIpv4Packet_bytes (header : Ipv4Header) {body : List UInt8}
    (fits : 20 + body.length < 65536) :
    readIpv4Packet (header.bytes body.length ++ body) = some body := by
  have headerLength : (0x45 : UInt8).toNat % 16 * 4 = 20 := by decide
  simp only [readIpv4Packet, header.byteAt_first, header.wordAt_length fits,
    headerLength]
  rw [if_neg]
  · exact congrArg some (drop_take_bytes (header.length_bytes _) rfl)
  · rw [List.length_append, header.length_bytes]
    omega

theorem readIpv4Repr_bytes (header : Ipv4Header) (body : List UInt8) :
    readIpv4Repr (header.bytes body.length ++ body) =
      some ⟨header.source, header.destination,
        .ofNumber header.protocol⟩ := by
  have version : (0x45 : UInt8).toNat / 16 = 4 := by decide
  rw [readIpv4Repr, header.byteAt_first, header.wordAt_fragment,
    header.octetsAt_source, header.octetsAt_destination,
    header.byteAt_protocol, version, if_neg (by simp)]

theorem readIpv6Packet_bytes (header : Ipv6Header) {body : List UInt8}
    (fits : body.length < 65536) :
    readIpv6Packet (header.bytes body.length ++ body) = some body := by
  simp only [readIpv6Packet, header.wordAt_length fits]
  rw [if_neg]
  · exact congrArg some (drop_take_bytes (header.length_bytes _) rfl)
  · rw [List.length_append, header.length_bytes]
    omega

theorem readIpv6Repr_bytes (header : Ipv6Header) (body : List UInt8) :
    readIpv6Repr (header.bytes body.length ++ body) =
      some ⟨header.source, header.destination,
        .ofNumber header.nextHeader⟩ := by
  rw [readIpv6Repr, header.byteAt_first, header.octetsAt_source,
    header.octetsAt_destination, header.byteAt_nextHeader, if_neg (by simp)]

theorem readUdpPacket_bytes (header : UdpHeader) {body : List UInt8}
    (fits : 8 + body.length < 65536) :
    readUdpPacket (header.bytes body.length ++ body) =
      some (⟨header.source, header.destination⟩, body) := by
  have ports : readPorts (header.bytes body.length ++ body) =
      ⟨header.source, header.destination⟩ := by
    rw [readPorts, header.wordAt_source, header.wordAt_destination,
      UInt16.ofNat_toNat, UInt16.ofNat_toNat]
  simp only [readUdpPacket, header.wordAt_length fits, ports]
  rw [if_neg, drop_take_bytes (header.length_bytes _) rfl]
  rw [List.length_append, header.length_bytes]
  omega

theorem wireViews_followsLayouts : wireViews.FollowsLayouts where
  ipv4 header body fits := by
    simp only [wireViews]
    exact ⟨readIpv4Packet_bytes header fits, readIpv4Repr_bytes header body⟩
  ipv6 header body fits := by
    simp only [wireViews]
    exact ⟨readIpv6Packet_bytes header fits, readIpv6Repr_bytes header body⟩
  udp header body fits := by
    simp only [wireViews]
    exact readUdpPacket_bytes header fits
  emitIpv4 repr ports payload _ :=
    ⟨ipv4Header repr (8 + payload.length),
      udpHeader repr.srcAddr.toList repr.dstAddr.toList ports payload,
      ⟨rfl, rfl, rfl⟩, ⟨rfl, rfl⟩, rfl⟩
  emitIpv6 repr ports payload _ :=
    ⟨ipv6Header repr,
      udpHeader repr.srcAddr.toList repr.dstAddr.toList ports payload,
      ⟨rfl, rfl, rfl⟩, ⟨rfl, rfl⟩, rfl⟩

end Velum.Tun
