import Velum.Tun.WireViews

/-!
# Responses that come back

A response is written with the addresses and ports of its flow exchanged, so
the classifier reads the exchanged flow from it.  The one difference between
the two ends is the port zero: a flow may come without a source port, and
nothing may be sent to a destination port of zero.
-/

namespace Velum.Tun

open Foundation Protocol

/-- A flow in the other direction. -/
def FlowKey.reversed (flow : FlowKey) : FlowKey :=
  { protocol := flow.protocol
    source := flow.destination
    destination := flow.source }

/-- The header of the family of an address. -/
def ipHeaderLen : IpAddr → Nat
  | .v4 _ => ipv4HeaderLen
  | .v6 _ => ipv6HeaderLen

namespace IpPacketViews

variable {views : IpPacketViews}

/-- A flow as the classifier makes it: both ends of one family, and no zone or
flow information on either. -/
inductive PlainFlow : FlowKey → Prop where
  | v4 (protocol : FlowProtocol) (source destination : List.Vector UInt8 4)
      (sourcePort destinationPort : UInt16) :
      PlainFlow ⟨protocol, .v4 source sourcePort,
        .v4 destination destinationPort⟩
  | v6 (protocol : FlowProtocol) (source destination : List.Vector UInt8 16)
      (sourcePort destinationPort : UInt16) :
      PlainFlow ⟨protocol, .v6 source sourcePort 0 0,
        .v6 destination destinationPort 0 0⟩

theorem plainFlow_of_classifyIpv4 {frame : List UInt8} {flow : FlowKey}
    (classified : views.classifyIpv4Packet frame = .ok flow) :
    PlainFlow flow := by
  unfold PacketViews.classifyIpv4Packet at classified
  split at classified
  · cases classified
  · split at classified
    · cases classified
    · split at classified
      · cases classified
      · split at classified
        · cases classified
        · cases classified
          exact .v4 _ _ _ _ _

theorem plainFlow_of_classifyIpv6 {frame : List UInt8} {flow : FlowKey}
    (classified : views.classifyIpv6Packet frame = .ok flow) :
    PlainFlow flow := by
  unfold classifyIpv6Packet at classified
  split at classified
  · cases classified
  · split at classified
    · cases classified
    · split at classified
      · cases classified
      · split at classified
        · cases classified
        · cases classified
          exact .v6 _ _ _ _ _

theorem plainFlow_of_classify {frame : List UInt8} {flow : FlowKey}
    (classified : views.classifyIpPacket frame = .ok flow) :
    PlainFlow flow := by
  unfold classifyIpPacket at classified
  split at classified
  · exact plainFlow_of_classifyIpv4 classified
  · exact plainFlow_of_classifyIpv6 classified
  · cases classified

/-- What the classifier makes of a response. -/
def readBack (flow : FlowKey) : Except PacketError FlowKey :=
  if flow.source.port = 0 then .error .malformedTransport
  else .ok flow.reversed

/-- What becomes of the payload of a response. -/
structure Responds (views : IpPacketViews) (flow : FlowKey)
    (payload : List UInt8) (mtu : Nat) : Prop where
  refused : views.encodeUdpResponse flow payload mtu = .error .mtuExceeded ↔
    mtu < ipHeaderLen flow.source.ip + udpHeaderLen + payload.length
  written : ipHeaderLen flow.source.ip + udpHeaderLen + payload.length ≤ mtu →
    ∃ response, views.encodeUdpResponse flow payload mtu = .ok response
  response : ∀ response,
    views.encodeUdpResponse flow payload mtu = .ok response →
    response.length ≤ mtu ∧
      views.carriedPayload response = some payload ∧
      views.classifyIpPacket response = readBack flow

/-- The three fields at once, from what the encoder computes. -/
theorem responds_of_encode {flow : FlowKey} {payload frame : List UInt8}
    {mtu : Nat}
    (encode : views.encodeUdpResponse flow payload mtu =
      if mtu < ipHeaderLen flow.source.ip + udpHeaderLen + payload.length
      then .error .mtuExceeded else .ok frame)
    (read : ipHeaderLen flow.source.ip + udpHeaderLen + payload.length ≤ mtu →
      frame.length ≤ mtu ∧ views.carriedPayload frame = some payload ∧
        views.classifyIpPacket frame = readBack flow) :
    Responds views flow payload mtu := by
  by_cases long :
      mtu < ipHeaderLen flow.source.ip + udpHeaderLen + payload.length
  · rw [if_pos long] at encode
    refine ⟨⟨fun _ => long, fun _ => encode⟩, ?_, ?_⟩
    · intro fits
      exact absurd long (Nat.not_lt.mpr fits)
    · intro response responded
      rw [encode] at responded
      cases responded
  · rw [if_neg long] at encode
    refine ⟨⟨?_, fun exceeded => absurd exceeded long⟩,
      fun _ => ⟨frame, encode⟩, ?_⟩
    · intro refused
      rw [encode] at refused
      cases refused
    · intro response responded
      rw [encode] at responded
      cases responded
      exact read (Nat.not_lt.mp long)

/-- A response of a classified flow is refused exactly when it exceeds the
MTU.  Otherwise it fits, carries the payload, and is classified as the flow in
the other direction where the flow has a source port. -/
theorem udp_response_returns (follows : views.FollowsLayouts)
    {frame : List UInt8} {flow : FlowKey}
    (classified : views.classifyIpPacket frame = .ok flow)
    (datagram : flow.protocol = .udp) (payload : List UInt8) {mtu : Nat}
    (bounded : mtu ≤ 65535) : Responds views flow payload mtu := by
  cases plainFlow_of_classify classified with
  | v4 protocol source destination sourcePort destinationPort =>
      cases datagram
      apply responds_of_encode rfl
      intro fits
      dsimp only [SocketAddr.ip, ipHeaderLen, ipv4HeaderLen,
        udpHeaderLen] at fits
      obtain ⟨header, udp, network, transport, emitted⟩ :=
        follows.emitIpv4 ⟨destination, source, .udp⟩
          ⟨destinationPort, sourcePort⟩ payload (by omega)
      obtain ⟨read, carried⟩ := follows.ipv4Datagram_read udp payload
        header network.protocol (by omega)
      have length := length_ipv4Datagram udp payload header
      simp only [SocketAddr.port]
      rw [emitted]
      refine ⟨?_, carried, ?_⟩
      · rw [length, ipv4HeaderLen, udpHeaderLen]
        exact fits
      · rw [read, network.source, network.destination, transport.source,
          transport.destination]
        rfl
  | v6 protocol source destination sourcePort destinationPort =>
      cases datagram
      apply responds_of_encode rfl
      intro fits
      dsimp only [SocketAddr.ip, ipHeaderLen, ipv6HeaderLen,
        udpHeaderLen] at fits
      obtain ⟨header, udp, network, transport, emitted⟩ :=
        follows.emitIpv6 ⟨destination, source, .udp⟩
          ⟨destinationPort, sourcePort⟩ payload (by omega)
      obtain ⟨read, carried⟩ := follows.ipv6Datagram_read udp payload
        header network.nextHeader (by omega)
      have length := length_ipv6Datagram udp payload header
      simp only [SocketAddr.port]
      rw [emitted]
      refine ⟨?_, carried, ?_⟩
      · rw [length, ipv6HeaderLen, udpHeaderLen]
        exact fits
      · rw [read, network.source, network.destination, transport.source,
          transport.destination]
        rfl

/-! ## A query and its answer -/

def queryRepr : IpRepr 4 :=
  ⟨10 ::ᵥ 8 ::ᵥ 0 ::ᵥ 2 ::ᵥ .nil, 192 ::ᵥ 0 ::ᵥ 2 ::ᵥ 10 ::ᵥ .nil, .udp⟩

/-- A query of four bytes to a name server. -/
def queryFrame (sourcePort : UInt16) : List UInt8 :=
  wireViews.emitUdpIpv4 queryRepr ⟨sourcePort, 53⟩ [1, 2, 3, 4]

def queryFlow (sourcePort : UInt16) : FlowKey :=
  ⟨.udp, .v4 queryRepr.srcAddr sourcePort, .v4 queryRepr.dstAddr 53⟩

theorem classify_queryFrame (sourcePort : UInt16) :
    wireViews.classifyIpPacket (queryFrame sourcePort) =
      .ok (queryFlow sourcePort) := by
  have read := wireViews_followsLayouts.ipv4Datagram_read
    (udpHeader queryRepr.srcAddr.toList queryRepr.dstAddr.toList
      ⟨sourcePort, 53⟩ [1, 2, 3, 4]) [1, 2, 3, 4] (ipv4Header queryRepr 12)
    rfl (by decide)
  exact read.1

theorem udp_response_returns_query :
    ∃ response,
      wireViews.encodeUdpResponse (queryFlow 50000) [5, 6, 7] 1280 =
        .ok response ∧ response.length ≤ 1280 ∧
      wireViews.classifyIpPacket response =
        .ok (queryFlow 50000).reversed := by
  have responds : Responds wireViews (queryFlow 50000) [5, 6, 7] 1280 :=
    udp_response_returns wireViews_followsLayouts (classify_queryFrame 50000)
      rfl [5, 6, 7] (by decide)
  obtain ⟨response, written⟩ := responds.written (by decide)
  obtain ⟨length, _, read⟩ := responds.response response written
  refine ⟨response, written, length, ?_⟩
  rw [read]
  rfl

/-- A flow without a source port is accepted, and its response is not. -/
theorem response_without_port_refused :
    wireViews.FollowsLayouts ∧
      wireViews.classifyIpPacket (queryFrame 0) = .ok (queryFlow 0) ∧
      (queryFlow 0).protocol = .udp ∧
      ∃ response,
        wireViews.encodeUdpResponse (queryFlow 0) [5, 6, 7] 1280 =
          .ok response ∧
        wireViews.classifyIpPacket response = .error .malformedTransport := by
  refine ⟨wireViews_followsLayouts, classify_queryFrame 0, rfl, _, rfl, ?_⟩
  have read := wireViews_followsLayouts.ipv4Datagram_read
    (udpHeader queryRepr.dstAddr.toList queryRepr.srcAddr.toList ⟨53, 0⟩
      [5, 6, 7]) [5, 6, 7]
    (ipv4Header ⟨queryRepr.dstAddr, queryRepr.srcAddr, .udp⟩ 11) rfl
    (by decide)
  exact read.1

end IpPacketViews

end Velum.Tun
