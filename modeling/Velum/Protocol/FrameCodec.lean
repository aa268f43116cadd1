import Velum.Protocol.Frame

/-!
# The frame codec is canonical

Each field reader accepts exactly the bytes its writer emits.  Composing these
laws along every frame body gives one equivalence for the whole codec: a byte
string decodes to a frame exactly when that frame encodes to it, passes the
checks of its constructors, and fits the configured maximum.
-/

namespace Velum.Protocol

open Foundation
open ByteReader (Reads)

/-! ## Field laws -/

namespace FrameReader

theorem reads_array (count : Nat) :
    Reads (array count) (fun bytes => bytes.toList) :=
  ByteReader.reads_take _ count

theorem reads_u16 : Reads u16 wordBytes16 :=
  ByteReader.reads_word16 _

theorem reads_u64 : Reads u64 wordBytes64 :=
  ByteReader.reads_word64 _

theorem reads_capabilities : Reads capabilities capabilitiesBytes :=
  reads_u64.map Capabilities.mk Capabilities.bits (fun _ => rfl)
    (fun _ => rfl)

theorem reads_flowId : Reads flowId flowIdBytes :=
  reads_u64.map FlowId.mk FlowId.value (fun _ => rfl) (fun _ => rfl)

theorem reads_epoch : Reads epoch epochBytes :=
  reads_u64.map Epoch.mk Epoch.value (fun _ => rfl) (fun _ => rfl)

theorem reads_sequence : Reads sequence sequenceBytes :=
  reads_u64.map Sequence.mk Sequence.value (fun _ => rfl) (fun _ => rfl)

theorem reads_sessionId :
    Reads sessionId (fun session => session.bytes.toList) :=
  (reads_array 16).map SessionId.mk SessionId.bytes (fun _ => rfl)
    (fun _ => rfl)

theorem reads_nonce : Reads nonce (fun nonce => nonce.bytes.toList) :=
  (reads_array 16).checked HandshakeNonce.new_eq_ok_iff

theorem reads_attachmentId :
    Reads attachmentId (fun attachment => attachment.bytes.toList) :=
  (reads_array 16).checked AttachmentId.new_eq_ok_iff

theorem reads_parameters :
    Reads parameters NegotiatedParameters.canonicalBytes := by
  intro input value rest
  simp only [parameters, reads_u16.bind_iff, reads_capabilities.bind_iff,
    reads_nonce.bind_iff, ByteReader.run_pure_eq_ok_iff]
  constructor
  · intro decoded
    obtain ⟨version, _, rfl, enabled, _, rfl, client, _, rfl, server, _, rfl,
      rfl, rfl⟩ := decoded
    simp [NegotiatedParameters.canonicalBytes, capabilitiesBytes]
  · intro written
    refine ⟨value.version, _, ?_, value.capabilities, _, rfl,
      value.clientNonce, _, rfl, value.serverNonce, _, rfl, rfl, rfl⟩
    simpa [NegotiatedParameters.canonicalBytes, capabilitiesBytes]
      using written

/-- A range is read exactly when its bounds are ordered. -/
theorem versionRange_eq_ok_iff {input rest : List UInt8}
    {range : VersionRange} :
    versionRange.run input = .ok (range, rest) ↔
      input = versionRangeBytes range ++ rest ∧ range.isValid = true := by
  simp only [versionRange, reads_u16.bind_iff]
  constructor
  · intro decoded
    obtain ⟨minimum, _, rfl, maximum, _, rfl, made⟩ := decoded
    cases checked : VersionRange.new minimum maximum with
    | error failure =>
        rw [checked] at made
        exact (ByteReader.run_throw_ne_ok made).elim
    | ok found =>
        rw [checked] at made
        obtain ⟨rfl, rfl⟩ := ByteReader.run_pure_eq_ok_iff.mp made
        obtain ⟨rfl, valid⟩ := VersionRange.new_eq_ok_iff.mp checked
        exact ⟨by simp [versionRangeBytes], valid⟩
  · intro encoded
    obtain ⟨rfl, valid⟩ := encoded
    refine ⟨range.minimum, _, ?_, range.maximum, rest, rfl, ?_⟩
    · simp [versionRangeBytes]
    · rw [VersionRange.new_eq_ok_iff.mpr ⟨rfl, valid⟩]
      exact ByteReader.run_pure_eq_ok_iff.mpr ⟨rfl, rfl⟩

end FrameReader

/-- The code is the one its wire value stands for.  `unknown` of a registered
value is the only way to violate this. -/
def ProtocolErrorCode.FromWire (code : ProtocolErrorCode) : Prop :=
  ∃ value, code = .fromU16 value

namespace FrameReader

theorem error_eq_ok_iff {input rest : List UInt8}
    {code : ProtocolErrorCode} :
    error.run input = .ok (code, rest) ↔
      input = errorBytes code ++ rest ∧ code.FromWire := by
  simp only [error, reads_u16.bind_iff, ByteReader.run_pure_eq_ok_iff]
  constructor
  · intro decoded
    obtain ⟨value, _, rfl, rfl, rfl⟩ := decoded
    refine ⟨?_, value, rfl⟩
    rw [errorBytes, ProtocolErrorCode.asU16_fromU16]
  · intro encoded
    obtain ⟨rfl, value, rfl⟩ := encoded
    exact ⟨value, rest, by rw [errorBytes, ProtocolErrorCode.asU16_fromU16],
      rfl, rfl⟩

end FrameReader

namespace Frame

/-- The frame was built through the checked constructors.  Nonces and
attachment identifiers carry their check in their type. -/
def Checked : Frame → Prop
  | .negotiationOffer offer => offer.Valid
  | .streamReset _ code => code.FromWire
  | .connectionClose code => code.FromWire
  | _ => True

end Frame

/-! ## Frame bodies -/

namespace FrameReader

theorem negotiationOfferBody_eq_ok_iff {payload rest : List UInt8}
    {frame : Frame} :
    negotiationOfferBody.run payload = .ok (frame, rest) ↔
      ∃ offer, frame = .negotiationOffer offer ∧ offer.Valid ∧
        payload = versionRangeBytes offer.versions ++
          capabilitiesBytes offer.capabilities.required ++
          capabilitiesBytes offer.capabilities.optional ++
          offer.clientNonce.bytes.toList ++ rest := by
  simp only [negotiationOfferBody, ByteReader.run_bind_eq_ok_iff,
    versionRange_eq_ok_iff, reads_capabilities _ _ _, reads_nonce _ _ _]
  constructor
  · intro decoded
    obtain ⟨versions, _, ⟨rfl, _⟩, required, _, rfl, optional, _, rfl,
      client, _, rfl, made⟩ := decoded
    split at made
    · exact (ByteReader.run_throw_ne_ok made).elim
    · rename_i advertised advertisedEq
      split at made
      · exact (ByteReader.run_throw_ne_ok made).elim
      · rename_i offer offerEq
        obtain ⟨rfl, rfl⟩ := ByteReader.run_pure_eq_ok_iff.mp made
        obtain ⟨rfl, valid⟩ := NegotiationOffer.new_eq_ok_iff.mp offerEq
        have bits : advertised = ⟨required, optional⟩ :=
          CapabilityAdvertisement.eq_of_new advertisedEq
        subst bits
        exact ⟨_, rfl, valid, by simp⟩
  · intro encoded
    obtain ⟨offer, rfl, valid, rfl⟩ := encoded
    refine ⟨offer.versions, _, ⟨?_, valid.1⟩, offer.capabilities.required, _,
      rfl, offer.capabilities.optional, _, rfl, offer.clientNonce, rest, rfl,
      ?_⟩
    · simp
    · have advertised : CapabilityAdvertisement.new
          offer.capabilities.required offer.capabilities.optional =
            .ok offer.capabilities :=
        CapabilityAdvertisement.new_of_disjoint valid.2.1
      have made : NegotiationOffer.new offer.versions offer.capabilities
          offer.clientNonce = .ok offer :=
        NegotiationOffer.new_eq_ok_iff.mpr ⟨rfl, valid⟩
      rw [advertised]
      simp only [made]
      exact ByteReader.run_pure_eq_ok_iff.mpr ⟨rfl, rfl⟩

theorem negotiationAcceptBody_eq_ok_iff {payload rest : List UInt8}
    {frame : Frame} :
    negotiationAcceptBody.run payload = .ok (frame, rest) ↔
      ∃ accepted, frame = .negotiationAccept accepted ∧
        payload = accepted.canonicalBytes ++ rest := by
  simp only [negotiationAcceptBody, reads_parameters.bind_iff,
    ByteReader.run_pure_eq_ok_iff]
  constructor
  · intro decoded
    obtain ⟨accepted, _, rfl, rfl, rfl⟩ := decoded
    exact ⟨accepted, rfl, rfl⟩
  · intro encoded
    obtain ⟨accepted, rfl, rfl⟩ := encoded
    exact ⟨accepted, rest, rfl, rfl, rfl⟩

theorem attachBody_eq_ok_iff {payload rest : List UInt8} {frame : Frame} :
    attachBody.run payload = .ok (frame, rest) ↔
      ∃ session stated attachment negotiated proof,
        frame = .attach session stated attachment negotiated proof ∧
        payload = session.bytes.toList ++ epochBytes stated ++
          attachment.bytes.toList ++ negotiated.canonicalBytes ++
          proof.toList ++ rest := by
  simp only [attachBody, reads_sessionId.bind_iff, reads_epoch.bind_iff,
    reads_attachmentId.bind_iff, reads_parameters.bind_iff,
    (reads_array 32).bind_iff, ByteReader.run_pure_eq_ok_iff]
  constructor
  · intro decoded
    obtain ⟨session, _, rfl, stated, _, rfl, attachment, _, rfl, negotiated,
      _, rfl, proof, _, rfl, rfl, rfl⟩ := decoded
    exact ⟨session, stated, attachment, negotiated, proof, rfl, by simp⟩
  · intro encoded
    obtain ⟨session, stated, attachment, negotiated, proof, rfl, rfl⟩ :=
      encoded
    exact ⟨session, _, by simp, stated, _, rfl, attachment, _, rfl,
      negotiated, _, rfl, proof, _, rfl, rfl, rfl⟩

theorem attachAcceptedBody_eq_ok_iff {payload rest : List UInt8}
    {frame : Frame} :
    attachAcceptedBody.run payload = .ok (frame, rest) ↔
      ∃ session stated attachment,
        frame = .attachAccepted session stated attachment ∧
        payload = session.bytes.toList ++ epochBytes stated ++
          attachment.bytes.toList ++ rest := by
  simp only [attachAcceptedBody, reads_sessionId.bind_iff,
    reads_epoch.bind_iff, reads_attachmentId.bind_iff,
    ByteReader.run_pure_eq_ok_iff]
  constructor
  · intro decoded
    obtain ⟨session, _, rfl, stated, _, rfl, attachment, _, rfl, rfl, rfl⟩ :=
      decoded
    exact ⟨session, stated, attachment, rfl, by simp⟩
  · intro encoded
    obtain ⟨session, stated, attachment, rfl, rfl⟩ := encoded
    exact ⟨session, _, by simp, stated, _, rfl, attachment, _, rfl, rfl, rfl⟩

theorem streamOpenBody_eq_ok_iff {payload rest : List UInt8}
    {frame : Frame} :
    streamOpenBody.run payload = .ok (frame, rest) ↔
      ∃ flow, frame = .streamOpen flow ∧
        payload = flowIdBytes flow ++ rest := by
  simp only [streamOpenBody, reads_flowId.bind_iff,
    ByteReader.run_pure_eq_ok_iff]
  constructor
  · intro decoded
    obtain ⟨flow, _, rfl, rfl, rfl⟩ := decoded
    exact ⟨flow, rfl, rfl⟩
  · intro encoded
    obtain ⟨flow, rfl, rfl⟩ := encoded
    exact ⟨flow, rest, rfl, rfl, rfl⟩

theorem streamDataBody_eq_ok_iff {payload rest : List UInt8}
    {frame : Frame} :
    streamDataBody.run payload = .ok (frame, rest) ↔
      ∃ flow stated position bytes,
        frame = .streamData flow stated position bytes ∧ bytes ≠ [] ∧
        rest = [] ∧
        payload = flowIdBytes flow ++ epochBytes stated ++
          sequenceBytes position ++ bytes := by
  simp only [streamDataBody, reads_flowId.bind_iff, reads_epoch.bind_iff,
    reads_sequence.bind_iff, ByteReader.run_bind_eq_ok_iff,
    ByteReader.run_takeRemaining_eq_ok_iff]
  constructor
  · intro decoded
    obtain ⟨flow, _, rfl, stated, _, rfl, position, _, rfl, bytes, _, ⟨rfl,
      rfl⟩, made⟩ := decoded
    split at made
    · exact (ByteReader.run_throw_ne_ok made).elim
    · rename_i nonempty
      obtain ⟨rfl, rfl⟩ := ByteReader.run_pure_eq_ok_iff.mp made
      exact ⟨flow, stated, position, bytes, rfl, by simpa using nonempty,
        rfl, by simp⟩
  · intro encoded
    obtain ⟨flow, stated, position, bytes, rfl, nonempty, rfl, rfl⟩ := encoded
    refine ⟨flow, _, by simp, stated, _, rfl, position, _, rfl, bytes, [],
      ⟨rfl, rfl⟩, ?_⟩
    rw [if_neg (by simpa using nonempty)]
    exact ByteReader.run_pure_eq_ok_iff.mpr ⟨rfl, rfl⟩

theorem streamAcknowledgementBody_eq_ok_iff {payload rest : List UInt8}
    {frame : Frame} :
    streamAcknowledgementBody.run payload = .ok (frame, rest) ↔
      ∃ flow stated through,
        frame = .streamAcknowledgement flow stated through ∧
        payload = flowIdBytes flow ++ epochBytes stated ++
          sequenceBytes through ++ rest := by
  simp only [streamAcknowledgementBody, reads_flowId.bind_iff,
    reads_epoch.bind_iff, reads_sequence.bind_iff,
    ByteReader.run_pure_eq_ok_iff]
  constructor
  · intro decoded
    obtain ⟨flow, _, rfl, stated, _, rfl, through, _, rfl, rfl, rfl⟩ := decoded
    exact ⟨flow, stated, through, rfl, by simp⟩
  · intro encoded
    obtain ⟨flow, stated, through, rfl, rfl⟩ := encoded
    exact ⟨flow, _, by simp, stated, _, rfl, through, _, rfl, rfl, rfl⟩

theorem streamFinishBody_eq_ok_iff {payload rest : List UInt8}
    {frame : Frame} :
    streamFinishBody.run payload = .ok (frame, rest) ↔
      ∃ flow stated finalNext,
        frame = .streamFinish flow stated finalNext ∧
        payload = flowIdBytes flow ++ epochBytes stated ++
          sequenceBytes finalNext ++ rest := by
  simp only [streamFinishBody, reads_flowId.bind_iff, reads_epoch.bind_iff,
    reads_sequence.bind_iff, ByteReader.run_pure_eq_ok_iff]
  constructor
  · intro decoded
    obtain ⟨flow, _, rfl, stated, _, rfl, finalNext, _, rfl, rfl, rfl⟩ :=
      decoded
    exact ⟨flow, stated, finalNext, rfl, by simp⟩
  · intro encoded
    obtain ⟨flow, stated, finalNext, rfl, rfl⟩ := encoded
    exact ⟨flow, _, by simp, stated, _, rfl, finalNext, _, rfl, rfl, rfl⟩

theorem streamResetBody_eq_ok_iff {payload rest : List UInt8}
    {frame : Frame} :
    streamResetBody.run payload = .ok (frame, rest) ↔
      ∃ flow code, frame = .streamReset flow code ∧ code.FromWire ∧
        payload = flowIdBytes flow ++ errorBytes code ++ rest := by
  simp only [streamResetBody, reads_flowId.bind_iff,
    ByteReader.run_bind_eq_ok_iff, error_eq_ok_iff,
    ByteReader.run_pure_eq_ok_iff]
  constructor
  · intro decoded
    obtain ⟨flow, _, rfl, code, _, ⟨rfl, registered⟩, rfl, rfl⟩ := decoded
    exact ⟨flow, code, rfl, registered, by simp⟩
  · intro encoded
    obtain ⟨flow, code, rfl, registered, rfl⟩ := encoded
    exact ⟨flow, _, by simp, code, _, ⟨rfl, registered⟩, rfl, rfl⟩

theorem connectionCloseBody_eq_ok_iff {payload rest : List UInt8}
    {frame : Frame} :
    connectionCloseBody.run payload = .ok (frame, rest) ↔
      ∃ code, frame = .connectionClose code ∧ code.FromWire ∧
        payload = errorBytes code ++ rest := by
  simp only [connectionCloseBody, ByteReader.run_bind_eq_ok_iff,
    error_eq_ok_iff, ByteReader.run_pure_eq_ok_iff]
  constructor
  · intro decoded
    obtain ⟨code, _, ⟨rfl, registered⟩, rfl, rfl⟩ := decoded
    exact ⟨code, rfl, registered, rfl⟩
  · intro encoded
    obtain ⟨code, rfl, registered, rfl⟩ := encoded
    exact ⟨code, rest, ⟨rfl, registered⟩, rfl, rfl⟩

theorem unknownOptionalBody_eq_ok_iff {frameType : UInt8}
    {payload rest : List UInt8} {frame : Frame} :
    (unknownOptionalBody frameType).run payload = .ok (frame, rest) ↔
      frame = .unknownOptional frameType payload ∧ rest = [] := by
  simp only [unknownOptionalBody, ByteReader.run_bind_eq_ok_iff,
    ByteReader.run_takeRemaining_eq_ok_iff, ByteReader.run_pure_eq_ok_iff]
  constructor
  · intro decoded
    obtain ⟨bytes, _, ⟨rfl, rfl⟩, rfl, rfl⟩ := decoded
    exact ⟨rfl, rfl⟩
  · intro encoded
    obtain ⟨rfl, rfl⟩ := encoded
    exact ⟨payload, [], ⟨rfl, rfl⟩, rfl, rfl⟩

end FrameReader

/-! ## Whole frames -/

namespace Frame

open FrameReader

theorem decodePayload_eq_ok_iff_run {frameType : UInt8}
    {payload : List UInt8} {frame : Frame} :
    decodePayload frameType payload = .ok frame ↔
      (FrameReader.body frameType).run payload = .ok (frame, []) := by
  unfold decodePayload
  cases outcome : (FrameReader.body frameType).run payload with
  | error failure => simp
  | ok pair =>
      obtain ⟨found, remaining⟩ := pair
      cases remaining with
      | nil => simp
      | cons byte bytes => simp

/-- What a body reader accepts is what the encoder emits for that type. -/
theorem encodePayload_of_body {frameType : UInt8} {payload : List UInt8}
    {frame : Frame}
    (decoded : (FrameReader.body frameType).run payload = .ok (frame, [])) :
    frame.encodePayload = .ok (frameType, payload) ∧ frame.Checked := by
  unfold FrameReader.body at decoded
  by_cases kind : frameType = FrameType.negotiationOffer
  · rw [if_pos kind] at decoded
    obtain ⟨offer, rfl, valid, rfl⟩ :=
      negotiationOfferBody_eq_ok_iff.mp decoded
    exact ⟨by simp [encodePayload, kind], valid⟩
  rw [if_neg kind] at decoded
  by_cases kind : frameType = FrameType.negotiationAccept
  · rw [if_pos kind] at decoded
    obtain ⟨accepted, rfl, rfl⟩ := negotiationAcceptBody_eq_ok_iff.mp decoded
    exact ⟨by simp [encodePayload, kind], trivial⟩
  rw [if_neg kind] at decoded
  by_cases kind : frameType = FrameType.attach
  · rw [if_pos kind] at decoded
    obtain ⟨session, stated, attachment, negotiated, proof, rfl, rfl⟩ :=
      attachBody_eq_ok_iff.mp decoded
    exact ⟨by simp [encodePayload, kind], trivial⟩
  rw [if_neg kind] at decoded
  by_cases kind : frameType = FrameType.attachAccepted
  · rw [if_pos kind] at decoded
    obtain ⟨session, stated, attachment, rfl, rfl⟩ :=
      attachAcceptedBody_eq_ok_iff.mp decoded
    exact ⟨by simp [encodePayload, kind], trivial⟩
  rw [if_neg kind] at decoded
  by_cases kind : frameType = FrameType.streamOpen
  · rw [if_pos kind] at decoded
    obtain ⟨flow, rfl, rfl⟩ := streamOpenBody_eq_ok_iff.mp decoded
    exact ⟨by simp [encodePayload, kind], trivial⟩
  rw [if_neg kind] at decoded
  by_cases kind : frameType = FrameType.streamData
  · rw [if_pos kind] at decoded
    obtain ⟨flow, stated, position, bytes, rfl, nonempty, _, rfl⟩ :=
      streamDataBody_eq_ok_iff.mp decoded
    exact ⟨by simp [encodePayload, kind, nonempty], trivial⟩
  rw [if_neg kind] at decoded
  by_cases kind : frameType = FrameType.streamAck
  · rw [if_pos kind] at decoded
    obtain ⟨flow, stated, through, rfl, rfl⟩ :=
      streamAcknowledgementBody_eq_ok_iff.mp decoded
    exact ⟨by simp [encodePayload, kind], trivial⟩
  rw [if_neg kind] at decoded
  by_cases kind : frameType = FrameType.streamFinish
  · rw [if_pos kind] at decoded
    obtain ⟨flow, stated, finalNext, rfl, rfl⟩ :=
      streamFinishBody_eq_ok_iff.mp decoded
    exact ⟨by simp [encodePayload, kind], trivial⟩
  rw [if_neg kind] at decoded
  by_cases kind : frameType = FrameType.streamReset
  · rw [if_pos kind] at decoded
    obtain ⟨flow, code, rfl, registered, rfl⟩ :=
      streamResetBody_eq_ok_iff.mp decoded
    exact ⟨by simp [encodePayload, kind], registered⟩
  rw [if_neg kind] at decoded
  by_cases kind : frameType = FrameType.connectionClose
  · rw [if_pos kind] at decoded
    obtain ⟨code, rfl, registered, rfl⟩ :=
      connectionCloseBody_eq_ok_iff.mp decoded
    exact ⟨by simp [encodePayload, kind], registered⟩
  rw [if_neg kind] at decoded
  by_cases optionalBit : frameType &&& FrameType.optionalFrameBit ≠ 0
  · rw [if_pos optionalBit] at decoded
    obtain ⟨rfl, _⟩ := unknownOptionalBody_eq_ok_iff.mp decoded
    exact ⟨by rw [encodePayload, if_neg optionalBit], trivial⟩
  · rw [if_neg optionalBit] at decoded
    exact (ByteReader.run_throw_ne_ok decoded).elim

theorem ne_of_optional {frameType assigned : UInt8}
    (optionalBit : ¬frameType &&& FrameType.optionalFrameBit = 0)
    (mandatory : assigned &&& FrameType.optionalFrameBit = 0) :
    frameType ≠ assigned := by
  intro same
  subst same
  exact optionalBit mandatory

/-- An optional type is none of the assigned types, so its body is opaque. -/
theorem body_of_optional {frameType : UInt8}
    (optionalBit : ¬frameType &&& FrameType.optionalFrameBit = 0) :
    FrameReader.body frameType = unknownOptionalBody frameType := by
  unfold FrameReader.body
  iterate 10 rw [if_neg (ne_of_optional optionalBit (by decide))]
  rw [if_pos optionalBit]

/-- The encoder's payload of a checked frame is accepted under its type. -/
theorem body_of_encodePayload {frameType : UInt8} {payload : List UInt8}
    {frame : Frame} (checked : frame.Checked)
    (encoded : frame.encodePayload = .ok (frameType, payload)) :
    (FrameReader.body frameType).run payload = .ok (frame, []) := by
  cases frame with
  | negotiationOffer offer =>
      cases encoded
      exact negotiationOfferBody_eq_ok_iff.mpr
        ⟨offer, rfl, checked, by simp⟩
  | negotiationAccept accepted =>
      cases encoded
      exact negotiationAcceptBody_eq_ok_iff.mpr ⟨accepted, rfl, by simp⟩
  | attach session stated attachment negotiated proof =>
      cases encoded
      exact attachBody_eq_ok_iff.mpr
        ⟨session, stated, attachment, negotiated, proof, rfl, by simp⟩
  | attachAccepted session stated attachment =>
      cases encoded
      exact attachAcceptedBody_eq_ok_iff.mpr
        ⟨session, stated, attachment, rfl, by simp⟩
  | streamOpen flow =>
      cases encoded
      exact streamOpenBody_eq_ok_iff.mpr ⟨flow, rfl, by simp⟩
  | streamData flow stated position bytes =>
      simp only [encodePayload] at encoded
      split at encoded
      · cases encoded
      · rename_i nonempty
        cases encoded
        exact streamDataBody_eq_ok_iff.mpr
          ⟨flow, stated, position, bytes, rfl, by simpa using nonempty, rfl,
            rfl⟩
  | streamAcknowledgement flow stated through =>
      cases encoded
      exact streamAcknowledgementBody_eq_ok_iff.mpr
        ⟨flow, stated, through, rfl, by simp⟩
  | streamFinish flow stated finalNext =>
      cases encoded
      exact streamFinishBody_eq_ok_iff.mpr
        ⟨flow, stated, finalNext, rfl, by simp⟩
  | streamReset flow code =>
      cases encoded
      exact streamResetBody_eq_ok_iff.mpr
        ⟨flow, code, rfl, checked, by simp⟩
  | connectionClose code =>
      cases encoded
      exact connectionCloseBody_eq_ok_iff.mpr ⟨code, rfl, checked, by simp⟩
  | unknownOptional kind bytes =>
      simp only [encodePayload] at encoded
      split at encoded
      · cases encoded
      · rename_i optionalBit
        cases encoded
        rw [body_of_optional optionalBit]
        exact unknownOptionalBody_eq_ok_iff.mpr ⟨rfl, rfl⟩

theorem decodePayload_eq_ok_iff {frameType : UInt8} {payload : List UInt8}
    {frame : Frame} :
    decodePayload frameType payload = .ok frame ↔
      frame.encodePayload = .ok (frameType, payload) ∧ frame.Checked := by
  rw [decodePayload_eq_ok_iff_run]
  constructor
  · exact encodePayload_of_body
  · intro encoded
    exact body_of_encodePayload encoded.2 encoded.1

theorem encode_eq_ok_iff {frame : Frame} {bytes : List UInt8} :
    frame.encode = .ok bytes ↔
      ∃ frameType payload,
        frame.encodePayload = .ok (frameType, payload) ∧
        payload.length ≤ maxFramePayload ∧
        bytes = frameType :: 0 ::
          (wordBytes16 (UInt16.ofNat payload.length) ++ payload) := by
  unfold encode
  cases outcome : frame.encodePayload with
  | error failure => simp
  | ok pair =>
      obtain ⟨frameType, payload⟩ := pair
      by_cases large : payload.length > maxFramePayload
      · have tooLong : ¬payload.length ≤ maxFramePayload := by omega
        simp only [if_pos large, reduceCtorEq, Except.ok.injEq,
          Prod.mk.injEq, false_iff, not_exists]
        intro otherType otherPayload claimed
        obtain ⟨⟨_, rfl⟩, fits, _⟩ := claimed
        exact tooLong fits
      · have fits : payload.length ≤ maxFramePayload := by omega
        simp only [if_neg large, Except.ok.injEq, Prod.mk.injEq]
        constructor
        · intro same
          exact ⟨frameType, payload, ⟨rfl, rfl⟩, fits, same.symm⟩
        · intro found
          obtain ⟨_, _, ⟨rfl, rfl⟩, _, rfl⟩ := found
          rfl

theorem encode_length_le {frame : Frame} {bytes : List UInt8}
    (encoded : frame.encode = .ok bytes) :
    bytes.length ≤ frameHeaderBytes + maxFramePayload := by
  obtain ⟨frameType, payload, _, fits, rfl⟩ := encode_eq_ok_iff.mp encoded
  simp only [List.length_cons, List.length_append, length_wordBytes16,
    frameHeaderBytes]
  omega

/-- The two length bytes of a header are the length they announce. -/
theorem lengthBytes_eq_iff {high low : UInt8} {length : Nat}
    (fits : length ≤ maxFramePayload) :
    wordBytes16 (UInt16.ofNat length) = [high, low] ↔
      length = (word16 [high, low]).toNat := by
  have small : length < 2 ^ 16 := by
    unfold maxFramePayload at fits
    omega
  constructor
  · intro written
    rw [← written, word16_wordBytes16, UInt16.toNat_ofNat',
      Nat.mod_eq_of_lt small]
  · intro announced
    rw [announced, UInt16.ofNat_toNat]
    exact wordBytes16_word16 rfl

/-- The codec in one equivalence: exactly the encodings of checked frames
within the configured maximum decode, each to its own frame. -/
theorem decodeExact_eq_ok_iff {bytes : List UInt8} {maximum : Nat}
    {frame : Frame} :
    decodeExact bytes maximum = .ok frame ↔
      frame.encode = .ok bytes ∧ frame.Checked ∧
        bytes.length ≤ frameHeaderBytes + maximum := by
  rw [encode_eq_ok_iff]
  constructor
  · intro decoded
    unfold decodeExact at decoded
    split at decoded
    · rename_i frameType reserved high low payload
      have announcedFits : (word16 [high, low]).toNat ≤ maxFramePayload :=
        Nat.le_of_lt_succ (word16 [high, low]).toNat_lt
      simp only at decoded
      split at decoded
      · cases decoded
      split at decoded
      · cases decoded
      split at decoded
      · cases decoded
      rename_i withinMaximum exactLength reservedZero
      have length : payload.length = (word16 [high, low]).toNat :=
        not_not.mp exactLength
      have fits : payload.length ≤ maxFramePayload := by omega
      obtain ⟨encoded, checked⟩ := decodePayload_eq_ok_iff.mp decoded
      refine ⟨⟨frameType, payload, encoded, fits, ?_⟩, checked, ?_⟩
      · rw [(lengthBytes_eq_iff fits).mpr length, not_not.mp reservedZero]
        rfl
      · simp only [List.length_cons, frameHeaderBytes]
        omega
    · cases decoded
  · intro encodes
    obtain ⟨⟨frameType, payload, encoded, fits, rfl⟩, checked, bounded⟩ :=
      encodes
    obtain ⟨high, low, lengthBytes⟩ : ∃ high low,
        wordBytes16 (UInt16.ofNat payload.length) = [high, low] :=
      List.length_eq_two.mp (length_wordBytes16 _)
    have announced := (lengthBytes_eq_iff fits).mp lengthBytes
    have withinMaximum : ¬(word16 [high, low]).toNat > maximum := by
      simp [frameHeaderBytes] at bounded
      omega
    rw [lengthBytes]
    simp only [decodeExact, List.cons_append, List.nil_append]
    rw [if_neg withinMaximum, if_neg (not_not.mpr announced),
      if_neg (not_not.mpr rfl)]
    exact decodePayload_eq_ok_iff.mpr ⟨encoded, checked⟩

/-- Payload length of the assigned types without a variable field. -/
def fixedPayloadLength (frameType : UInt8) : Option Nat :=
  if frameType = FrameType.negotiationOffer then some 36
  else if frameType = FrameType.negotiationAccept then some 42
  else if frameType = FrameType.attach then some 114
  else if frameType = FrameType.attachAccepted then some 40
  else if frameType = FrameType.streamOpen then some 8
  else if frameType = FrameType.streamAck then some 24
  else if frameType = FrameType.streamFinish then some 24
  else if frameType = FrameType.streamReset then some 10
  else if frameType = FrameType.connectionClose then some 2
  else none

theorem not_optional_of_fixed {frameType : UInt8} {length : Nat}
    (fixed : fixedPayloadLength frameType = some length) :
    frameType &&& FrameType.optionalFrameBit = 0 := by
  unfold fixedPayloadLength at fixed
  by_contra optionalBit
  iterate 9 rw [if_neg (ne_of_optional optionalBit (by decide))] at fixed
  cases fixed

theorem length_of_fixed {frameType : UInt8} {payload : List UInt8}
    {length : Nat} {frame : Frame}
    (encoded : frame.encodePayload = .ok (frameType, payload))
    (fixed : fixedPayloadLength frameType = some length) :
    payload.length = length := by
  cases frame with
  | streamData flow stated position bytes =>
      simp only [encodePayload] at encoded
      split at encoded
      · cases encoded
      · cases encoded
        cases fixed
  | unknownOptional kind bytes =>
      have mandatory := not_optional_of_fixed fixed
      simp only [encodePayload] at encoded
      split at encoded
      · cases encoded
      · rename_i optionalBit
        cases encoded
        exact absurd mandatory optionalBit
  | _ =>
      cases encoded
      obtain rfl := Option.some.inj fixed
      simp [versionRangeBytes, capabilitiesBytes, flowIdBytes, epochBytes,
        sequenceBytes, errorBytes, NegotiatedParameters.length_canonicalBytes]

/-- The codec is a bijection between checked encodable frames and accepted
byte strings: decoding inverts encoding, an accepted string is the encoding of
the decoded frame, no frame has two accepted representations, and a known
fixed-size type accepts one payload length. -/
theorem codec_bijective :
    (∀ frame bytes, frame.Checked → frame.encode = .ok bytes →
      decodeExact bytes maxFramePayload = .ok frame) ∧
    (∀ bytes maximum frame, decodeExact bytes maximum = .ok frame →
      frame.encode = .ok bytes) ∧
    (∀ left right leftMaximum rightMaximum frame,
      decodeExact left leftMaximum = .ok frame →
      decodeExact right rightMaximum = .ok frame → left = right) ∧
    (∀ frameType reserved high low payload maximum frame length,
      decodeExact (frameType :: reserved :: high :: low :: payload) maximum =
        .ok frame →
      fixedPayloadLength frameType = some length →
      payload.length = length) := by
  refine ⟨?_, ?_, ?_, ?_⟩
  · intro frame bytes checked encoded
    exact decodeExact_eq_ok_iff.mpr
      ⟨encoded, checked, encode_length_le encoded⟩
  · intro bytes maximum frame decoded
    exact (decodeExact_eq_ok_iff.mp decoded).1
  · intro left right leftMaximum rightMaximum frame leftDecoded rightDecoded
    have leftEncoded := (decodeExact_eq_ok_iff.mp leftDecoded).1
    have rightEncoded := (decodeExact_eq_ok_iff.mp rightDecoded).1
    rw [leftEncoded] at rightEncoded
    exact Except.ok.inj rightEncoded
  · intro frameType reserved high low payload maximum frame length decoded
      fixed
    obtain ⟨kind, body, encoded, _, shape⟩ :=
      encode_eq_ok_iff.mp (decodeExact_eq_ok_iff.mp decoded).1
    obtain ⟨first, second, lengthBytes⟩ :=
      List.length_eq_two.mp (length_wordBytes16 (UInt16.ofNat body.length))
    rw [lengthBytes] at shape
    simp only [List.cons_append, List.nil_append, List.cons.injEq] at shape
    obtain ⟨rfl, _, _, _, rfl⟩ := shape
    exact length_of_fixed encoded fixed

/-- A one-byte `STREAM_DATA` frame of the canonical vectors. -/
theorem codec_bijective_streamData :
    (streamData ⟨1⟩ ⟨2⟩ ⟨3⟩ [0xaa]).encode =
        .ok [0x11, 0, 0, 0x19, 0, 0, 0, 0, 0, 0, 0, 1, 0, 0, 0, 0, 0, 0, 0, 2,
          0, 0, 0, 0, 0, 0, 0, 3, 0xaa] ∧
      decodeExact [0x11, 0, 0, 0x19, 0, 0, 0, 0, 0, 0, 0, 1, 0, 0, 0, 0, 0, 0,
          0, 2, 0, 0, 0, 0, 0, 0, 0, 3, 0xaa] maxFramePayload =
        .ok (streamData ⟨1⟩ ⟨2⟩ ⟨3⟩ [0xaa]) := by
  have encoded : (streamData ⟨1⟩ ⟨2⟩ ⟨3⟩ [0xaa]).encode =
      .ok [0x11, 0, 0, 0x19, 0, 0, 0, 0, 0, 0, 0, 1, 0, 0, 0, 0, 0, 0, 0, 2,
        0, 0, 0, 0, 0, 0, 0, 3, 0xaa] := by rfl
  exact ⟨encoded, codec_bijective.1 _ _ trivial encoded⟩

end Frame

end Velum.Protocol
