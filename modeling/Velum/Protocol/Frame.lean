import Velum.Foundation.ByteReader
import Velum.Protocol.Types

/-!
# Bounded canonical v0 frames

A frame is a four-byte header (type, reserved zero byte, payload length) and a
payload of fixed-width fields.  The reader of a payload is represented by the
bytes it has not consumed yet; running off the end of the payload, a value
that fails its constructor's check, and leftover bytes are all invalid
payloads.
-/

namespace Velum.Protocol

open Foundation

def frameHeaderBytes : Nat := 4
def maxFramePayload : Nat := 65535

namespace FrameType

def negotiationOffer : UInt8 := 0x01
def negotiationAccept : UInt8 := 0x02
def attach : UInt8 := 0x03
def attachAccepted : UInt8 := 0x04
def streamOpen : UInt8 := 0x10
def streamData : UInt8 := 0x11
def streamAck : UInt8 := 0x12
def streamFinish : UInt8 := 0x13
def streamReset : UInt8 := 0x14
def connectionClose : UInt8 := 0x20
def optionalFrameBit : UInt8 := 0x80

end FrameType

inductive Frame where
  | negotiationOffer (offer : NegotiationOffer)
  | negotiationAccept (parameters : NegotiatedParameters)
  | attach (sessionId : SessionId) (epoch : Epoch)
      (attachmentId : AttachmentId) (parameters : NegotiatedParameters)
      (proof : List.Vector UInt8 32)
  | attachAccepted (sessionId : SessionId) (epoch : Epoch)
      (attachmentId : AttachmentId)
  | streamOpen (flowId : FlowId)
  | streamData (flowId : FlowId) (epoch : Epoch) (sequence : Sequence)
      (bytes : List UInt8)
  | streamAcknowledgement (flowId : FlowId) (epoch : Epoch)
      (through : Sequence)
  | streamFinish (flowId : FlowId) (epoch : Epoch)
      (finalNextSequence : Sequence)
  | streamReset (flowId : FlowId) (error : ProtocolErrorCode)
  | connectionClose (error : ProtocolErrorCode)
  | unknownOptional (frameType : UInt8) (payload : List UInt8)
  deriving DecidableEq

def Frame.IsAttach : Frame → Prop
  | .attach _ _ _ _ _ => True
  | _ => False

/-- The epoch of a data, acknowledgement, or finish frame. -/
def Frame.streamEpoch : Frame → Option Epoch
  | .streamData _ epoch _ _ => some epoch
  | .streamAcknowledgement _ epoch _ => some epoch
  | .streamFinish _ epoch _ => some epoch
  | _ => none

inductive FrameEncodeError where
  | payloadTooLarge (maximum actual : Nat)
  | emptyStreamData
  | invalidOptionalFrameType (frameType : UInt8)
  deriving DecidableEq, Repr

inductive FrameDecodeError where
  | truncatedHeader
  | lengthMismatch (advertised actual : Nat)
  | payloadTooLarge (maximum actual : Nat)
  | unknownMandatoryFrame (frameType : UInt8)
  | emptyStreamData
  | invalidPayload
  deriving DecidableEq, Repr

/-! ## Field writers -/

def versionRangeBytes (range : VersionRange) : List UInt8 :=
  wordBytes16 range.minimum ++ wordBytes16 range.maximum

def capabilitiesBytes (capabilities : Capabilities) : List UInt8 :=
  wordBytes64 capabilities.bits

def flowIdBytes (flowId : FlowId) : List UInt8 :=
  wordBytes64 flowId.value

def epochBytes (epoch : Epoch) : List UInt8 :=
  wordBytes64 epoch.value

def sequenceBytes (sequence : Sequence) : List UInt8 :=
  wordBytes64 sequence.value

def errorBytes (error : ProtocolErrorCode) : List UInt8 :=
  wordBytes16 error.asU16

namespace Frame

def encodePayload : Frame → Except FrameEncodeError (UInt8 × List UInt8)
  | .negotiationOffer offer =>
      .ok (FrameType.negotiationOffer,
        versionRangeBytes offer.versions ++
          capabilitiesBytes offer.capabilities.required ++
          capabilitiesBytes offer.capabilities.optional ++
          offer.clientNonce.bytes.toList)
  | .negotiationAccept parameters =>
      .ok (FrameType.negotiationAccept, parameters.canonicalBytes)
  | .attach sessionId epoch attachmentId parameters proof =>
      .ok (FrameType.attach,
        sessionId.bytes.toList ++ epochBytes epoch ++
          attachmentId.bytes.toList ++ parameters.canonicalBytes ++
          proof.toList)
  | .attachAccepted sessionId epoch attachmentId =>
      .ok (FrameType.attachAccepted,
        sessionId.bytes.toList ++ epochBytes epoch ++
          attachmentId.bytes.toList)
  | .streamOpen flowId => .ok (FrameType.streamOpen, flowIdBytes flowId)
  | .streamData flowId epoch sequence bytes =>
      if bytes.isEmpty then .error .emptyStreamData
      else
        .ok (FrameType.streamData,
          flowIdBytes flowId ++ epochBytes epoch ++ sequenceBytes sequence ++
            bytes)
  | .streamAcknowledgement flowId epoch through =>
      .ok (FrameType.streamAck,
        flowIdBytes flowId ++ epochBytes epoch ++ sequenceBytes through)
  | .streamFinish flowId epoch finalNextSequence =>
      .ok (FrameType.streamFinish,
        flowIdBytes flowId ++ epochBytes epoch ++
          sequenceBytes finalNextSequence)
  | .streamReset flowId error =>
      .ok (FrameType.streamReset, flowIdBytes flowId ++ errorBytes error)
  | .connectionClose error =>
      .ok (FrameType.connectionClose, errorBytes error)
  | .unknownOptional frameType payload =>
      if frameType &&& FrameType.optionalFrameBit = 0 then
        .error (.invalidOptionalFrameType frameType)
      else .ok (frameType, payload)

/-- The source converts the length to 16 bits after the comparison; the
conversion cannot fail there. -/
def encode (frame : Frame) : Except FrameEncodeError (List UInt8) :=
  match frame.encodePayload with
  | .error failure => .error failure
  | .ok (frameType, payload) =>
      if payload.length > maxFramePayload then
        .error (.payloadTooLarge maxFramePayload payload.length)
      else
        .ok (frameType :: 0 ::
          (wordBytes16 (UInt16.ofNat payload.length) ++ payload))

end Frame

/-! ## Field readers -/

abbrev FrameReader := ByteReader FrameDecodeError

namespace FrameReader

def array (count : Nat) : FrameReader (List.Vector UInt8 count) :=
  ByteReader.take .invalidPayload count

def u16 : FrameReader UInt16 :=
  ByteReader.word16 .invalidPayload

def u64 : FrameReader UInt64 :=
  ByteReader.word64 .invalidPayload

def versionRange : FrameReader VersionRange := do
  let minimum ← u16
  let maximum ← u16
  match VersionRange.new minimum maximum with
  | .ok range => pure range
  | .error _ => throw .invalidPayload

def capabilities : FrameReader Capabilities := do
  let bits ← u64
  pure ⟨bits⟩

def nonce : FrameReader HandshakeNonce :=
  (array 16).checked HandshakeNonce.new .invalidPayload

def attachmentId : FrameReader AttachmentId :=
  (array 16).checked AttachmentId.new .invalidPayload

def parameters : FrameReader NegotiatedParameters := do
  let version ← u16
  let enabled ← capabilities
  let clientNonce ← nonce
  let serverNonce ← nonce
  pure { version, capabilities := enabled, clientNonce, serverNonce }

def error : FrameReader ProtocolErrorCode := do
  let value ← u16
  pure (ProtocolErrorCode.fromU16 value)

def sessionId : FrameReader SessionId := do
  let bytes ← array 16
  pure ⟨bytes⟩

def flowId : FrameReader FlowId := do
  let value ← u64
  pure ⟨value⟩

def epoch : FrameReader Epoch := do
  let value ← u64
  pure ⟨value⟩

def sequence : FrameReader Sequence := do
  let value ← u64
  pure ⟨value⟩

/-! ## Frame bodies -/

def negotiationOfferBody : FrameReader Frame := do
  let versions ← versionRange
  let required ← capabilities
  let optional ← capabilities
  let clientNonce ← nonce
  match CapabilityAdvertisement.new required optional with
  | .error _ => throw .invalidPayload
  | .ok advertised =>
      match NegotiationOffer.new versions advertised clientNonce with
      | .error _ => throw .invalidPayload
      | .ok offer => pure (.negotiationOffer offer)

def negotiationAcceptBody : FrameReader Frame := do
  let accepted ← parameters
  pure (.negotiationAccept accepted)

def attachBody : FrameReader Frame := do
  let session ← sessionId
  let stated ← epoch
  let attachment ← attachmentId
  let negotiated ← parameters
  let proof ← array 32
  pure (.attach session stated attachment negotiated proof)

def attachAcceptedBody : FrameReader Frame := do
  let session ← sessionId
  let stated ← epoch
  let attachment ← attachmentId
  pure (.attachAccepted session stated attachment)

def streamOpenBody : FrameReader Frame := do
  let flow ← flowId
  pure (.streamOpen flow)

def streamDataBody : FrameReader Frame := do
  let flow ← flowId
  let stated ← epoch
  let position ← sequence
  let bytes ← ByteReader.takeRemaining
  if bytes.isEmpty then throw .emptyStreamData
  else pure (.streamData flow stated position bytes)

def streamAcknowledgementBody : FrameReader Frame := do
  let flow ← flowId
  let stated ← epoch
  let through ← sequence
  pure (.streamAcknowledgement flow stated through)

def streamFinishBody : FrameReader Frame := do
  let flow ← flowId
  let stated ← epoch
  let finalNext ← sequence
  pure (.streamFinish flow stated finalNext)

def streamResetBody : FrameReader Frame := do
  let flow ← flowId
  let code ← error
  pure (.streamReset flow code)

def connectionCloseBody : FrameReader Frame := do
  let code ← error
  pure (.connectionClose code)

def unknownOptionalBody (frameType : UInt8) : FrameReader Frame := do
  let payload ← ByteReader.takeRemaining
  pure (.unknownOptional frameType payload)

def body (frameType : UInt8) : FrameReader Frame :=
  if frameType = FrameType.negotiationOffer then negotiationOfferBody
  else if frameType = FrameType.negotiationAccept then negotiationAcceptBody
  else if frameType = FrameType.attach then attachBody
  else if frameType = FrameType.attachAccepted then attachAcceptedBody
  else if frameType = FrameType.streamOpen then streamOpenBody
  else if frameType = FrameType.streamData then streamDataBody
  else if frameType = FrameType.streamAck then streamAcknowledgementBody
  else if frameType = FrameType.streamFinish then streamFinishBody
  else if frameType = FrameType.streamReset then streamResetBody
  else if frameType = FrameType.connectionClose then connectionCloseBody
  else if frameType &&& FrameType.optionalFrameBit ≠ 0 then
    unknownOptionalBody frameType
  else throw (.unknownMandatoryFrame frameType)

end FrameReader

namespace Frame

def decodePayload (frameType : UInt8) (payload : List UInt8) :
    Except FrameDecodeError Frame :=
  match (FrameReader.body frameType).run payload with
  | .error failure => .error failure
  | .ok (frame, remaining) =>
      if remaining.isEmpty then .ok frame else .error .invalidPayload

def decodeExact (bytes : List UInt8) (maximumPayload : Nat) :
    Except FrameDecodeError Frame :=
  match bytes with
  | frameType :: reserved :: high :: low :: payload =>
      let advertised := (word16 [high, low]).toNat
      if advertised > maximumPayload then
        .error (.payloadTooLarge maximumPayload advertised)
      else if payload.length ≠ advertised then
        .error (.lengthMismatch advertised payload.length)
      else if reserved ≠ 0 then .error .invalidPayload
      else decodePayload frameType payload
  | _ => .error .truncatedHeader

end Frame

end Velum.Protocol
