import Velum.Foundation.BigEndian
import Mathlib.Order.Defs.LinearOrder
import Mathlib.Order.Lattice.Nat

/-!
# Protocol identifiers and negotiation types

Identifiers are 64-bit words or fixed byte strings, as on the wire.  A nonce
and an attachment identifier can only be built from bytes that are not all
zero, so the check made by their constructors is a field of the type.  Version
ranges, capability advertisements, and offers have public fields in the
source; their checks are separate predicates.
-/

namespace Velum.Protocol

open Foundation

/-- A logical flow identifier, unique within a session and never reused. -/
structure FlowId where
  value : UInt64
  deriving DecidableEq, Repr

/-- Opaque identifier for one logical session. -/
structure SessionId where
  bytes : List.Vector UInt8 16
  deriving DecidableEq

/-- Carrier-transition generation of a session. -/
structure Epoch where
  value : UInt64
  deriving DecidableEq, Repr

/-- Reliable-segment sequence within one flow. -/
structure Sequence where
  value : UInt64
  deriving DecidableEq, Repr

namespace FlowId

theorem value_toNat_injective :
    Function.Injective fun flow : FlowId => flow.value.toNat := by
  intro left right equality
  cases left
  cases right
  exact congrArg FlowId.mk (UInt64.toNat_inj.mp equality)

/-- Flow identifiers are ordered by their numeric value, which is the key
order of the flow table. -/
instance : LinearOrder FlowId :=
  LinearOrder.lift' (fun flow : FlowId => flow.value.toNat)
    value_toNat_injective

end FlowId

namespace Epoch

instance : LT Epoch := ⟨fun left right => left.value < right.value⟩
instance : LE Epoch := ⟨fun left right => left.value ≤ right.value⟩

instance (left right : Epoch) : Decidable (left < right) :=
  inferInstanceAs (Decidable (left.value < right.value))

instance (left right : Epoch) : Decidable (left ≤ right) :=
  inferInstanceAs (Decidable (left.value ≤ right.value))

theorem lt_iff {left right : Epoch} :
    left < right ↔ left.value.toNat < right.value.toNat := Iff.rfl

theorem le_iff {left right : Epoch} :
    left ≤ right ↔ left.value.toNat ≤ right.value.toNat := Iff.rfl

theorem eq_iff {left right : Epoch} :
    left = right ↔ left.value.toNat = right.value.toNat := by
  cases left
  cases right
  simp [UInt64.toNat_inj]

end Epoch

namespace Sequence

instance : LT Sequence := ⟨fun left right => left.value < right.value⟩
instance : LE Sequence := ⟨fun left right => left.value ≤ right.value⟩

instance (left right : Sequence) : Decidable (left < right) :=
  inferInstanceAs (Decidable (left.value < right.value))

instance (left right : Sequence) : Decidable (left ≤ right) :=
  inferInstanceAs (Decidable (left.value ≤ right.value))

theorem lt_iff {left right : Sequence} :
    left < right ↔ left.value.toNat < right.value.toNat := Iff.rfl

theorem le_iff {left right : Sequence} :
    left ≤ right ↔ left.value.toNat ≤ right.value.toNat := Iff.rfl

theorem eq_iff {left right : Sequence} :
    left = right ↔ left.value.toNat = right.value.toNat := by
  cases left
  cases right
  simp [UInt64.toNat_inj]

end Sequence

/-- An inclusive range of supported protocol versions. -/
structure VersionRange where
  minimum : UInt16
  maximum : UInt16
  deriving DecidableEq, Repr

inductive VersionRangeError where
  | invalidRange
  deriving DecidableEq, Repr

namespace VersionRange

def new (minimum maximum : UInt16) : Except VersionRangeError VersionRange :=
  if minimum > maximum then .error .invalidRange
  else .ok { minimum, maximum }

def isValid (range : VersionRange) : Bool :=
  range.minimum ≤ range.maximum

def negotiate (range peer : VersionRange) : Option UInt16 :=
  if !range.isValid || !peer.isValid then none
  else
    let minimum :=
      if range.minimum > peer.minimum then range.minimum else peer.minimum
    let maximum :=
      if range.maximum < peer.maximum then range.maximum else peer.maximum
    if minimum ≤ maximum then some maximum else none

theorem new_eq_ok_iff {minimum maximum : UInt16} {range : VersionRange} :
    new minimum maximum = .ok range ↔
      range = ⟨minimum, maximum⟩ ∧ range.isValid = true := by
  unfold new
  by_cases inverted : minimum > maximum
  · rw [if_pos inverted]
    constructor
    · intro impossible
      cases impossible
    · intro valid
      obtain ⟨rfl, valid⟩ := valid
      simp only [isValid, decide_eq_true_eq] at valid
      exact absurd (UInt16.lt_of_lt_of_le inverted valid)
        (UInt16.lt_irrefl _)
  · rw [if_neg inverted]
    have ordered : minimum ≤ maximum := UInt16.not_lt.mp inverted
    constructor
    · intro made
      cases made
      exact ⟨rfl, by simpa [isValid] using ordered⟩
    · intro valid
      obtain ⟨rfl, _⟩ := valid
      rfl

end VersionRange

/-- Bitset of carrier-independent features understood by a peer. -/
structure Capabilities where
  bits : UInt64
  deriving DecidableEq, Repr

namespace Capabilities

def reliableStream : Capabilities := ⟨(1 : UInt64) <<< 0⟩

def contains (set other : Capabilities) : Bool :=
  set.bits &&& other.bits == other.bits

def intersects (set other : Capabilities) : Bool :=
  set.bits &&& other.bits != 0

def intersection (set other : Capabilities) : Capabilities :=
  ⟨set.bits &&& other.bits⟩

end Capabilities

/-- A capability offer separates required behavior from optional behavior. -/
structure CapabilityAdvertisement where
  required : Capabilities
  optional : Capabilities
  deriving DecidableEq, Repr

inductive CapabilityAdvertisementError where
  | overlappingBits
  deriving DecidableEq, Repr

namespace CapabilityAdvertisement

def new (required optional : Capabilities) :
    Except CapabilityAdvertisementError CapabilityAdvertisement :=
  if required.intersects optional then .error .overlappingBits
  else .ok { required, optional }

theorem eq_of_new {required optional : Capabilities}
    {advertisement : CapabilityAdvertisement}
    (made : new required optional = .ok advertisement) :
    advertisement = ⟨required, optional⟩ := by
  unfold new at made
  split at made
  · cases made
  · cases made
    rfl

theorem new_of_disjoint {required optional : Capabilities}
    (disjoint : required.intersects optional = false) :
    new required optional = .ok ⟨required, optional⟩ := by
  simp [new, disjoint]

def offered (advertisement : CapabilityAdvertisement) : Capabilities :=
  ⟨advertisement.required.bits ||| advertisement.optional.bits⟩

end CapabilityAdvertisement

/-- Bytes that a checked identifier may hold: not every byte is zero. -/
def Nonzero (bytes : List.Vector UInt8 16) : Prop :=
  ∃ byte ∈ bytes.toList, byte ≠ 0

instance (bytes : List.Vector UInt8 16) : Decidable (Nonzero bytes) :=
  inferInstanceAs (Decidable (∃ byte ∈ bytes.toList, byte ≠ 0))

/-- Checked construction of a sixteen-byte identifier.  The source scans for a
nonzero byte and accepts at the first one. -/
def checkNonzero {Checked Error : Type}
    (build : (bytes : List.Vector UInt8 16) → Nonzero bytes → Checked)
    (failure : Error) (bytes : List.Vector UInt8 16) :
    Except Error Checked :=
  if nonzero : Nonzero bytes then .ok (build bytes nonzero)
  else .error failure

theorem checkNonzero_eq_ok_iff {Checked Error : Type}
    {build : (bytes : List.Vector UInt8 16) → Nonzero bytes → Checked}
    {failure : Error} {project : Checked → List.Vector UInt8 16}
    (nonzeroOf : ∀ checked, Nonzero (project checked))
    (projectBuild : ∀ bytes nonzero, project (build bytes nonzero) = bytes)
    (buildProject : ∀ checked,
      build (project checked) (nonzeroOf checked) = checked)
    {bytes : List.Vector UInt8 16} {checked : Checked} :
    checkNonzero build failure bytes = .ok checked ↔
      bytes = project checked := by
  unfold checkNonzero
  constructor
  · intro accepted
    split at accepted
    · cases accepted
      exact (projectBuild _ _).symm
    · cases accepted
  · intro same
    subst same
    rw [dif_pos (nonzeroOf checked), buildProject]

/-- A non-zero nonce that binds a negotiation response to its offer. -/
structure HandshakeNonce where
  bytes : List.Vector UInt8 16
  nonzero : Nonzero bytes
  deriving DecidableEq

inductive HandshakeNonceError where
  | allZero
  deriving DecidableEq, Repr

namespace HandshakeNonce

def new : List.Vector UInt8 16 → Except HandshakeNonceError HandshakeNonce :=
  checkNonzero HandshakeNonce.mk .allZero

theorem new_eq_ok_iff (bytes : List.Vector UInt8 16)
    (nonce : HandshakeNonce) :
    new bytes = .ok nonce ↔ bytes = nonce.bytes :=
  checkNonzero_eq_ok_iff HandshakeNonce.nonzero (fun _ _ => rfl)
    (fun _ => rfl)

end HandshakeNonce

/-- A fresh opaque identifier for one carrier-attachment attempt. -/
structure AttachmentId where
  bytes : List.Vector UInt8 16
  nonzero : Nonzero bytes
  deriving DecidableEq

inductive AttachmentIdError where
  | allZero
  deriving DecidableEq, Repr

namespace AttachmentId

def new : List.Vector UInt8 16 → Except AttachmentIdError AttachmentId :=
  checkNonzero AttachmentId.mk .allZero

theorem new_eq_ok_iff (bytes : List.Vector UInt8 16)
    (attachment : AttachmentId) :
    new bytes = .ok attachment ↔ bytes = attachment.bytes :=
  checkNonzero_eq_ok_iff AttachmentId.nonzero (fun _ _ => rfl)
    (fun _ => rfl)

end AttachmentId

/-- A client's authenticated offer before a logical session is attached. -/
structure NegotiationOffer where
  versions : VersionRange
  capabilities : CapabilityAdvertisement
  clientNonce : HandshakeNonce
  deriving DecidableEq

inductive NegotiationError where
  | invalidVersionRange
  | invalidCapabilityAdvertisement
  | noSharedVersion
  | unsupportedRequiredCapability
  | missingReliableStream
  | invalidSelection
  deriving DecidableEq, Repr

/-- The accepted version, capabilities, and nonces. -/
structure NegotiatedParameters where
  version : UInt16
  capabilities : Capabilities
  clientNonce : HandshakeNonce
  serverNonce : HandshakeNonce
  deriving DecidableEq

namespace NegotiationOffer

def new (versions : VersionRange) (capabilities : CapabilityAdvertisement)
    (clientNonce : HandshakeNonce) :
    Except NegotiationError NegotiationOffer :=
  if !versions.isValid then .error .invalidVersionRange
  else if capabilities.required.intersects capabilities.optional then
    .error .invalidCapabilityAdvertisement
  else if !capabilities.required.contains .reliableStream then
    .error .missingReliableStream
  else .ok { versions, capabilities, clientNonce }

/-- The checks of `new`, as a property of an offer. -/
def Valid (offer : NegotiationOffer) : Prop :=
  offer.versions.isValid = true ∧
    offer.capabilities.required.intersects offer.capabilities.optional =
      false ∧
    offer.capabilities.required.contains .reliableStream = true

instance (offer : NegotiationOffer) : Decidable offer.Valid :=
  inferInstanceAs (Decidable (_ ∧ _ ∧ _))

theorem new_eq_ok_iff {versions : VersionRange}
    {capabilities : CapabilityAdvertisement} {clientNonce : HandshakeNonce}
    {offer : NegotiationOffer} :
    new versions capabilities clientNonce = .ok offer ↔
      offer = ⟨versions, capabilities, clientNonce⟩ ∧ offer.Valid := by
  unfold new
  constructor
  · intro made
    split at made
    · cases made
    · split at made
      · cases made
      · split at made
        · cases made
        · cases made
          refine ⟨rfl, ?_, ?_, ?_⟩
          · simpa using ‹¬(!versions.isValid) = true›
          · simpa using
              ‹¬capabilities.required.intersects capabilities.optional = true›
          · simpa using
              ‹¬(!capabilities.required.contains .reliableStream) = true›
  · intro valid
    obtain ⟨rfl, range, disjoint, reliable⟩ := valid
    simp only [range, disjoint, reliable, Bool.not_true, Bool.false_eq_true,
      if_false]

/-- Selects the newest common version and every mutually supported offered
capability. -/
def negotiate (offer : NegotiationOffer) (serverVersions : VersionRange)
    (serverCapabilities : Capabilities) (serverNonce : HandshakeNonce) :
    Except NegotiationError NegotiatedParameters :=
  match offer.versions.negotiate serverVersions with
  | none => .error .noSharedVersion
  | some version =>
      if !serverCapabilities.contains offer.capabilities.required then
        .error .unsupportedRequiredCapability
      else
        let enabled :=
          offer.capabilities.offered.intersection serverCapabilities
        if !enabled.contains .reliableStream then
          .error .missingReliableStream
        else
          .ok {
            version
            capabilities := enabled
            clientNonce := offer.clientNonce
            serverNonce }

end NegotiationOffer

namespace NegotiatedParameters

def validateFor (parameters : NegotiatedParameters)
    (offer : NegotiationOffer) : Except NegotiationError Unit :=
  if !offer.versions.isValid
      || parameters.version < offer.versions.minimum
      || parameters.version > offer.versions.maximum
      || !offer.capabilities.offered.contains parameters.capabilities
      || !parameters.capabilities.contains offer.capabilities.required
      || !parameters.capabilities.contains .reliableStream
      || parameters.clientNonce.bytes != offer.clientNonce.bytes then
    .error .invalidSelection
  else .ok ()

/-- Fixed-width representation for framing and transcript binding: version,
capabilities, client nonce, server nonce, all in network byte order. -/
def canonicalBytes (parameters : NegotiatedParameters) : List UInt8 :=
  wordBytes16 parameters.version ++
    wordBytes64 parameters.capabilities.bits ++
    parameters.clientNonce.bytes.toList ++
    parameters.serverNonce.bytes.toList

theorem length_canonicalBytes (parameters : NegotiatedParameters) :
    parameters.canonicalBytes.length = 42 := by
  simp [canonicalBytes]

end NegotiatedParameters

/-- Stable, payload-free error codes emitted by v0 control frames. -/
inductive ProtocolErrorCode where
  | noSharedVersion
  | incompatibleCapabilities
  | authenticationFailed
  | replayDetected
  | protocolViolation
  | resourceLimit
  | flowNotFound
  | flowState
  | resumeUnsupported
  | internal
  | unknown (value : UInt16)
  deriving DecidableEq, Repr

namespace ProtocolErrorCode

def asU16 : ProtocolErrorCode → UInt16
  | .noSharedVersion => 0x0001
  | .incompatibleCapabilities => 0x0002
  | .authenticationFailed => 0x0003
  | .replayDetected => 0x0004
  | .protocolViolation => 0x0005
  | .resourceLimit => 0x0006
  | .flowNotFound => 0x0007
  | .flowState => 0x0008
  | .resumeUnsupported => 0x0009
  | .internal => 0x00ff
  | .unknown value => value

def fromU16 (value : UInt16) : ProtocolErrorCode :=
  if value = 0x0001 then .noSharedVersion
  else if value = 0x0002 then .incompatibleCapabilities
  else if value = 0x0003 then .authenticationFailed
  else if value = 0x0004 then .replayDetected
  else if value = 0x0005 then .protocolViolation
  else if value = 0x0006 then .resourceLimit
  else if value = 0x0007 then .flowNotFound
  else if value = 0x0008 then .flowState
  else if value = 0x0009 then .resumeUnsupported
  else if value = 0x00ff then .internal
  else .unknown value

private theorem asU16_ite {value registered : UInt16}
    {code otherwise : ProtocolErrorCode} (assigned : code.asU16 = registered)
    (unassigned : otherwise.asU16 = value) :
    (if value = registered then code else otherwise).asU16 = value := by
  by_cases same : value = registered
  · rw [if_pos same, assigned, same]
  · rw [if_neg same, unassigned]

theorem asU16_fromU16 (value : UInt16) : (fromU16 value).asU16 = value := by
  unfold fromU16
  iterate 10
    apply asU16_ite
    · rfl
  rfl

end ProtocolErrorCode

end Velum.Protocol
