import Velum.Protocol.Types

/-!
# Agreement of the negotiation

The acceptor selects a version and a set of capabilities, and the initiator
validates the selection with a function of its own.  Both are read here as
statements about the versions of a range and the bits of a set.
-/

namespace Velum.Protocol

/-! ## Version ranges -/

namespace VersionRange

/-- The version lies in the range. -/
def Has (range : VersionRange) (version : UInt16) : Prop :=
  range.minimum ≤ version ∧ version ≤ range.maximum

/-- The newest version of both ranges. -/
structure Newest (first second : VersionRange) (version : UInt16) :
    Prop where
  inFirst : first.Has version
  inSecond : second.Has version
  newest : ∀ other, first.Has other → second.Has other → other ≤ version

theorem Newest.symm {first second : VersionRange} {version : UInt16}
    (newest : Newest first second version) : Newest second first version :=
  ⟨newest.inSecond, newest.inFirst,
    fun other here there => newest.newest other there here⟩

theorem Newest.unique {first second : VersionRange} {version other : UInt16}
    (newest : Newest first second version)
    (also : Newest first second other) : version = other :=
  UInt16.le_antisymm (also.newest _ newest.inFirst newest.inSecond)
    (newest.newest _ also.inFirst also.inSecond)

theorem larger_le_iff {first second version : UInt16} :
    (if first > second then first else second) ≤ version ↔
      first ≤ version ∧ second ≤ version := by
  split
  next above =>
      constructor
      · intro below
        exact ⟨below, UInt16.le_trans (UInt16.le_of_lt above) below⟩
      · intro below
        exact below.1
  next above =>
      constructor
      · intro below
        exact ⟨UInt16.le_trans (UInt16.not_lt.mp above) below, below⟩
      · intro below
        exact below.2

theorem le_smaller_iff {first second version : UInt16} :
    version ≤ (if first < second then first else second) ↔
      version ≤ first ∧ version ≤ second := by
  split
  next below =>
      constructor
      · intro under
        exact ⟨under, UInt16.le_trans under (UInt16.le_of_lt below)⟩
      · intro under
        exact under.1
  next below =>
      constructor
      · intro under
        exact ⟨UInt16.le_trans under (UInt16.not_lt.mp below), under⟩
      · intro under
        exact under.2

/-- Two valid ranges are negotiated to their newest common version, when they
have one. -/
theorem negotiate_eq_some_iff {first second : VersionRange}
    (valid : first.isValid = true) (peerValid : second.isValid = true)
    {version : UInt16} :
    first.negotiate second = some version ↔
      Newest first second version := by
  have lower := @larger_le_iff first.minimum second.minimum
  have upper := @le_smaller_iff first.maximum second.maximum
  simp only [negotiate, valid, peerValid, Bool.not_true, Bool.or_self,
    Bool.false_eq_true, if_false]
  generalize (if first.minimum > second.minimum then first.minimum
    else second.minimum) = lowest at lower ⊢
  generalize (if first.maximum < second.maximum then first.maximum
    else second.maximum) = highest at upper ⊢
  have top := upper.mp (UInt16.le_refl highest)
  constructor
  · intro selected
    split at selected
    next shared =>
        cases selected
        have bottom := lower.mp shared
        refine ⟨⟨bottom.1, top.1⟩, ⟨bottom.2, top.2⟩, ?_⟩
        intro other here there
        exact upper.mpr ⟨here.2, there.2⟩
    next => cases selected
  · intro newest
    have above : lowest ≤ version :=
      lower.mpr ⟨newest.inFirst.1, newest.inSecond.1⟩
    have below : version ≤ highest :=
      upper.mpr ⟨newest.inFirst.2, newest.inSecond.2⟩
    have shared : lowest ≤ highest := UInt16.le_trans above below
    have bottom := lower.mp shared
    have reached : highest ≤ version :=
      newest.newest highest ⟨bottom.1, top.1⟩ ⟨bottom.2, top.2⟩
    rw [if_pos shared, UInt16.le_antisymm reached below]

theorem exists_negotiate_iff {first second : VersionRange}
    (valid : first.isValid = true) (peerValid : second.isValid = true) :
    (∃ version, first.negotiate second = some version) ↔
      ∃ version, first.Has version ∧ second.Has version := by
  constructor
  · rintro ⟨version, selected⟩
    have newest := (negotiate_eq_some_iff valid peerValid).mp selected
    exact ⟨version, newest.inFirst, newest.inSecond⟩
  · rintro ⟨version, here, there⟩
    have shared := UInt16.le_trans
      (larger_le_iff.mpr ⟨here.1, there.1⟩)
      (le_smaller_iff.mpr ⟨here.2, there.2⟩)
    simp only [negotiate, valid, peerValid, Bool.not_true, Bool.or_self,
      Bool.false_eq_true, if_false, if_pos shared]
    exact ⟨_, rfl⟩

end VersionRange

/-! ## Capability sets -/

namespace Capabilities

/-- The bit is set. -/
def Has (set : Capabilities) (bit : Nat) : Prop :=
  set.bits.toNat.testBit bit = true

theorem has_and {first second : UInt64} {bit : Nat} :
    Has ⟨first &&& second⟩ bit ↔ Has ⟨first⟩ bit ∧ Has ⟨second⟩ bit := by
  simp [Has]

theorem has_or {first second : UInt64} {bit : Nat} :
    Has ⟨first ||| second⟩ bit ↔ Has ⟨first⟩ bit ∨ Has ⟨second⟩ bit := by
  simp [Has]

theorem ext_has {set other : Capabilities}
    (same : ∀ bit, set.Has bit ↔ other.Has bit) : set = other := by
  obtain ⟨bits⟩ := set
  obtain ⟨others⟩ := other
  congr 1
  apply UInt64.toNat_inj.mp
  apply Nat.eq_of_testBit_eq
  intro bit
  exact Bool.eq_iff_iff.mpr (same bit)

theorem contains_iff {set other : Capabilities} :
    set.contains other = true ↔ ∀ bit, other.Has bit → set.Has bit := by
  obtain ⟨bits⟩ := set
  obtain ⟨others⟩ := other
  rw [contains, beq_iff_eq]
  constructor
  · intro same bit held
    have both : Has ⟨bits &&& others⟩ bit := by
      rw [same]
      exact held
    exact (has_and.mp both).1
  · intro holds
    have whole : (⟨bits &&& others⟩ : Capabilities) = ⟨others⟩ := by
      apply ext_has
      intro bit
      rw [has_and]
      exact ⟨fun both => both.2, fun held => ⟨holds bit held, held⟩⟩
    exact congrArg Capabilities.bits whole

end Capabilities

/-! ## Selection and validation -/

theorem CapabilityAdvertisement.has_offered
    {advertisement : CapabilityAdvertisement} {bit : Nat} :
    advertisement.offered.Has bit ↔
      advertisement.required.Has bit ∨ advertisement.optional.Has bit :=
  Capabilities.has_or

/-- What the initiator accepts: a version of its range, offered bits only, all
required ones, and its own nonce. -/
structure NegotiatedParameters.Honours (parameters : NegotiatedParameters)
    (offer : NegotiationOffer) : Prop where
  version : offer.versions.Has parameters.version
  offered : ∀ bit, parameters.capabilities.Has bit →
    offer.capabilities.required.Has bit ∨
      offer.capabilities.optional.Has bit
  required : ∀ bit, offer.capabilities.required.Has bit →
    parameters.capabilities.Has bit
  echoed : parameters.clientNonce = offer.clientNonce

theorem NegotiatedParameters.clientNonce_eq_iff
    {parameters : NegotiatedParameters} {offer : NegotiationOffer} :
    parameters.clientNonce.bytes = offer.clientNonce.bytes ↔
      parameters.clientNonce = offer.clientNonce := by
  obtain ⟨_, _, ⟨bytes, nonzero⟩, _⟩ := parameters
  obtain ⟨_, _, ⟨others, othersNonzero⟩⟩ := offer
  simp

/-- For a valid offer the check of the reliable stream adds nothing. -/
theorem NegotiatedParameters.validateFor_eq_ok_iff
    {parameters : NegotiatedParameters} {offer : NegotiationOffer}
    (valid : offer.Valid) :
    parameters.validateFor offer = .ok () ↔ parameters.Honours offer := by
  obtain ⟨range, _, reliable⟩ := valid
  have streams : parameters.capabilities.contains
      offer.capabilities.required = true →
        parameters.capabilities.contains .reliableStream = true := by
    rw [Capabilities.contains_iff] at reliable
    intro contained
    rw [Capabilities.contains_iff] at contained ⊢
    intro bit held
    exact contained bit (reliable bit held)
  have accepted : parameters.validateFor offer = .ok () ↔
      offer.versions.Has parameters.version ∧
        offer.capabilities.offered.contains parameters.capabilities = true ∧
        parameters.capabilities.contains offer.capabilities.required =
          true ∧
        parameters.clientNonce.bytes = offer.clientNonce.bytes := by
    simp only [validateFor, range, VersionRange.Has, Bool.not_true,
      Bool.false_or, Bool.or_eq_true, decide_eq_true_eq, Bool.not_eq_true',
      bne_iff_ne]
    split
    next refused =>
        constructor
        · intro impossible
          cases impossible
        · rintro ⟨⟨low, high⟩, offered, required, echoed⟩
          simp [UInt16.not_lt.mpr low, UInt16.not_lt.mpr high, offered,
            required, streams required, echoed] at refused
    next passed =>
        simp only [not_or, Bool.not_eq_false, ne_eq, not_not, gt_iff_lt,
          UInt16.not_lt] at passed
        obtain ⟨⟨⟨⟨⟨low, high⟩, offered⟩, required⟩, _⟩, echoed⟩ := passed
        exact iff_of_true rfl ⟨⟨low, high⟩, offered, required, echoed⟩
  rw [accepted, Capabilities.contains_iff, Capabilities.contains_iff,
    clientNonce_eq_iff]
  constructor
  · rintro ⟨version, offered, required, echoed⟩
    exact ⟨version, fun bit held =>
      CapabilityAdvertisement.has_offered.mp (offered bit held), required,
      echoed⟩
  · intro honours
    exact ⟨honours.version, fun bit held =>
      CapabilityAdvertisement.has_offered.mpr (honours.offered bit held),
      honours.required, honours.echoed⟩

/-- What the acceptor selects: the newest common version, every offered bit
that it supports, and both nonces. -/
structure NegotiatedParameters.Selected (parameters : NegotiatedParameters)
    (offer : NegotiationOffer) (serverVersions : VersionRange)
    (serverCapabilities : Capabilities) (serverNonce : HandshakeNonce) :
    Prop where
  version : VersionRange.Newest offer.versions serverVersions
    parameters.version
  capabilities : ∀ bit, parameters.capabilities.Has bit ↔
    (offer.capabilities.required.Has bit ∨
      offer.capabilities.optional.Has bit) ∧ serverCapabilities.Has bit
  clientNonce : parameters.clientNonce = offer.clientNonce
  serverNonce : parameters.serverNonce = serverNonce

namespace NegotiationOffer

variable {offer : NegotiationOffer} {serverVersions : VersionRange}
  {serverCapabilities : Capabilities} {serverNonce : HandshakeNonce}

theorem has_enabled {bit : Nat} :
    (offer.capabilities.offered.intersection serverCapabilities).Has bit ↔
      (offer.capabilities.required.Has bit ∨
        offer.capabilities.optional.Has bit) ∧
        serverCapabilities.Has bit := by
  rw [← CapabilityAdvertisement.has_offered]
  exact Capabilities.has_and

/-- The last check of `negotiate` never fails for a valid offer. -/
theorem Valid.enables_reliableStream (valid : offer.Valid)
    (supported : serverCapabilities.contains offer.capabilities.required =
      true) :
    (offer.capabilities.offered.intersection serverCapabilities).contains
      .reliableStream = true := by
  obtain ⟨_, _, reliable⟩ := valid
  rw [Capabilities.contains_iff] at reliable supported ⊢
  intro bit held
  exact has_enabled.mpr ⟨.inl (reliable bit held),
    supported bit (reliable bit held)⟩

theorem Valid.negotiate_eq_ok_iff (valid : offer.Valid)
    (serverValid : serverVersions.isValid = true)
    {parameters : NegotiatedParameters} :
    offer.negotiate serverVersions serverCapabilities serverNonce =
        .ok parameters ↔
      (∀ bit, offer.capabilities.required.Has bit →
        serverCapabilities.Has bit) ∧
      parameters.Selected offer serverVersions serverCapabilities
        serverNonce := by
  rw [← Capabilities.contains_iff]
  have versions := @VersionRange.negotiate_eq_some_iff offer.versions
    serverVersions valid.1 serverValid
  constructor
  · intro accepted
    unfold negotiate at accepted
    split at accepted
    next => cases accepted
    next version selected =>
        simp only at accepted
        split at accepted
        next => cases accepted
        next supported =>
            split at accepted
            next => cases accepted
            next =>
                cases accepted
                exact ⟨by simpa using supported,
                  versions.mp selected, fun bit => has_enabled, rfl, rfl⟩
  · rintro ⟨supported, version, capabilities, clientNonce, serverNonce⟩
    obtain ⟨selected, enabled, clientSide, serverSide⟩ := parameters
    have streams := valid.enables_reliableStream supported
    have same : enabled =
        offer.capabilities.offered.intersection serverCapabilities := by
      apply Capabilities.ext_has
      intro bit
      rw [capabilities, has_enabled]
    cases clientNonce
    cases serverNonce
    simp only [negotiate, versions.mpr version, supported, streams, same,
      Bool.not_true, Bool.false_eq_true, if_false]

end NegotiationOffer

theorem NegotiatedParameters.Selected.honours {offer : NegotiationOffer}
    {serverVersions : VersionRange} {serverCapabilities : Capabilities}
    {serverNonce : HandshakeNonce} {parameters : NegotiatedParameters}
    (selected : parameters.Selected offer serverVersions serverCapabilities
      serverNonce)
    (supported : ∀ bit, offer.capabilities.required.Has bit →
      serverCapabilities.Has bit) : parameters.Honours offer where
  version := selected.version.inFirst
  offered := fun bit held => ((selected.capabilities bit).mp held).1
  required := fun bit held =>
    (selected.capabilities bit).mpr ⟨.inl held, supported bit held⟩
  echoed := selected.clientNonce

/-- The acceptor and the initiator agree for every offer and every peer. -/
theorem negotiation_agrees {versions : VersionRange}
    {capabilities : CapabilityAdvertisement} {clientNonce : HandshakeNonce}
    {offer : NegotiationOffer}
    (made : NegotiationOffer.new versions capabilities clientNonce =
      .ok offer) (serverVersions : VersionRange)
    (serverValid : serverVersions.isValid = true)
    (serverCapabilities : Capabilities) (serverNonce : HandshakeNonce) :
    ((∃ parameters, offer.negotiate serverVersions serverCapabilities
        serverNonce = .ok parameters) ↔
      (∃ version, offer.versions.Has version ∧
        serverVersions.Has version) ∧
      ∀ bit, offer.capabilities.required.Has bit →
        serverCapabilities.Has bit) ∧
    (∀ parameters, offer.negotiate serverVersions serverCapabilities
        serverNonce = .ok parameters →
      parameters.Selected offer serverVersions serverCapabilities
          serverNonce ∧
        offer.versions.negotiate serverVersions = some parameters.version ∧
        serverVersions.negotiate offer.versions = some parameters.version ∧
        parameters.validateFor offer = .ok ()) ∧
    ∀ parameters : NegotiatedParameters,
      parameters.validateFor offer = .ok () ↔ parameters.Honours offer := by
  obtain ⟨_, valid⟩ := NegotiationOffer.new_eq_ok_iff.mp made
  refine ⟨⟨?_, ?_⟩, ?_, ?_⟩
  · rintro ⟨parameters, accepted⟩
    obtain ⟨supported, selected⟩ :=
      (valid.negotiate_eq_ok_iff serverValid).mp accepted
    exact ⟨⟨_, selected.version.inFirst, selected.version.inSecond⟩,
      supported⟩
  · rintro ⟨shared, supported⟩
    obtain ⟨version, selected⟩ :=
      (VersionRange.exists_negotiate_iff valid.1 serverValid).mpr shared
    refine ⟨⟨version, offer.capabilities.offered.intersection
      serverCapabilities, offer.clientNonce, serverNonce⟩, ?_⟩
    apply (valid.negotiate_eq_ok_iff serverValid).mpr
    exact ⟨supported,
      (VersionRange.negotiate_eq_some_iff valid.1 serverValid).mp selected,
      fun bit => NegotiationOffer.has_enabled, rfl, rfl⟩
  · intro parameters accepted
    obtain ⟨supported, selected⟩ :=
      (valid.negotiate_eq_ok_iff serverValid).mp accepted
    refine ⟨selected, ?_, ?_, ?_⟩
    · exact (VersionRange.negotiate_eq_some_iff valid.1 serverValid).mpr
        selected.version
    · exact (VersionRange.negotiate_eq_some_iff serverValid valid.1).mpr
        selected.version.symm
    · exact (NegotiatedParameters.validateFor_eq_ok_iff valid).mpr
        (selected.honours supported)
  · intro parameters
    exact NegotiatedParameters.validateFor_eq_ok_iff valid


def sampleNonce : HandshakeNonce :=
  ⟨⟨List.replicate 16 1, rfl⟩, 1, by decide, by decide⟩

/-- Versions 0 to 2, with an optional bit that the peer does not know. -/
def sampleOffer : NegotiationOffer :=
  ⟨⟨0, 2⟩, ⟨.reliableStream, ⟨12⟩⟩, sampleNonce⟩

theorem negotiation_agrees_newer_peer :
    ∃ parameters, sampleOffer.negotiate ⟨1, 5⟩ ⟨7⟩ sampleNonce =
        .ok parameters ∧
      parameters.version = 2 ∧ parameters.capabilities = ⟨5⟩ ∧
      VersionRange.negotiate ⟨1, 5⟩ sampleOffer.versions = some 2 ∧
      parameters.validateFor sampleOffer = .ok () := by
  have made : NegotiationOffer.new ⟨0, 2⟩ ⟨.reliableStream, ⟨12⟩⟩
      sampleNonce = .ok sampleOffer := by decide
  obtain ⟨_, agrees, _⟩ := negotiation_agrees made ⟨1, 5⟩ (by decide) ⟨7⟩
    sampleNonce
  have accepted : sampleOffer.negotiate ⟨1, 5⟩ ⟨7⟩ sampleNonce =
      .ok ⟨2, ⟨5⟩, sampleNonce, sampleNonce⟩ := by rfl
  obtain ⟨_, _, peer, validated⟩ := agrees _ accepted
  exact ⟨_, accepted, rfl, rfl, peer, validated⟩

end Velum.Protocol
