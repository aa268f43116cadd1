import Velum.Crypto.Attachment
import Velum.Protocol.FrameCodec

/-!
# What an attachment proof binds

The signed context is a label followed by fields of fixed width, so it
determines the fields.  Readers of the fields give the cancellation laws: what
a reader accepts is determined by the bytes in front of it.
-/

namespace Foundation.ByteReader

/-- Two written values with the same bytes are the same. -/
theorem Reads.inj {Error Value : Type} {reader : ByteReader Error Value}
    {write : Value → List UInt8} (reads : Reads reader write)
    {first second : Value} {rest other : List UInt8}
    (same : write first ++ rest = write second ++ other) :
    first = second ∧ rest = other := by
  have readFirst := (reads _ first rest).mpr rfl
  have readSecond := (reads _ second other).mpr same
  have pairs := Except.ok.inj (readFirst.symm.trans readSecond)
  exact Prod.mk.inj pairs

end Foundation.ByteReader

namespace Velum.Crypto

open Foundation
open Velum.Protocol
open FrameReader

/-! ## Canonical bytes by index -/

/-- The loop that writes both nonces, after some of its rounds. -/
def writeNonces (clientNonce serverNonce : List UInt8) (rounds : Nat)
    (bytes : List UInt8) : List UInt8 :=
  (List.range rounds).foldl (fun bytes index =>
    (bytes.set (10 + index) (clientNonce.getD index 0)).set (26 + index)
      (serverNonce.getD index 0)) bytes

/-- `canonical_bytes` as it is written: single bytes into a zeroed array, then
the nonces. -/
def writeCanonicalBytes (parameters : NegotiatedParameters) : List UInt8 :=
  let version := wordBytes16 parameters.version
  let capabilities := wordBytes64 parameters.capabilities.bits
  let bytes := List.replicate 42 0
  let bytes := bytes.set 0 (version.getD 0 0)
  let bytes := bytes.set 1 (version.getD 1 0)
  let bytes := bytes.set 2 (capabilities.getD 0 0)
  let bytes := bytes.set 3 (capabilities.getD 1 0)
  let bytes := bytes.set 4 (capabilities.getD 2 0)
  let bytes := bytes.set 5 (capabilities.getD 3 0)
  let bytes := bytes.set 6 (capabilities.getD 4 0)
  let bytes := bytes.set 7 (capabilities.getD 5 0)
  let bytes := bytes.set 8 (capabilities.getD 6 0)
  let bytes := bytes.set 9 (capabilities.getD 7 0)
  writeNonces parameters.clientNonce.bytes.toList
    parameters.serverNonce.bytes.toList 16 bytes

/-- One more byte of a block is written over the zero behind it. -/
theorem set_next {front block rest : List UInt8} {written left : Nat}
    (inside : written < block.length) :
    (front ++ block.take written ++ List.replicate (left + 1) 0 ++ rest).set
        (front.length + written) (block.getD written 0) =
      front ++ block.take (written + 1) ++ List.replicate left 0 ++ rest := by
  have width : (front ++ block.take written).length =
      front.length + written := by
    rw [List.length_append, List.length_take_of_le (by omega)]
  have value : block.getD written 0 = block[written] := by
    simp [List.getD_eq_getElem?_getD, inside]
  rw [List.replicate_succ, List.append_assoc, ← width,
    List.set_append_right _ _ (Nat.le_refl _), Nat.sub_self,
    List.cons_append, List.set_cons_zero,
    List.take_succ_eq_append_getElem inside, value]
  simp only [List.append_assoc, List.cons_append, List.nil_append]

/-- Each round has written one byte of each nonce. -/
theorem writeNonces_append {clientNonce serverNonce front : List UInt8}
    (clientWidth : clientNonce.length = 16)
    (serverWidth : serverNonce.length = 16) (head : front.length = 10)
    {rounds left : Nat} (all : rounds + left = 16) :
    writeNonces clientNonce serverNonce rounds
        (front ++ List.replicate 32 0) =
      front ++ clientNonce.take rounds ++ List.replicate left 0 ++
        serverNonce.take rounds ++ List.replicate left 0 := by
  induction rounds generalizing left with
  | zero =>
      obtain rfl : left = 16 := by omega
      simp [writeNonces]
  | succ rounds induction =>
      have before := @induction (left + 1) (by omega)
      have client := @set_next front clientNonce
        (serverNonce.take rounds ++ List.replicate (left + 1) 0) rounds left
        (by omega)
      have server := @set_next
        (front ++ clientNonce.take (rounds + 1) ++ List.replicate left 0)
        serverNonce [] rounds left (by omega)
      have offset : (front ++ clientNonce.take (rounds + 1) ++
          List.replicate left 0).length = 26 := by
        simp only [List.length_append, List.length_replicate, head,
          List.length_take_of_le (show rounds + 1 ≤ clientNonce.length by
            omega)]
        omega
      rw [head] at client
      rw [offset, List.append_nil, List.append_nil] at server
      simp only [writeNonces, List.range_succ, List.foldl_append,
        List.foldl_cons, List.foldl_nil] at before ⊢
      rw [before]
      simp only [List.append_assoc] at client server ⊢
      rw [client, server]

theorem writeCanonicalBytes_eq (parameters : NegotiatedParameters) :
    writeCanonicalBytes parameters = parameters.canonicalBytes := by
  have head : writeCanonicalBytes parameters =
      writeNonces parameters.clientNonce.bytes.toList
        parameters.serverNonce.bytes.toList 16
        (wordBytes16 parameters.version ++
          wordBytes64 parameters.capabilities.bits ++
          List.replicate 32 0) := rfl
  have width := @List.Vector.toList_length UInt8 16
  rw [head, @writeNonces_append _ _ _ (width _) (width _) (by simp) 16 0 rfl,
    List.take_of_length_le (by simp), List.take_of_length_le (by simp)]
  simp [NegotiatedParameters.canonicalBytes]

/-! ## Contexts and proofs -/

/-- What a proof is about. -/
structure AttachmentTuple where
  session : SessionId
  epoch : Epoch
  attachmentId : AttachmentId
  parameters : NegotiatedParameters
  deriving DecidableEq

namespace AttachmentTuple

def context (tuple : AttachmentTuple) : List UInt8 :=
  attachmentContext tuple.session tuple.epoch tuple.attachmentId
    tuple.parameters

def prove (tuple : AttachmentTuple) (hmac : Hmac)
    (authenticator : AttachmentAuthenticator) : AttachmentProof :=
  authenticator.prove hmac tuple.session tuple.epoch tuple.attachmentId
    tuple.parameters

def verify (tuple : AttachmentTuple) (hmac : Hmac)
    (authenticator : AttachmentAuthenticator) (proof : AttachmentProof) :
    Except AttachmentAuthenticationError Unit :=
  authenticator.verify hmac tuple.session tuple.epoch tuple.attachmentId
    tuple.parameters proof

theorem context_injective : Function.Injective context := by
  intro first second same
  obtain ⟨session, epoch, attachmentId, parameters⟩ := first
  obtain ⟨session', epoch', attachmentId', parameters'⟩ := second
  simp only [context, attachmentContext, List.append_assoc] at same
  have afterLabel := List.append_cancel_left same
  obtain ⟨rfl, afterSession⟩ := reads_sessionId.inj afterLabel
  obtain ⟨rfl, afterEpoch⟩ := reads_epoch.inj afterSession
  obtain ⟨rfl, afterId⟩ := reads_attachmentId.inj afterEpoch
  have last : parameters.canonicalBytes ++ [] =
      parameters'.canonicalBytes ++ [] := by
    rw [afterId]
  obtain ⟨rfl, _⟩ := reads_parameters.inj last
  rfl

end AttachmentTuple

/-- Contexts determine what is proved, canonical bytes are what the frame
reader reads, and with a keyed function that has no collisions on the signed
messages a proof verifies for its own tuple alone. -/
theorem attachment_proofs_bind (hmac : Hmac)
    (authenticator : AttachmentAuthenticator)
    (messages : Set (List UInt8))
    (injective : Set.InjOn (hmac.sign authenticator.key) messages) :
    Function.Injective AttachmentTuple.context ∧
    (∀ parameters : NegotiatedParameters,
      writeCanonicalBytes parameters = parameters.canonicalBytes ∧
        parameters.canonicalBytes.length = 42) ∧
    (∀ (input : List UInt8) (parameters : NegotiatedParameters)
      (rest : List UInt8),
      FrameReader.parameters.run input = .ok (parameters, rest) ↔
        input = writeCanonicalBytes parameters ++ rest) ∧
    ∀ tuple proved : AttachmentTuple, tuple.context ∈ messages →
      proved.context ∈ messages →
      (tuple.verify hmac authenticator (proved.prove hmac authenticator) =
        .ok () ↔ tuple = proved) := by
  refine ⟨AttachmentTuple.context_injective, ?_, ?_, ?_⟩
  · intro parameters
    exact ⟨writeCanonicalBytes_eq parameters,
      parameters.length_canonicalBytes⟩
  · intro input parameters rest
    rw [writeCanonicalBytes_eq]
    exact reads_parameters input parameters rest
  · intro tuple proved here there
    refine AttachmentAuthenticator.verify_eq_ok_iff.trans ?_
    constructor
    · intro same
      have tags := congrArg AttachmentProof.bytes same
      exact AttachmentTuple.context_injective
        (injective here there tags.symm)
    · intro same
      rw [same]
      rfl

theorem nonzero_ones : Nonzero (List.Vector.replicate 16 1) := by
  decide

theorem nonzero_twos : Nonzero (List.Vector.replicate 16 2) := by
  decide

def sampleTuple (epoch : Epoch) : AttachmentTuple where
  session := ⟨List.Vector.replicate 16 5⟩
  epoch := epoch
  attachmentId := ⟨_, nonzero_ones⟩
  parameters := ⟨0, ⟨1⟩, ⟨_, nonzero_ones⟩, ⟨_, nonzero_twos⟩⟩

/-- Derived from the secret `attachment secret`. -/
def sampleKey : List UInt8 :=
  [195, 225, 74, 217, 117, 185, 46, 166, 237, 161, 181, 2, 58, 75, 198, 214,
    200, 36, 164, 69, 225, 7, 12, 29, 3, 104, 169, 63, 220, 153, 239, 176]

/-- HMAC-SHA-256 on the contexts of the first two epochs. -/
def sampleHmac : Hmac :=
  .ofTags
    [((sampleKey, (sampleTuple ⟨0⟩).context),
        ⟨[52, 49, 23, 142, 112, 232, 168, 205, 118, 29, 17, 18, 170, 39, 243,
          131, 11, 130, 95, 146, 21, 202, 151, 175, 182, 236, 209, 85, 122,
          197, 117, 13], rfl⟩),
      ((sampleKey, (sampleTuple ⟨1⟩).context),
        ⟨[144, 25, 148, 170, 130, 250, 18, 115, 118, 31, 64, 244, 180, 53,
          167, 143, 49, 155, 201, 186, 77, 186, 72, 247, 149, 159, 124, 206,
          165, 167, 46, 140], rfl⟩)]

theorem sampleHmac_injOn :
    Set.InjOn (sampleHmac.sign sampleKey)
      {(sampleTuple ⟨0⟩).context, (sampleTuple ⟨1⟩).context} := by
  have distinct : sampleHmac.sign sampleKey (sampleTuple ⟨0⟩).context ≠
      sampleHmac.sign sampleKey (sampleTuple ⟨1⟩).context := by
    decide
  rintro first (rfl | rfl) second (rfl | rfl) same
  · rfl
  · exact absurd same distinct
  · exact absurd same.symm distinct
  · rfl

theorem attachment_proofs_bind_epoch :
    (sampleTuple ⟨1⟩).verify sampleHmac ⟨sampleKey⟩
        ((sampleTuple ⟨1⟩).prove sampleHmac ⟨sampleKey⟩) = .ok () ∧
      (sampleTuple ⟨1⟩).verify sampleHmac ⟨sampleKey⟩
        ((sampleTuple ⟨0⟩).prove sampleHmac ⟨sampleKey⟩) ≠ .ok () := by
  have binds := (attachment_proofs_bind sampleHmac ⟨sampleKey⟩
    {(sampleTuple ⟨0⟩).context, (sampleTuple ⟨1⟩).context}
    sampleHmac_injOn).2.2.2
  constructor
  · exact (binds _ _ (Or.inr rfl) (Or.inr rfl)).mpr rfl
  · intro accepted
    have same := (binds _ _ (Or.inr rfl) (Or.inl rfl)).mp accepted
    exact absurd (congrArg AttachmentTuple.epoch same) (by decide)

end Velum.Crypto
