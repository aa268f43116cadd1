import Velum.Protocol.Types

/-!
# Attachment proofs and the replay window

HMAC-SHA-256 comes from an external library.  It is a parameter here, with the
one law the session relies on: verification accepts exactly the tag that
signing produces for the same key and message.
-/

namespace Velum.Crypto

open Foundation
open Velum.Protocol

structure Hmac where
  sign : List UInt8 → List UInt8 → List.Vector UInt8 32
  verify : List UInt8 → List UInt8 → List.Vector UInt8 32 → Bool
  verify_iff : ∀ key message tag,
    verify key message tag = true ↔ tag = sign key message

/-- A finite table of known tags; any other message gets the zero tag. -/
def Hmac.ofTags
    (tags : List ((List UInt8 × List UInt8) × List.Vector UInt8 32)) :
    Hmac where
  sign key message :=
    (tags.lookup (key, message)).getD (List.Vector.replicate 32 0)
  verify key message tag :=
    tag = (tags.lookup (key, message)).getD (List.Vector.replicate 32 0)
  verify_iff := by
    intro key message tag
    exact decide_eq_true_iff

/-- ASCII of `velum v0 attachment key`. -/
def attachmentKeyLabel : List UInt8 :=
  [118, 101, 108, 117, 109, 32, 118, 48, 32, 97, 116, 116, 97, 99, 104, 109,
    101, 110, 116, 32, 107, 101, 121]

/-- ASCII of `velum v0 carrier attachment`. -/
def attachmentContextLabel : List UInt8 :=
  [118, 101, 108, 117, 109, 32, 118, 48, 32, 99, 97, 114, 114, 105, 101, 114,
    32, 97, 116, 116, 97, 99, 104, 109, 101, 110, 116]

structure AttachmentProof where
  bytes : List.Vector UInt8 32
  deriving DecidableEq

inductive AttachmentAuthenticationError where
  | emptySecret
  | invalidProof
  deriving DecidableEq, Repr

def attachmentContext (session : SessionId) (epoch : Epoch)
    (attachmentId : AttachmentId) (parameters : NegotiatedParameters) :
    List UInt8 :=
  attachmentContextLabel ++ session.bytes.toList ++
    wordBytes64 epoch.value ++ attachmentId.bytes.toList ++
    parameters.canonicalBytes

/-- Holds the domain-separated key derived from a session secret. -/
structure AttachmentAuthenticator where
  key : List UInt8
  deriving DecidableEq

namespace AttachmentAuthenticator

def new (hmac : Hmac) (secret : List UInt8) :
    Except AttachmentAuthenticationError AttachmentAuthenticator :=
  if secret.isEmpty then .error .emptySecret
  else .ok ⟨(hmac.sign secret attachmentKeyLabel).toList⟩

def prove (hmac : Hmac) (authenticator : AttachmentAuthenticator)
    (session : SessionId) (epoch : Epoch) (attachmentId : AttachmentId)
    (parameters : NegotiatedParameters) : AttachmentProof :=
  ⟨hmac.sign authenticator.key
    (attachmentContext session epoch attachmentId parameters)⟩

def verify (hmac : Hmac) (authenticator : AttachmentAuthenticator)
    (session : SessionId) (epoch : Epoch) (attachmentId : AttachmentId)
    (parameters : NegotiatedParameters) (proof : AttachmentProof) :
    Except AttachmentAuthenticationError Unit :=
  if hmac.verify authenticator.key
      (attachmentContext session epoch attachmentId parameters)
      proof.bytes then .ok ()
  else .error .invalidProof

/-- Verification accepts the proof of the stated tuple and nothing else. -/
theorem verify_eq_ok_iff {hmac : Hmac}
    {authenticator : AttachmentAuthenticator} {session : SessionId}
    {epoch : Epoch} {attachmentId : AttachmentId}
    {parameters : NegotiatedParameters} {proof : AttachmentProof} :
    authenticator.verify hmac session epoch attachmentId parameters proof =
        .ok () ↔
      proof = authenticator.prove hmac session epoch attachmentId
        parameters := by
  have law := hmac.verify_iff authenticator.key
    (attachmentContext session epoch attachmentId parameters) proof.bytes
  cases proof with
  | mk tag =>
      simp only [verify, prove, AttachmentProof.mk.injEq, ← law]
      split
      · rename_i accepted
        simp [accepted]
      · rename_i rejected
        simp [rejected]

end AttachmentAuthenticator

/-- The most recent accepted epoch. -/
structure ReplayWindow where
  latest : Option Epoch
  deriving DecidableEq, Repr

namespace ReplayWindow

def empty : ReplayWindow := ⟨none⟩

def isEmpty (window : ReplayWindow) : Bool :=
  window.latest.isNone

def accepts (window : ReplayWindow) (epoch : Epoch) : Bool :=
  match window.latest with
  | none => true
  | some latest => latest < epoch

/-- Consumes an epoch; the flag tells whether it was accepted. -/
def accept (window : ReplayWindow) (epoch : Epoch) : Bool × ReplayWindow :=
  if !window.accepts epoch then (false, window)
  else (true, ⟨some epoch⟩)

end ReplayWindow

end Velum.Crypto
