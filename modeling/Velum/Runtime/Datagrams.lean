import Velum.Protocol.DatagramCodec
import Velum.Runtime.Lifecycle

/-!
# Datagrams received through the runtime

The connection delivers encoded envelopes or the loss of the transport.  The
client decodes one envelope and the runtime checks that the generation it
waited for is still online.
-/

namespace Velum.Runtime

open Foundation Protocol

/-- Whether a flow generation may still publish at this snapshot. -/
def RuntimeSnapshot.isGenerationOnline (snapshot : RuntimeSnapshot)
    (generation : UInt64) : Bool :=
  snapshot.generation = generation && snapshot.phase = .online

/-- One response, as the client hands it on. -/
structure ClientDatagram where
  sessionId : DatagramSessionId
  source : SocketAddr
  payload : List UInt8
  deriving DecidableEq

/-- What the awaited read of the connection gave: an envelope, or nothing when
the transport failed. -/
abbrev ReadDatagram := Option (List UInt8)

/-- Receives one server-to-client datagram, rejecting malformed directions. -/
def clientReceiveDatagram (read : ReadDatagram) :
    Except ClientError ClientDatagram :=
  match read with
  | none => .error .transport
  | some encoded =>
      match Datagram.decode encoded with
      | .error _ => .error .protocol
      | .ok (.serverToClient sessionId source payload) =>
          .ok ⟨sessionId, source, payload⟩
      | .ok (.clientToServer _ _ _ _) => .error .protocol

/-- The lifecycle is read once for the active client and once again after the
client has answered. -/
def receiveDatagram (active : RuntimeSnapshot) (read : ReadDatagram)
    (after : RuntimeSnapshot) : Except RuntimeError ClientDatagram :=
  if active.phase ≠ .online then .error .notOnline
  else
    match clientReceiveDatagram read with
    | .error failure => .error (.client failure)
    | .ok datagram =>
        if !after.isGenerationOnline active.generation then .error .superseded
        else .ok datagram

theorem clientReceiveDatagram_eq_ok_iff {read : ReadDatagram}
    {datagram : ClientDatagram} :
    clientReceiveDatagram read = .ok datagram ↔
      ∃ encoded, read = some encoded ∧
        Datagram.decode encoded = .ok (.serverToClient datagram.sessionId
          datagram.source datagram.payload) := by
  obtain ⟨sessionId, source, payload⟩ := datagram
  cases read with
  | none => simp [clientReceiveDatagram]
  | some encoded =>
      cases decoded : Datagram.decode encoded with
      | error failure => simp [clientReceiveDatagram, decoded]
      | ok datagram =>
          cases datagram with
          | clientToServer => simp [clientReceiveDatagram, decoded]
          | serverToClient => simp [clientReceiveDatagram, decoded]

/-- While the generation stays online, the runtime adds nothing to what the
client reports. -/
theorem receiveDatagram_of_online {active after : RuntimeSnapshot}
    (online : active.phase = .online)
    (still : after.isGenerationOnline active.generation = true)
    (read : ReadDatagram) :
    receiveDatagram active read after =
      (clientReceiveDatagram read).mapError .client := by
  unfold receiveDatagram
  rw [if_neg (not_not.mpr online)]
  cases clientReceiveDatagram read with
  | error failure => rfl
  | ok datagram =>
      rw [still]
      rfl

end Velum.Runtime
