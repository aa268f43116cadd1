import Velum.Runtime.Datagrams

/-!
# Datagrams sent through the runtime

The runtime passes a datagram to the client of the generation that is online.
The client encodes one envelope with its own credential and gives it to the
connection, which may take no datagrams, only smaller ones, or be lost.
-/

namespace Velum.Runtime

open Foundation Protocol

/-- What the connection answers: the size it takes, and whether it takes the
envelope. -/
structure DatagramLink where
  maxDatagramSize : Option Nat
  takes : Bool

/-- The envelope that the client gives to the connection. -/
def clientSendDatagram (credential : List UInt8) (link : DatagramLink)
    (sessionId : DatagramSessionId) (destination : SocketAddr)
    (payload : List UInt8) : Except ClientError (List UInt8) :=
  match (Datagram.clientToServer credential sessionId destination
      payload).encode with
  | .error _ => .error .datagramTooLarge
  | .ok encoded =>
      match link.maxDatagramSize with
      | none => .error .datagramUnavailable
      | some maximum =>
          if encoded.length > maximum then .error .datagramTooLarge
          else if link.takes then .ok encoded
          else .error .transport

def sendDatagram (active : RuntimeSnapshot) (credential : List UInt8)
    (link : DatagramLink) (sessionId : DatagramSessionId)
    (destination : SocketAddr) (payload : List UInt8) :
    Except RuntimeError (List UInt8) :=
  if active.phase ≠ .online then .error .notOnline
  else
    (clientSendDatagram credential link sessionId destination
      payload).mapError .client

/-- What is sent decodes to the datagram that was to be sent. -/
theorem decode_of_clientSendDatagram {credential payload encoded : List UInt8}
    {link : DatagramLink} {sessionId : DatagramSessionId}
    {destination : SocketAddr}
    (sent : clientSendDatagram credential link sessionId destination payload =
      .ok encoded) :
    Datagram.decode encoded = .ok (.clientToServer credential sessionId
      destination.cleared payload) := by
  have written : (Datagram.clientToServer credential sessionId destination
      payload).encode = .ok encoded := by
    unfold clientSendDatagram at sent
    split at sent
    · cases sent
    · rename_i encoded' written
      split at sent
      · cases sent
      · split at sent
        · cases sent
        · split at sent
          · cases sent
            exact written
          · cases sent
  apply Datagram.decode_eq_ok_iff.mpr
  constructor
  · rw [← Datagram.encode_cleared] at written
    exact written
  · exact Datagram.cleared_cleared (.clientToServer credential sessionId
      destination payload)

theorem decode_of_sendDatagram {active : RuntimeSnapshot}
    {credential payload encoded : List UInt8} {link : DatagramLink}
    {sessionId : DatagramSessionId} {destination : SocketAddr}
    (sent : sendDatagram active credential link sessionId destination
      payload = .ok encoded) :
    Datagram.decode encoded = .ok (.clientToServer credential sessionId
      destination.cleared payload) := by
  unfold sendDatagram at sent
  split at sent
  · cases sent
  · cases passed : clientSendDatagram credential link sessionId destination
        payload with
    | error failure =>
        rw [passed] at sent
        cases sent
    | ok envelope =>
        rw [passed] at sent
        cases sent
        exact decode_of_clientSendDatagram passed

end Velum.Runtime
