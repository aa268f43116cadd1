import Velum.Protocol.Datagram

/-!
# The datagram envelope is canonical

One equivalence for the whole envelope: a byte string decodes to a datagram
exactly when that datagram encodes to it and its address has neither flow
information nor a scope.
-/

namespace Velum.Protocol

open Foundation
open ByteReader (Reads)

/-- The address without what is not written. -/
def SocketAddr.cleared (address : SocketAddr) : SocketAddr :=
  .new address.ip address.port

namespace Datagram

def cleared : Datagram → Datagram
  | .clientToServer credential sessionId destination payload =>
      .clientToServer credential sessionId destination.cleared payload
  | .serverToClient sessionId source payload =>
      .serverToClient sessionId source.cleared payload

theorem cleared_cleared (datagram : Datagram) :
    datagram.cleared.cleared = datagram.cleared := by
  cases datagram with
  | clientToServer _ _ destination _ => cases destination <;> rfl
  | serverToClient _ source _ => cases source <;> rfl

theorem addressBytes_cleared (address : SocketAddr) :
    addressBytes address.cleared = addressBytes address := by
  cases address <;> rfl

theorem encode_cleared (datagram : Datagram) :
    datagram.cleared.encode = datagram.encode := by
  cases datagram with
  | clientToServer _ _ destination _ =>
      simp only [cleared, encode, encodeFrom, addressBytes_cleared]
  | serverToClient _ source _ =>
      simp only [cleared, encode, encodeFrom, addressBytes_cleared]

theorem encode_clientToServer_eq_ok_iff {credential payload bytes : List UInt8}
    {sessionId : DatagramSessionId} {destination : SocketAddr} :
    (clientToServer credential sessionId destination payload).encode =
        .ok bytes ↔
      (1 ≤ credential.length ∧
        credential.length ≤ maxDatagramCredentialBytes) ∧
      payload.length ≤ maxDatagramPayloadBytes ∧
        bytes = clientToServerByte :: UInt8.ofNat credential.length ::
          credential ++ wordBytes64 sessionId.value ++
          addressBytes destination ++ payload := by
  rw [encode]
  by_cases sized : 1 ≤ credential.length ∧
      credential.length ≤ maxDatagramCredentialBytes
  · rw [if_pos sized, encodeFrom_eq_ok_iff]
    simp [sized]
  · rw [if_neg sized]
    simp [sized]

/-! ## Length -/

theorem length_addressBytes_le (address : SocketAddr) :
    (addressBytes address).length ≤ 19 := by
  cases address with
  | v4 octets port => simp [addressBytes, SocketAddr.ip]
  | v6 octets port flowinfo scopeId => simp [addressBytes, SocketAddr.ip]

theorem length_encode_le {datagram : Datagram} {bytes : List UInt8}
    (encoded : datagram.encode = .ok bytes) :
    bytes.length ≤ maxDatagramEnvelopeBytes := by
  unfold maxDatagramEnvelopeBytes
  cases datagram with
  | clientToServer credential sessionId destination payload =>
      obtain ⟨sized, small, rfl⟩ :=
        encode_clientToServer_eq_ok_iff.mp encoded
      have address := length_addressBytes_le destination
      simp only [List.length_append, List.length_cons, length_wordBytes64]
      omega
  | serverToClient sessionId source payload =>
      obtain ⟨small, rfl⟩ := encode_serverToClient_eq_ok_iff.mp encoded
      have address := length_addressBytes_le source
      simp only [List.length_append, List.length_cons, List.length_nil,
        length_wordBytes64]
      omega

end Datagram

/-! ## Fields -/

namespace DatagramReader

theorem reads_u8 : Reads u8 (fun byte => [byte]) := by
  have law := (ByteReader.reads_take DatagramDecodeError.tooShort 1).map
    (fun bytes => bytes.head) (fun byte => ⟨[byte], rfl⟩)
  apply law
  · rintro ⟨bytes, width⟩
    obtain ⟨byte, rfl⟩ := List.length_eq_one_iff.mp width
    rfl
  · intro byte
    rfl

theorem reads_u64 : Reads u64 wordBytes64 :=
  ByteReader.reads_word64 _

theorem reads_sessionId :
    Reads sessionId (fun session => wordBytes64 session.value) := by
  apply reads_u64.checked
  intro value session
  unfold DatagramSessionId.new
  split
  · constructor
    · intro made
      cases made
      rfl
    · rintro rfl
      rfl
  · rename_i zero
    constructor
    · intro impossible
      cases impossible
    · rintro rfl
      exact absurd session.nonzero zero

/-- What is read is an address without flow information or scope. -/
theorem address_eq_ok_iff {input rest : List UInt8} {found : SocketAddr} :
    address.run input = .ok (found, rest) ↔
      input = Datagram.addressBytes found ++ rest ∧
        found.cleared = found := by
  unfold address
  rw [reads_u8.bind_iff]
  constructor
  · rintro ⟨family, middle, rfl, parsed⟩
    dsimp only at parsed
    split at parsed
    · rename_i four
      obtain ⟨octets, _, rfl, later⟩ :=
        (ByteReader.reads_take _ 4).bind_iff.mp parsed
      rw [pure_bind] at later
      obtain ⟨port, _, rfl, made⟩ :=
        (ByteReader.reads_word16 _).bind_iff.mp later
      obtain ⟨rfl, rfl⟩ := ByteReader.run_pure_eq_ok_iff.mp made
      refine ⟨?_, rfl⟩
      simp [Datagram.addressBytes, SocketAddr.new, SocketAddr.ip,
        SocketAddr.port, four]
    · split at parsed
      · rename_i six
        obtain ⟨octets, _, rfl, later⟩ :=
          (ByteReader.reads_take _ 16).bind_iff.mp parsed
        rw [pure_bind] at later
        obtain ⟨port, _, rfl, made⟩ :=
          (ByteReader.reads_word16 _).bind_iff.mp later
        obtain ⟨rfl, rfl⟩ := ByteReader.run_pure_eq_ok_iff.mp made
        refine ⟨?_, rfl⟩
        simp [Datagram.addressBytes, SocketAddr.new, SocketAddr.ip,
          SocketAddr.port, six]
      · obtain ⟨ip, _, impossible, _⟩ :=
          ByteReader.run_bind_eq_ok_iff.mp parsed
        exact (ByteReader.run_throw_ne_ok impossible).elim
  · rintro ⟨rfl, same⟩
    cases found with
    | v4 octets port =>
        refine ⟨ipv4Byte, octets.toList ++ (wordBytes16 port ++ rest), ?_, ?_⟩
        · simp [Datagram.addressBytes, SocketAddr.ip, SocketAddr.port]
        · dsimp only
          rw [if_pos rfl, (ByteReader.reads_take _ 4).bind_iff]
          refine ⟨octets, _, rfl, ?_⟩
          rw [pure_bind, (ByteReader.reads_word16 _).bind_iff]
          exact ⟨port, rest, rfl,
            ByteReader.run_pure_eq_ok_iff.mpr ⟨rfl, rfl⟩⟩
    | v6 octets port flowinfo scopeId =>
        cases same
        refine ⟨ipv6Byte, octets.toList ++ (wordBytes16 port ++ rest), ?_, ?_⟩
        · simp [Datagram.addressBytes, SocketAddr.ip, SocketAddr.port]
        · dsimp only
          rw [if_neg (by decide), if_pos rfl,
            (ByteReader.reads_take _ 16).bind_iff]
          refine ⟨octets, _, rfl, ?_⟩
          rw [pure_bind, (ByteReader.reads_word16 _).bind_iff]
          exact ⟨port, rest, rfl,
            ByteReader.run_pure_eq_ok_iff.mpr ⟨rfl, rfl⟩⟩

/-- A credential stands only in the direction of the server. -/
theorem credential_eq_ok_iff {input rest found : List UInt8} :
    (credential clientToServerByte).run input = .ok (found, rest) ↔
      input = UInt8.ofNat found.length :: found ++ rest ∧
        1 ≤ found.length ∧ found.length ≤ maxDatagramCredentialBytes := by
  unfold credential
  rw [if_pos rfl, reads_u8.bind_iff]
  constructor
  · rintro ⟨length, middle, rfl, parsed⟩
    split at parsed
    · rename_i sized
      obtain ⟨bytes, _, rfl, made⟩ :=
        (ByteReader.reads_take _ _).bind_iff.mp parsed
      obtain ⟨rfl, rfl⟩ := ByteReader.run_pure_eq_ok_iff.mp made
      rw [bytes.toList_length, UInt8.ofNat_toNat]
      exact ⟨rfl, sized⟩
    · exact (ByteReader.run_throw_ne_ok parsed).elim
  · rintro ⟨rfl, sized⟩
    have width : found.length = (UInt8.ofNat found.length).toNat := by
      rw [UInt8.toNat_ofNat']
      unfold maxDatagramCredentialBytes at sized
      omega
    refine ⟨UInt8.ofNat found.length, found ++ rest, rfl, ?_⟩
    rw [← width, if_pos sized, (ByteReader.reads_take _ _).bind_iff]
    exact ⟨⟨found, rfl⟩, rest, rfl,
      ByteReader.run_pure_eq_ok_iff.mpr ⟨rfl, rfl⟩⟩

/-- The part of an envelope after the credential. -/
def body (direction : UInt8) (secret : List UInt8) :
    DatagramReader Datagram := do
  let session ← sessionId
  let peer ← address
  let payload ← ByteReader.takeRemaining
  if payload.length > maxDatagramPayloadBytes then
    throw (.tooLarge maxDatagramPayloadBytes payload.length)
  else if direction = clientToServerByte then
    pure (.clientToServer secret session peer payload)
  else if direction = serverToClientByte then
    pure (.serverToClient session peer payload)
  else throw (.unknownDirection direction)

theorem envelope_eq : envelope = (do
    let direction ← u8
    let secret ← credential direction
    body direction secret) := rfl

/-- The datagram that a direction selects. -/
def selected (direction : UInt8) (secret : List UInt8)
    (session : DatagramSessionId) (peer : SocketAddr)
    (payload : List UInt8) : Option Datagram :=
  if direction = clientToServerByte then
    some (.clientToServer secret session peer payload)
  else if direction = serverToClientByte then
    some (.serverToClient session peer payload)
  else none

theorem body_eq_ok_iff {direction : UInt8} {secret input rest : List UInt8}
    {found : Datagram} :
    (body direction secret).run input = .ok (found, rest) ↔
      ∃ session peer payload,
        selected direction secret session peer payload = some found ∧
        peer.cleared = peer ∧
        payload.length ≤ maxDatagramPayloadBytes ∧ rest = [] ∧
        input = wordBytes64 session.value ++
          (Datagram.addressBytes peer ++ payload) := by
  unfold body
  rw [reads_sessionId.bind_iff]
  constructor
  · rintro ⟨session, _, rfl, parsed⟩
    obtain ⟨peer, _, addressed, ended⟩ :=
      ByteReader.run_bind_eq_ok_iff.mp parsed
    obtain ⟨rfl, same⟩ := address_eq_ok_iff.mp addressed
    obtain ⟨payload, _, taken, made⟩ :=
      ByteReader.run_bind_eq_ok_iff.mp ended
    obtain ⟨rfl, rfl⟩ := ByteReader.run_takeRemaining_eq_ok_iff.mp taken
    refine ⟨session, peer, payload, ?_⟩
    unfold selected
    split at made
    · exact (ByteReader.run_throw_ne_ok made).elim
    · rename_i small
      split at made
      · rename_i towards
        obtain ⟨rfl, rfl⟩ := ByteReader.run_pure_eq_ok_iff.mp made
        exact ⟨if_pos towards, same, Nat.not_lt.mp small, rfl, rfl⟩
      · rename_i away
        rw [if_neg away]
        split at made
        · rename_i back
          obtain ⟨rfl, rfl⟩ := ByteReader.run_pure_eq_ok_iff.mp made
          exact ⟨if_pos back, same, Nat.not_lt.mp small, rfl, rfl⟩
        · exact (ByteReader.run_throw_ne_ok made).elim
  · rintro ⟨session, peer, payload, chosen, same, small, rfl, rfl⟩
    refine ⟨session, _, rfl, ?_⟩
    rw [ByteReader.run_bind_eq_ok_iff]
    refine ⟨peer, payload, address_eq_ok_iff.mpr ⟨rfl, same⟩, ?_⟩
    rw [ByteReader.run_bind_eq_ok_iff]
    refine ⟨payload, [],
      ByteReader.run_takeRemaining_eq_ok_iff.mpr ⟨rfl, rfl⟩, ?_⟩
    rw [if_neg (Nat.not_lt.mpr small)]
    unfold selected at chosen
    split at chosen
    · rename_i towards
      cases chosen
      rw [if_pos towards]
      exact ByteReader.run_pure_eq_ok_iff.mpr ⟨rfl, rfl⟩
    · rename_i away
      rw [if_neg away]
      split at chosen
      · rename_i back
        cases chosen
        rw [if_pos back]
        exact ByteReader.run_pure_eq_ok_iff.mpr ⟨rfl, rfl⟩
      · cases chosen

theorem envelope_eq_ok_iff {input rest : List UInt8} {found : Datagram} :
    envelope.run input = .ok (found, rest) ↔
      rest = [] ∧ found.encode = .ok input ∧ found.cleared = found := by
  rw [envelope_eq, reads_u8.bind_iff]
  constructor
  · rintro ⟨direction, _, rfl, parsed⟩
    obtain ⟨secret, _, readSecret, readBody⟩ :=
      ByteReader.run_bind_eq_ok_iff.mp parsed
    obtain ⟨session, peer, payload, chosen, same, small, rfl, rfl⟩ :=
      body_eq_ok_iff.mp readBody
    refine ⟨rfl, ?_⟩
    unfold selected at chosen
    split at chosen
    · rename_i towards
      cases chosen
      rw [towards] at readSecret ⊢
      obtain ⟨rfl, sized⟩ := credential_eq_ok_iff.mp readSecret
      refine ⟨Datagram.encode_clientToServer_eq_ok_iff.mpr
        ⟨sized, small, ?_⟩, ?_⟩
      · simp
      · rw [Datagram.cleared, same]
    · rename_i away
      split at chosen
      · rename_i back
        cases chosen
        unfold credential at readSecret
        rw [if_neg away] at readSecret
        obtain ⟨rfl, rfl⟩ := ByteReader.run_pure_eq_ok_iff.mp readSecret
        refine ⟨Datagram.encode_serverToClient_eq_ok_iff.mpr ⟨small, ?_⟩, ?_⟩
        · simp [back]
        · rw [Datagram.cleared, same]
      · cases chosen
  · rintro ⟨rfl, encoded, same⟩
    cases found with
    | clientToServer secret session peer payload =>
        obtain ⟨sized, small, rfl⟩ :=
          Datagram.encode_clientToServer_eq_ok_iff.mp encoded
        have kept : peer.cleared = peer := by
          injection same
        refine ⟨clientToServerByte, UInt8.ofNat secret.length :: secret ++
          (wordBytes64 session.value ++
            (Datagram.addressBytes peer ++ payload)), ?_, ?_⟩
        · simp
        · rw [ByteReader.run_bind_eq_ok_iff]
          exact ⟨secret, _, credential_eq_ok_iff.mpr ⟨rfl, sized⟩,
            body_eq_ok_iff.mpr ⟨session, peer, payload, if_pos rfl, kept,
              small, rfl, rfl⟩⟩
    | serverToClient session peer payload =>
        obtain ⟨small, rfl⟩ :=
          Datagram.encode_serverToClient_eq_ok_iff.mp encoded
        have kept : peer.cleared = peer := by
          injection same
        refine ⟨serverToClientByte, wordBytes64 session.value ++
          (Datagram.addressBytes peer ++ payload), ?_, ?_⟩
        · simp
        · rw [ByteReader.run_bind_eq_ok_iff]
          exact ⟨[], _, ByteReader.run_pure_eq_ok_iff.mpr ⟨rfl, rfl⟩,
            body_eq_ok_iff.mpr ⟨session, peer, payload, rfl, kept, small,
              rfl, rfl⟩⟩

end DatagramReader

namespace Datagram

theorem decode_eq_ok_iff {bytes : List UInt8} {datagram : Datagram} :
    decode bytes = .ok datagram ↔
      datagram.encode = .ok bytes ∧ datagram.cleared = datagram := by
  unfold decode
  constructor
  · intro decoded
    split at decoded
    · cases decoded
    · split at decoded
      · cases decoded
      · rename_i found rest parsed
        cases decoded
        exact (DatagramReader.envelope_eq_ok_iff.mp parsed).2
  · intro given
    have small := length_encode_le given.1
    rw [if_neg (Nat.not_lt.mpr small),
      DatagramReader.envelope_eq_ok_iff.mpr ⟨rfl, given⟩]

/-- The envelope is canonical. -/
theorem envelope_canonical (datagram : Datagram) (bytes : List UInt8) :
    (datagram.encode = .ok bytes →
      bytes.length ≤ maxDatagramEnvelopeBytes ∧
      decode bytes = .ok datagram.cleared) ∧
    (decode bytes = .ok datagram → datagram.encode = .ok bytes) ∧
    ((∀ other : Datagram, other.encode ≠ .ok bytes) →
      ∃ failure, decode bytes = .error failure) := by
  refine ⟨?_, ?_, ?_⟩
  · intro encoded
    refine ⟨length_encode_le encoded, decode_eq_ok_iff.mpr ⟨?_, ?_⟩⟩
    · rw [encode_cleared]
      exact encoded
    · exact cleared_cleared datagram
  · intro decoded
    exact (decode_eq_ok_iff.mp decoded).1
  · intro other
    cases decoded : decode bytes with
    | error failure => exact ⟨failure, rfl⟩
    | ok found => exact absurd (decode_eq_ok_iff.mp decoded).1 (other found)

/-- A reply without a payload, from an address with a scope. -/
theorem envelope_canonical_reply :
    (serverToClient ⟨7, by decide⟩
        (.v6 (List.Vector.replicate 16 0xfe) 443 0 2) []).encode =
      .ok (0x02 :: wordBytes64 7 ++ 0x06 :: List.replicate 16 0xfe ++
        [0x01, 0xbb]) ∧
    decode (0x02 :: wordBytes64 7 ++ 0x06 :: List.replicate 16 0xfe ++
        [0x01, 0xbb]) =
      .ok (serverToClient ⟨7, by decide⟩
        (.v6 (List.Vector.replicate 16 0xfe) 443 0 0) []) :=
  ⟨rfl, ((envelope_canonical (serverToClient ⟨7, by decide⟩
    (.v6 (List.Vector.replicate 16 0xfe) 443 0 2) []) _).1 rfl).2⟩

end Datagram

end Velum.Protocol
