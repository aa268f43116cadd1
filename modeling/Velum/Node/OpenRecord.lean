import Velum.Node.Listener
import Velum.Runtime.Lifecycle

/-!
# The open record

The client writes the record that opens a stream, and the node has an encoder
of its own beside its decoder.  The text of a socket address is written by
`display` and parsed by `parse`.
-/

namespace Velum.Client

open Foundation Protocol
open Velum.Runtime

def openHeaderBytes : Nat := 4

/-- The encoder of the client. -/
def encodeOpen (display : SocketAddr → List UInt8)
    (credential : List UInt8) (target : SocketAddr) :
    Except ClientError (List UInt8) :=
  if credential.length ≥ 2 ^ 16 then .error .controlTooLarge
  else
    let text := display target
    if text.length ≥ 2 ^ 16 then .error .controlTooLarge
    else if openHeaderBytes + credential.length + text.length ≥ 2 ^ 64 then
      .error .controlTooLarge
    else
      .ok (wordBytes16 (UInt16.ofNat credential.length) ++
        wordBytes16 (UInt16.ofNat text.length) ++ credential ++ text)

end Velum.Client

namespace Velum.Node

open Foundation Protocol

/-- The encoder of the node. -/
def encodeOpen (display : SocketAddr → List UInt8) (request : OpenRequest) :
    Except ControlError (List UInt8) :=
  if request.secret.isEmpty then .error .invalid
  else if request.secret.length ≥ 2 ^ 16 then .error .secretTooLarge
  else if request.secret.length > maxSecretBytes then .error .secretTooLarge
  else
    let text := display request.target
    if text.length ≥ 2 ^ 16 then .error .invalid
    else
      .ok (wordBytes16 (UInt16.ofNat request.secret.length) ++
        wordBytes16 (UInt16.ofNat text.length) ++ request.secret ++ text)

/-- The limit that a loaded configuration sets. -/
def deployedControlBytes : Nat := 192

/-- The record of a secret and the text of a target. -/
def recordBytes (secret text : List UInt8) : List UInt8 :=
  wordBytes16 (UInt16.ofNat secret.length) ++
    wordBytes16 (UInt16.ofNat text.length) ++ secret ++ text

theorem length_recordBytes (secret text : List UInt8) :
    (recordBytes secret text).length =
      headerBytes + secret.length + text.length := by
  simp only [recordBytes, headerBytes, List.length_append, length_wordBytes16]

theorem word16_ofNat_length {bytes : List UInt8}
    (small : bytes.length < 2 ^ 16) :
    (word16 (wordBytes16 (UInt16.ofNat bytes.length))).toNat =
      bytes.length := by
  rw [word16_wordBytes16, UInt16.toNat_ofNat']
  exact Nat.mod_eq_of_lt small

theorem recordLengths_recordBytes {secret text : List UInt8}
    (secretSmall : secret.length < 2 ^ 16) (textSmall : text.length < 2 ^ 16)
    (rest : List UInt8) :
    recordLengths (recordBytes secret text ++ rest) =
      (secret.length, text.length) := by
  have first : (recordBytes secret text ++ rest).take 2 =
      wordBytes16 (UInt16.ofNat secret.length) := by
    unfold recordBytes
    simp only [List.append_assoc]
    exact List.take_left' (length_wordBytes16 _)
  have second : ((recordBytes secret text ++ rest).drop 2).take 2 =
      wordBytes16 (UInt16.ofNat text.length) := by
    unfold recordBytes
    simp only [List.append_assoc]
    rw [List.drop_left' (length_wordBytes16 _)]
    exact List.take_left' (length_wordBytes16 _)
  unfold recordLengths
  rw [first, second, word16_ofNat_length secretSmall,
    word16_ofNat_length textSmall]

theorem drop_recordBytes (secret text : List UInt8) :
    (recordBytes secret text).drop headerBytes = secret ++ text := by
  have header : (wordBytes16 (UInt16.ofNat secret.length) ++
      wordBytes16 (UInt16.ofNat text.length)).length = headerBytes := by
    simp [headerBytes]
  unfold recordBytes
  rw [List.append_assoc]
  exact List.drop_left' header

theorem decodeOpen_recordBytes {parse : List UInt8 → Option SocketAddr}
    {secret text : List UInt8} {target : SocketAddr}
    (sized : 1 ≤ secret.length ∧ secret.length ≤ maxSecretBytes)
    (textSmall : text.length < 2 ^ 16) (parsed : parse text = some target) :
    decodeOpen parse (recordBytes secret text) = .ok { secret, target } := by
  have secretSmall : secret.length < 2 ^ 16 := by
    unfold maxSecretBytes at sized
    omega
  have lengths := recordLengths_recordBytes secretSmall textSmall []
  rw [List.append_nil] at lengths
  have width := length_recordBytes secret text
  unfold decodeOpen
  rw [if_neg (by omega), lengths]
  dsimp only
  rw [if_neg (by omega), ← List.drop_drop, drop_recordBytes,
    List.drop_left' rfl, parsed]
  dsimp only
  rw [List.take_left' rfl]

/-- What is accepted has lengths that cover it. -/
theorem length_of_decodeOpen {parse : List UInt8 → Option SocketAddr}
    {bytes : List UInt8} {request : OpenRequest}
    (decoded : decodeOpen parse bytes = .ok request) :
    headerBytes ≤ bytes.length ∧
      bytes.length = headerBytes + (recordLengths bytes).1 +
        (recordLengths bytes).2 := by
  unfold decodeOpen at decoded
  split at decoded
  · cases decoded
  · rename_i long
    dsimp only at decoded
    split at decoded
    · cases decoded
    · rename_i covered
      rw [not_or, not_or, not_not] at covered
      exact ⟨Nat.not_lt.mp long, covered.2.2⟩

theorem readOpenRequest_recordBytes {parse : List UInt8 → Option SocketAddr}
    {secret text : List UInt8} {target : SocketAddr} {maximum : Nat}
    (sized : 1 ≤ secret.length ∧ secret.length ≤ maxSecretBytes)
    (textSmall : text.length < 2 ^ 16) (parsed : parse text = some target)
    (within : headerBytes + secret.length + text.length ≤ maximum)
    (rest : List UInt8) :
    readOpenRequest parse maximum (recordBytes secret text ++ rest) =
      .ok { secret, target } := by
  have secretSmall : secret.length < 2 ^ 16 := by
    unfold maxSecretBytes at sized
    omega
  have lengths := recordLengths_recordBytes secretSmall textSmall rest
  have width := length_recordBytes secret text
  unfold readOpenRequest
  rw [if_neg (by omega), if_neg (by rw [List.length_append]; omega), lengths]
  dsimp only
  rw [if_neg (by omega), if_neg (by rw [List.length_append]; omega),
    List.take_left' width, decodeOpen_recordBytes sized textSmall parsed]

/-- The client and the node agree on the record of every target whose text is
parsed back and is at most 58 bytes long. -/
theorem open_record_agrees (display : SocketAddr → List UInt8)
    (parse : List UInt8 → Option SocketAddr) (credential : List UInt8)
    (target : SocketAddr)
    (sized : 1 ≤ credential.length ∧ credential.length ≤ 128)
    (short : (display target).length ≤ 58)
    (parsedBack : parse (display target) = some target) :
    (∃ bytes, Client.encodeOpen display credential target = .ok bytes ∧
      encodeOpen display { secret := credential, target } = .ok bytes ∧
      (∀ rest, readOpenRequest parse deployedControlBytes (bytes ++ rest) =
        .ok { secret := credential, target }) ∧
      decodeOpen parse bytes = .ok { secret := credential, target }) ∧
    ∀ bytes request, decodeOpen parse bytes = .ok request →
      headerBytes ≤ bytes.length ∧
        bytes.length = headerBytes + (recordLengths bytes).1 +
          (recordLengths bytes).2 := by
  have textSmall : (display target).length < 2 ^ 16 := by omega
  constructor
  · refine ⟨recordBytes credential (display target), ?_, ?_, ?_, ?_⟩
    · unfold Client.encodeOpen
      dsimp only
      rw [if_neg (by omega), if_neg (by omega),
        if_neg (by unfold Client.openHeaderBytes; omega)]
      rfl
    · have nonempty : credential.isEmpty = false := by
        cases credential with
        | nil => simp at sized
        | cons _ _ => rfl
      unfold encodeOpen
      dsimp only
      rw [nonempty, if_neg (by decide), if_neg (by omega),
        if_neg (by unfold maxSecretBytes; omega), if_neg (by omega)]
      rfl
    · intro rest
      apply readOpenRequest_recordBytes sized textSmall parsedBack
      unfold headerBytes deployedControlBytes
      omega
    · exact decodeOpen_recordBytes sized textSmall parsedBack
  · intro bytes request decoded
    exact length_of_decodeOpen decoded

/-- The target `192.0.2.10:443` and its text. -/
def sampleTarget : SocketAddr := .v4 ⟨[192, 0, 2, 10], rfl⟩ 443

def sampleText : List UInt8 :=
  [49, 57, 50, 46, 48, 46, 50, 46, 49, 48, 58, 52, 52, 51]

/-- The longest credential for a sample target. -/
theorem open_record_agrees_sample : ∃ bytes,
    Client.encodeOpen (fun _ => sampleText) (List.replicate 128 7)
      sampleTarget = .ok bytes ∧
    ∀ rest, readOpenRequest
        (fun text => if text = sampleText then some sampleTarget else none)
        deployedControlBytes (bytes ++ rest) =
      .ok { secret := List.replicate 128 7, target := sampleTarget } := by
  obtain ⟨⟨bytes, written, _, accepted, _⟩, _⟩ :=
    open_record_agrees (fun _ => sampleText)
      (fun text => if text = sampleText then some sampleTarget else none)
      (List.replicate 128 7) sampleTarget (by simp) (by decide) rfl
  exact ⟨bytes, written, accepted⟩

end Velum.Node
