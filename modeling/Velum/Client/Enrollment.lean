import Velum.Client.RoutingRoundTrip
import Velum.Client.Updates
import Velum.Node.Enrollment

/-!
# Installing an enrollment

The client takes an enrollment from the text that a relay delivered, puts the
credential and the certificate into secure storage under references made from
the node id and the principal id, and adds the node to its index.
-/

namespace Velum.Client

open Foundation
open Foundation.Script
open Velum.Node

structure ClientEnrollment where
  nodeId : String
  nodeName : String
  relayAddress : String
  serverName : String
  principalId : Nat
  credential : List UInt8
  trustMode : String
  certificatePem : Option String
  deriving DecidableEq, Repr

/-- An integer of the language is one of 64 bits; a larger number in a JSON
text is read as a floating-point one. -/
def requirePrincipal (value : Json) : Except ClientException Nat :=
  match value with
  | .number (.ofNat principalId) =>
      if principalId < 2 ^ 63 then .ok principalId
      else .error (.format "Enrollment principal is invalid.")
  | _ => .error (.format "Enrollment principal is invalid.")

/-- `int.tryParse` of two characters with the radix 16: whitespace at the ends
is skipped, and the number may have a sign.  The bytes keep its lowest eight
bits. -/
def tryParseByte (first second : Char) : Option UInt8 :=
  match dartTrim [first, second] with
  | [digit] => (Hex.digitValue digit).map UInt8.ofNat
  | ['+', digit] => (Hex.digitValue digit).map UInt8.ofNat
  | ['-', digit] => (Hex.digitValue digit).map fun value =>
      0 - UInt8.ofNat value
  | [high, low] => do
      let high ← Hex.digitValue high
      let low ← Hex.digitValue low
      return UInt8.ofNat (16 * high + low)
  | _ => none

/-- The pairs are cut in units of UTF-16; a character of two units is no digit
in either of its halves. -/
def parsePairs : Foundation.Text → Option (List UInt8)
  | [] => some []
  | [_] => none
  | first :: second :: rest => do
      let byte ← tryParseByte first second
      let bytes ← parsePairs rest
      return byte :: bytes

/-- `_decodeHex`, with the message of its caller's file. -/
def decodeHex (source : Foundation.Text) (message : String) :
    Except ClientException (List UInt8) :=
  if source = [] then .error (.format message)
  else okOr (parsePairs source) (.format message)

def decodeCredential (text : String) : Except ClientException (List UInt8) :=
  decodeHex text.toList "Enrollment credential is invalid."

/-- A credential in the secure storage may have whitespace around it. -/
def decodeStored (text : String) : Except ClientException (List UInt8) :=
  decodeHex (dartTrim text.toList)
    "Credential must contain hexadecimal byte pairs."

theorem tryParseByte_byteDigits (byte : UInt8) :
    tryParseByte (Nat.digitChar (byte.toNat / 16))
      (Nat.digitChar (byte.toNat % 16)) = some byte := by
  have every : ∀ high low : Fin 16,
      tryParseByte (Nat.digitChar high) (Nat.digitChar low) =
        some (UInt8.ofNat (16 * high + low)) := by
    decide +kernel
  have bound := byte.toNat_lt
  have read := every ⟨byte.toNat / 16, by omega⟩ ⟨byte.toNat % 16, by omega⟩
  rw [Nat.div_add_mod, UInt8.ofNat_toNat] at read
  exact read

theorem parsePairs_encode (bytes : List UInt8) :
    parsePairs (bytes.flatMap Hex.byteDigits) = some bytes := by
  induction bytes with
  | nil => rfl
  | cons byte rest induction =>
      rw [List.flatMap_cons, Hex.byteDigits, List.cons_append,
        List.cons_append, List.nil_append, parsePairs,
        tryParseByte_byteDigits, induction]
      rfl

theorem decodeHex_encode {bytes : List UInt8} (present : bytes ≠ [])
    (message : String) :
    decodeHex (Hex.encode bytes).toList message = .ok bytes := by
  have written : (Hex.encode bytes).toList ≠ [] := by
    cases bytes with
    | nil => exact absurd rfl present
    | cons byte rest => simp [Hex.encode, Hex.byteDigits]
  rw [decodeHex, if_neg written, Hex.encode, String.toList_ofList,
    parsePairs_encode]
  rfl

/-- What is written has no whitespace around it. -/
theorem decodeStored_encode {bytes : List UInt8} (present : bytes ≠ []) :
    decodeStored (Hex.encode bytes) = .ok bytes := by
  have digits : ∀ value : Fin 16, 33 ≤ (Nat.digitChar value).toNat ∧
      (Nat.digitChar value).toNat ≤ 126 := by decide
  have visible : ∀ character ∈ (Hex.encode bytes).toList,
      33 ≤ character.toNat ∧ character.toNat ≤ 126 := by
    intro character member
    rw [Hex.encode, String.toList_ofList] at member
    obtain ⟨byte, _, inside⟩ := List.mem_flatMap.mp member
    have bound := byte.toNat_lt
    rw [Hex.byteDigits, List.mem_pair] at inside
    rcases inside with rfl | rfl
    · exact digits ⟨byte.toNat / 16, by omega⟩
    · exact digits ⟨byte.toNat % 16, by omega⟩
  rw [decodeStored, dartTrim_of_visible visible, decodeHex_encode present]

namespace ClientEnrollment

variable {Text : Type}

def decodeDocument (codec : JsonCodec Text) (source : Text) :
    Except ClientException (List (String × Json)) :=
  match codec.decode source with
  | some (.object fields) => .ok fields
  | some _ => .error (.format "Enrollment document is invalid.")
  | none => .error (.format "Unexpected character")

def requireType (kind version : Json) : Except ClientException Unit :=
  match kind, version with
  | .string "velum-enrollment", .number 1 => .ok ()
  | _, _ => .error (.format "Enrollment type or version is invalid.")

def requireTrustKeys (trust : List (String × Json)) (trustMode : String) :
    Except ClientException Unit :=
  match trustMode with
  | "system" => requireKeys trust ["mode"]
  | "custom-ca" => requireKeys trust ["mode", "certificate-pem"]
  | _ => .error (.format "Enrollment trust mode is invalid.")

def requireCertificate (trust : List (String × Json)) (trustMode : String) :
    Except ClientException (Option String) :=
  if trustMode = "custom-ca" then
    (requireString (Json.field trust "certificate-pem") "CA certificate").map
      some
  else .ok none

def parseCanonical (codec : JsonCodec Text) (source : Text) :
    Except ClientException ClientEnrollment := do
  let decoded ← decodeDocument codec source
  requireKeys decoded
    ["kind", "version", "node", "principal-id", "credential", "trust"]
  requireType (Json.field decoded "kind") (Json.field decoded "version")
  let node ← requireMap (Json.field decoded "node") "node"
  requireKeys node ["id", "name", "relay-address", "server-name"]
  let trust ← requireMap (Json.field decoded "trust") "trust"
  let trustMode ← requireString (Json.field trust "mode") "trust mode"
  requireTrustKeys trust trustMode
  let principalId ← requirePrincipal (Json.field decoded "principal-id")
  let text ← requireString (Json.field decoded "credential") "credential"
  let credential ← decodeCredential text
  refuse (credential.length ≠ 32)
    (.format "Enrollment credential must be 32 bytes.")
  return {
    nodeId := ← requireString (Json.field node "id") "node id"
    nodeName := ← requireString (Json.field node "name") "node name"
    relayAddress := ← requireString (Json.field node "relay-address")
      "relay address"
    serverName := ← requireString (Json.field node "server-name")
      "server name"
    principalId
    credential
    trustMode
    certificatePem := ← requireCertificate trust trustMode }

def credentialRef (enrollment : ClientEnrollment) : String :=
  "secret://velum/enrollment/" ++ enrollment.nodeId ++ "/" ++
    enrollment.principalId.repr

def certificateRef (enrollment : ClientEnrollment) : Option String :=
  enrollment.certificatePem.map fun _ => enrollment.credentialRef ++ "/ca"

def installedNode (enrollment : ClientEnrollment) :
    InstalledEnrollmentNode where
  nodeId := enrollment.nodeId
  nodeName := enrollment.nodeName
  relayAddress := enrollment.relayAddress
  serverName := enrollment.serverName
  credentialRef := enrollment.credentialRef
  trustMode := enrollment.trustMode
  certificateRef := enrollment.certificateRef

end ClientEnrollment

inductive ImportFailure where
  | profile (failure : EnrollmentFailure)
  | client (failure : ClientException)
  deriving DecidableEq, Repr

/-- The native library validates and rewrites the text before it is
projected. -/
def normalize {Text : Type} (codec : EnrollmentCodec Text)
    (acceptsServerName : String → Bool) (source : Text) :
    Except EnrollmentFailure Text := do
  let bundle ← EnrollmentBundle.fromJson acceptsServerName codec source
  bundle.toCanonicalJson acceptsServerName codec.toJsonCodec

def importEnrollment {Text : Type} (codec : EnrollmentCodec Text)
    (acceptsServerName : String → Bool) (source : Text) :
    Except ImportFailure ClientEnrollment := do
  let canonical ← (normalize codec acceptsServerName source).mapError .profile
  (ClientEnrollment.parseCanonical codec.toJsonCodec canonical).mapError
    .client

/-! ## What the client makes of an issued enrollment -/

section Import

variable {Text : Type} {codec : EnrollmentCodec Text}
  {acceptsServerName : String → Bool} {options : IssueOptions}
  {original : List CredentialConfig} {issued : Issued Text}

def trustModeOf : EnrollmentTrust → String
  | .system => "system"
  | .customCa _ => "custom-ca"

def certificateOf : EnrollmentTrust → Option String
  | .system => none
  | .customCa certificatePem => some certificatePem

def enrollmentOf (issued : Issued Text) : ClientEnrollment where
  nodeId := issued.bundle.node.id
  nodeName := issued.bundle.node.name
  relayAddress := issued.bundle.node.relayAddress.text
  serverName := issued.bundle.node.serverName
  principalId := issued.bundle.principalId.toNat
  credential := issued.secret
  trustMode := trustModeOf issued.bundle.trust
  certificatePem := certificateOf issued.bundle.trust

theorem requirePrincipal_of_lt {principalId : Nat}
    (small : principalId < 2 ^ 63) :
    requirePrincipal (.number principalId) = .ok principalId :=
  if_pos small

theorem requireString_mode (trust : EnrollmentTrust) :
    requireString
        (Json.field (EnrollmentBundle.trustFields trust) "mode")
        "trust mode" = .ok (trustModeOf trust) := by
  cases trust with
  | system => rfl
  | customCa certificatePem => rfl

theorem requireTrustKeys_fields (trust : EnrollmentTrust) :
    ClientEnrollment.requireTrustKeys (EnrollmentBundle.trustFields trust)
      (trustModeOf trust) = .ok () := by
  cases trust with
  | system => rfl
  | customCa certificatePem => rfl

theorem requireCertificate_fields {trust : EnrollmentTrust}
    (present : ∀ certificatePem, trust = .customCa certificatePem →
      certificatePem ≠ "") :
    ClientEnrollment.requireCertificate (EnrollmentBundle.trustFields trust)
      (trustModeOf trust) = .ok (certificateOf trust) := by
  cases trust with
  | system => rfl
  | customCa certificatePem =>
      exact congrArg (Except.map some)
        (requireString_of_ne (present certificatePem rfl))

theorem portable_enrollment {bundle : EnrollmentBundle}
    (small : bundle.principalId.toNat < 2 ^ 63) :
    bundle.toJson.Portable := by
  have version := bundle.version.toNat_lt
  have trust : (Json.object (EnrollmentBundle.trustFields
      bundle.trust)).Portable := by
    cases bundle.trust with
    | system => simp [EnrollmentBundle.trustFields, Json.Portable,
        Json.PortableFields]
    | customCa certificatePem => simp [EnrollmentBundle.trustFields,
        Json.Portable, Json.PortableFields]
  simp [EnrollmentBundle.toJson, EnrollmentBundle.jsonFields, Json.Portable,
    Json.PortableFields] at trust ⊢
  exact ⟨by omega, by omega, trust⟩

theorem parseCanonical_issued
    (issuedBy : IssuedBy codec acceptsServerName options original issued) :
    ClientEnrollment.parseCanonical codec.toJsonCodec
        (codec.encode issued.bundle.toJson) = .ok (enrollmentOf issued) := by
  obtain ⟨_, kind, version, id, blank, certificate⟩ :=
    validateAndNormalize_eq_ok issuedBy.valid
  have name : issued.bundle.node.name ≠ "" := by
    intro empty
    rw [empty] at blank
    cases blank
  have server : issued.bundle.node.serverName ≠ "" := by
    rw [← issuedBy.named]
    exact name
  have some_ : issued.secret ≠ [] := by
    intro empty
    have length := issuedBy.secretLength
    rw [empty] at length
    cases length
  have decoded : decodeCredential issued.bundle.credential =
      .ok issued.secret := by
    rw [decodeCredential, issuedBy.credential, decodeHex_encode some_]
  have written : issued.bundle.credential ≠ "" := by
    intro empty
    rw [empty] at decoded
    cases decoded
  have long : ¬issued.secret.length ≠ 32 := not_not.mpr issuedBy.secretLength
  have document : ClientEnrollment.decodeDocument codec.toJsonCodec
      (codec.encode issued.bundle.toJson) = .ok issued.bundle.jsonFields := by
    rw [ClientEnrollment.decodeDocument, codec.decode_encode _
      (portable_enrollment issuedBy.small)]
    rfl
  refine (bind_of_eq_ok document).trans ?_
  refine (bind_of_eq_ok rfl).trans ?_
  have typed : ClientEnrollment.requireType
      (Json.field issued.bundle.jsonFields "kind")
      (Json.field issued.bundle.jsonFields "version") = .ok () := by
    change ClientEnrollment.requireType (.string issued.bundle.kind)
      (.number issued.bundle.version.toNat) = .ok ()
    rw [kind, version]
    rfl
  refine (bind_of_eq_ok typed).trans ?_
  refine (bind_of_eq_ok rfl).trans ?_
  refine (bind_of_eq_ok rfl).trans ?_
  refine (bind_of_eq_ok rfl).trans ?_
  refine (bind_of_eq_ok (requireString_mode _)).trans ?_
  refine (bind_of_eq_ok (requireTrustKeys_fields _)).trans ?_
  refine (bind_of_eq_ok (requirePrincipal_of_lt issuedBy.small)).trans ?_
  refine (bind_of_eq_ok (requireString_of_ne written)).trans ?_
  refine (bind_of_eq_ok decoded).trans ?_
  refine (bind_of_eq_ok (if_neg long)).trans ?_
  refine (bind_of_eq_ok (requireString_of_ne id)).trans ?_
  refine (bind_of_eq_ok (requireString_of_ne name)).trans ?_
  refine (bind_of_eq_ok (requireString_of_ne
    issued.bundle.node.relayAddress.text_ne_empty)).trans ?_
  refine (bind_of_eq_ok (requireString_of_ne server)).trans ?_
  refine (bind_of_eq_ok (requireCertificate_fields certificate)).trans ?_
  rfl

/-- The client takes every issued enrollment whose text is not too long. -/
theorem importEnrollment_issued
    (issuedBy : IssuedBy codec acceptsServerName options original issued)
    (fits : codec.bytes issued.delivered ≤ maxEnrollmentBytes) :
    importEnrollment codec acceptsServerName issued.delivered =
      .ok (enrollmentOf issued) := by
  have read : codec.readBundle issued.delivered = .ok issued.bundle := by
    rw [issuedBy.delivered]
    cases options.delivery with
    | qr => exact codec.readBundle_encode _
    | file => exact codec.readBundle_withNewline _
  have accepted : EnrollmentBundle.fromJson acceptsServerName codec
      issued.delivered = .ok issued.bundle := by
    refine (bind_of_eq_ok (if_neg (Nat.not_lt.mpr fits))).trans ?_
    rw [read]
    exact issuedBy.valid
  have normal : normalize codec acceptsServerName issued.delivered =
      .ok (codec.encode issued.bundle.toJson) := by
    refine (bind_of_eq_ok accepted).trans ?_
    exact bind_of_eq_ok issuedBy.valid
  unfold importEnrollment
  rw [normal]
  refine (bind_of_eq_ok rfl).trans ?_
  rw [parseCanonical_issued issuedBy]
  rfl

theorem fits_of_importEnrollment {source : Text}
    {enrollment : ClientEnrollment}
    (accepted : importEnrollment codec acceptsServerName source =
      .ok enrollment) : codec.bytes source ≤ maxEnrollmentBytes := by
  obtain ⟨_, normal, _⟩ := bind_eq_ok accepted
  obtain ⟨_, read, _⟩ := bind_eq_ok (mapError_eq_ok normal)
  obtain ⟨_, sized, _⟩ := bind_eq_ok read
  exact Nat.not_lt.mp (refuse_eq_ok sized)

end Import

end Velum.Client
