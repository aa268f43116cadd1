import Velum.Foundation.Checked
import Velum.Foundation.Hex
import Velum.Foundation.JsonReader
import Velum.Node.HexDecoding
import Velum.Protocol.AddressText

/-!
# Issuing and revoking client credentials

A relay keeps its credentials in its configuration.  An issue takes the next
principal id after the largest one that is configured now, writes a fresh
secret for it and delivers the enrollment of one client.  A revoke takes a
credential out again, the one with the largest id included.
-/

namespace Velum.Node

open Foundation

structure CredentialConfig where
  id : UInt64
  name : Option String
  secretFile : String
  deriving DecidableEq, Repr

/-- A socket address, as the text that it is shown as and read from. -/
structure RelayAddress where
  text : String
  shown : Protocol.AddressText.isShown text.toList = true
  deriving DecidableEq, Repr

namespace RelayAddress

def isUnspecified (address : RelayAddress) : Bool :=
  (Protocol.AddressText.parseSocketAddr address.text.toList).any fun found =>
    match found.ip with
    | .v4 octets => octets.toList.all (· == 0)
    | .v6 octets => octets.toList.all (· == 0)

theorem text_ne_empty (address : RelayAddress) : address.text ≠ "" := by
  intro empty
  apply Protocol.AddressText.ne_nil_of_isShown address.shown
  rw [empty]
  rfl

end RelayAddress

inductive EnrollmentTrust where
  | system
  | customCa (certificatePem : String)
  deriving DecidableEq, Repr

structure EnrollmentNode where
  id : String
  name : String
  relayAddress : RelayAddress
  serverName : String
  deriving DecidableEq, Repr

structure EnrollmentBundle where
  kind : String
  version : UInt16
  node : EnrollmentNode
  principalId : UInt64
  credential : String
  trust : EnrollmentTrust
  deriving DecidableEq, Repr

inductive ProfileErrorKind where
  | syntaxError
  | unsupportedVersion
  | limit
  | validation
  deriving DecidableEq, Repr

structure ProfileError where
  kind : ProfileErrorKind
  message : String
  deriving DecidableEq, Repr

def invalid (message : String) : ProfileError := ⟨.validation, message⟩

/-- A call that ends without an enrollment has refused it, or has panicked. -/
inductive EnrollmentFailure where
  | refused (error : ProfileError)
  | panicked (cause : ExpectPanic)
  deriving DecidableEq, Repr

def EnrollmentFailure.message : EnrollmentFailure → String
  | .refused error => error.message
  | .panicked cause => cause.message

/-- The characters of the property White_Space. -/
def isWhiteSpace (character : Char) : Bool :=
  let point := character.toNat
  (0x9 ≤ point ∧ point ≤ 0xD) ∨ point = 0x20 ∨ point = 0x85 ∨
    point = 0xA0 ∨ point = 0x1680 ∨ (0x2000 ≤ point ∧ point ≤ 0x200A) ∨
    point = 0x2028 ∨ point = 0x2029 ∨ point = 0x202F ∨ point = 0x205F ∨
    point = 0x3000

def isControl (character : Char) : Bool :=
  let point := character.toNat
  point ≤ 0x1F ∨ (0x7F ≤ point ∧ point ≤ 0x9F)

def isBlank (text : String) : Bool := text.toList.all isWhiteSpace

def makeAsciiLowercase (text : String) : String :=
  String.ofList (text.toList.map Char.toLower)

/-! ## The enrollment -/

def enrollmentKind : String := "velum-enrollment"
def enrollmentVersion : UInt16 := 1
def maxEnrollmentBytes : Nat := 16 * 1024
def credentialBytes : Nat := 32
def maxCertificateBytes : Nat := 12 * 1024

/-- The check that raises an error for a bad value. -/
def refuse {Error : Type} (bad : Prop) [Decidable bad] (error : Error) :
    Except Error Unit :=
  if bad then .error error else .ok ()

theorem refuse_eq_ok {Error : Type} {bad : Prop} [Decidable bad]
    {error : Error} {passed : Unit} (accepted : refuse bad error = .ok passed) :
    ¬bad := by
  intro held
  rw [refuse, if_pos held] at accepted
  cases accepted

theorem mapError_eq_ok {Error Other Value : Type}
    {result : Except Error Value} {wrap : Error → Other} {value : Value}
    (accepted : result.mapError wrap = .ok value) : result = .ok value := by
  cases result with
  | error error => cases accepted
  | ok other =>
      cases accepted
      rfl

def validateIdentifier (value field : String) : Except ProfileError Unit :=
  let plain (character : Char) : Bool :=
    character.isLower || character.isDigit
  let allowed : Bool := value.toList.zipIdx.all fun (character, index) =>
    plain character ||
      (index > 0 && (character == '-' || character == '_'))
  refuse (value = "" ∨ value.utf8ByteSize > 64 ∨ allowed = false)
    (invalid (field ++ " is invalid"))

/-- The text occurs somewhere in the other one. -/
def occursIn (text whole : String) : Bool :=
  whole.toList.tails.any text.toList.isPrefixOf

/-- The decoder of the credentials of enrollments. -/
def decodeHex (value : Text) : Outcome ExpectPanic ProfileError (List UInt8) :=
  let bytes := Text.utf8 value
  if bytes = [] ∨ bytes.length % 2 ≠ 0 then
    .err (invalid "enrollment credential must be hexadecimal")
  else
    decodePairs "hexadecimal input is UTF-8"
      (invalid "enrollment credential must be hexadecimal")
      (chunksExact2 bytes)

namespace EnrollmentBundle

variable (acceptsServerName : String → Bool)

def validateCredential (credential : String) :
    Except EnrollmentFailure Unit :=
  match decodeHex credential.toList with
  | .ok bytes => refuse (bytes.length ≠ credentialBytes)
      (.refused (invalid
        "enrollment credential must contain exactly 32 bytes"))
  | .err error => .error (.refused error)
  | .panic cause => .error (.panicked cause)

def validateTrust : EnrollmentTrust → Except ProfileError Unit
  | .system => .ok ()
  | .customCa certificatePem =>
      refuse (certificatePem = "" ∨
          certificatePem.utf8ByteSize > maxCertificateBytes ∨
          occursIn "-----BEGIN CERTIFICATE-----" certificatePem = false)
        (invalid "enrollment CA certificate is invalid or too large")

/-- What server names are accepted (IP addresses and the domains of the
routing rules) is a parameter. -/
def validateAndNormalize (bundle : EnrollmentBundle) :
    Except EnrollmentFailure EnrollmentBundle := do
  refuse (bundle.kind ≠ enrollmentKind)
    (.refused (invalid "enrollment kind is invalid"))
  refuse (bundle.version ≠ enrollmentVersion)
    (.refused ⟨.unsupportedVersion, "unsupported enrollment version"⟩)
  (validateIdentifier bundle.node.id "enrollment node id").mapError .refused
  refuse (isBlank bundle.node.name ∨ bundle.node.name.utf8ByteSize > 128)
    (.refused (invalid "enrollment node name is invalid"))
  refuse bundle.node.relayAddress.isUnspecified
    (.refused (invalid "enrollment relay address must be client reachable"))
  refuse (acceptsServerName bundle.node.serverName = false)
    (.refused (invalid "server name is invalid"))
  validateCredential bundle.credential
  (validateTrust bundle.trust).mapError .refused
  return { bundle with credential := makeAsciiLowercase bundle.credential }

def new (node : EnrollmentNode) (principalId : UInt64)
    (credential : List UInt8) (trust : EnrollmentTrust) :
    Except EnrollmentFailure EnrollmentBundle :=
  validateAndNormalize acceptsServerName {
    kind := enrollmentKind
    version := enrollmentVersion
    node
    principalId
    credential := Hex.encode credential
    trust }

def trustFields : EnrollmentTrust → List (String × Json)
  | .system => [("mode", .string "system")]
  | .customCa certificatePem => [
      ("mode", .string "custom-ca"),
      ("certificate-pem", .string certificatePem)]

def jsonFields (bundle : EnrollmentBundle) : List (String × Json) := [
  ("kind", .string bundle.kind),
  ("version", .number bundle.version.toNat),
  ("node", .object [
    ("id", .string bundle.node.id),
    ("name", .string bundle.node.name),
    ("relay-address", .string bundle.node.relayAddress.text),
    ("server-name", .string bundle.node.serverName)]),
  ("principal-id", .number bundle.principalId.toNat),
  ("credential", .string bundle.credential),
  ("trust", .object (trustFields bundle.trust))]

def toJson (bundle : EnrollmentBundle) : Json := .object bundle.jsonFields

def toCanonicalJson {Text : Type} (codec : JsonCodec Text)
    (bundle : EnrollmentBundle) : Except EnrollmentFailure Text := do
  let normalized ← bundle.validateAndNormalize acceptsServerName
  return codec.encode normalized.toJson

end EnrollmentBundle

/-- The texts of enrollments.  The relay and the client's native library write
and read them by derived code, which reads back what was written, a newline at
the end or not. -/
structure EnrollmentCodec (Text : Type) extends JsonCodec Text where
  bytes : Text → Nat
  withNewline : Text → Text
  readBundle : Text → Except String EnrollmentBundle
  readBundle_encode : ∀ bundle : EnrollmentBundle,
    readBundle (encode bundle.toJson) = .ok bundle
  readBundle_withNewline : ∀ bundle : EnrollmentBundle,
    readBundle (withNewline (encode bundle.toJson)) = .ok bundle

namespace EnrollmentBundle

def readTrust : Json → Except String EnrollmentTrust
  | .object [("mode", .string "system")] => .ok .system
  | .object [("mode", .string "custom-ca"),
      ("certificate-pem", .string certificatePem)] =>
      .ok (.customCa certificatePem)
  | _ => .error "invalid type"

/-- The fields in the order in which they are written. -/
def ofJson : Json → Except String EnrollmentBundle
  | .object [("kind", .string kind), ("version", .number version),
      ("node", .object [("id", .string id), ("name", .string name),
        ("relay-address", .string address),
        ("server-name", .string serverName)]),
      ("principal-id", .number principalId),
      ("credential", .string credential), ("trust", trust)] => do
      let trust ← readTrust trust
      if shown : Protocol.AddressText.isShown address.toList = true then
        return {
          kind
          version := UInt16.ofNat version.toNat
          node := ⟨id, name, ⟨address, shown⟩, serverName⟩
          principalId := UInt64.ofNat principalId.toNat
          credential
          trust }
      else throw "invalid socket address syntax"
  | _ => .error "invalid type"

theorem ofJson_toJson (bundle : EnrollmentBundle) :
    ofJson bundle.toJson = .ok bundle := by
  obtain ⟨kind, version, ⟨id, name, ⟨address, shown⟩, serverName⟩,
    principalId, credential, trust⟩ := bundle
  cases trust with
  | system => simp [toJson, jsonFields, trustFields, ofJson, readTrust, shown]
  | customCa certificatePem =>
      simp [toJson, jsonFields, trustFields, ofJson, readTrust, shown]

def readText (text : Text) : Except String EnrollmentBundle :=
  match Json.read (Text.trimMatches Json.isSpace text) with
  | some value => ofJson value
  | none => .error "expected value"

/-- Compact texts of enrollments, with whitespace at their ends. -/
def texts : EnrollmentCodec Text where
  toJsonCodec := Json.texts
  bytes text := (Text.utf8 text).length
  withNewline text := text ++ ['\n']
  readBundle := readText
  readBundle_encode bundle := by
    change readText (Json.write (.object bundle.jsonFields)) = _
    rw [readText, Json.read_object]
    exact ofJson_toJson bundle
  readBundle_withNewline bundle := by
    change readText (Json.write (.object bundle.jsonFields) ++ ['\n']) = _
    rw [readText, Json.read_line]
    exact ofJson_toJson bundle

variable {Text : Type} (acceptsServerName : String → Bool)

def fromJson (codec : EnrollmentCodec Text) (source : Text) :
    Except EnrollmentFailure EnrollmentBundle := do
  refuse (codec.bytes source > maxEnrollmentBytes)
    (.refused ⟨.limit, "enrollment exceeds 16 KiB"⟩)
  let bundle ← (codec.readBundle source).mapError fun message =>
    .refused ⟨.syntaxError, message⟩
  bundle.validateAndNormalize acceptsServerName

end EnrollmentBundle

/-! ## Issue -/

inductive Delivery where
  | qr
  | file
  deriving DecidableEq, Repr

structure IssueOptions where
  clientName : String
  relayAddress : RelayAddress
  serverName : String
  customCa : Bool
  delivery : Delivery

/-- What an issue or a revoke does outside of its own computation.  The
configuration is written as TOML, whose integers are 64-bit signed ones. -/
structure RelayHost (Text : Type) where
  configParent : Option String
  readSecret : String → Except String (List UInt8)
  readCertificate : Except String String
  newSecret : Except String { bytes : List UInt8 // bytes.length = 32 }
  prepareQr : Text → Except String Unit
  writeSecret : String → Except String Unit
  removeSecret : String → Except String Unit
  writeConfig : List CredentialConfig → Except String Unit
  deliver : Text → Except String Unit
  ids_of_writeConfig : ∀ {credentials}, writeConfig credentials = .ok () →
    ∀ credential ∈ credentials, credential.id.toNat < 2 ^ 63

/-- An enrollment that was delivered. -/
structure Issued (Text : Type) where
  bundle : EnrollmentBundle
  secret : List UInt8
  delivered : Text

def validateClientName (name : String) : Except String Unit :=
  refuse (isBlank name ∨ name.utf8ByteSize > 64 ∨ name.toList.any isControl)
    "client name must contain 1 to 64 printable characters"

def slug (value : String) : String :=
  let mapped := value.toList.map fun character =>
    if character.isAlphanum then character.toLower else '-'
  let trimmed := ((mapped.dropWhile (· = '-')).reverse.dropWhile
    (· = '-')).reverse
  if trimmed = [] then "client" else String.ofList trimmed

def largestId (credentials : List CredentialConfig) : UInt64 :=
  (credentials.map (·.id)).foldl max 0

section Issue

variable {Text : Type} (codec : EnrollmentCodec Text)
  (acceptsServerName : String → Bool) (host : RelayHost Text)

/-- Everything that is computed before something is written. -/
structure Prepared (Text : Type) where
  principalId : UInt64
  secretFile : String
  secret : List UInt8
  bundle : EnrollmentBundle
  canonical : Text

def requireSecret (credential : CredentialConfig) : Except String Unit := do
  let secret ← host.readSecret credential.secretFile
  refuse (secret.length ≠ 32) ("credential " ++ credential.id.toNat.repr ++
    " is not 32 bytes; rotate legacy credentials before issuing an enrollment")

def issueTrust (customCa : Bool) : Except String EnrollmentTrust :=
  if customCa then host.readCertificate.map .customCa else .ok .system

def okOr {Error Value : Type} (value : Option Value) (error : Error) :
    Except Error Value :=
  value.elim (.error error) .ok

/-- A code that does not fit the terminal is refused. -/
def prepareDelivery (delivery : Delivery) (canonical : Text) :
    Except String Unit :=
  match delivery with
  | .qr => host.prepareQr canonical
  | .file => .ok ()

def prepareIssue (options : IssueOptions)
    (original : List CredentialConfig) : Except String (Prepared Text) := do
  validateClientName options.clientName
  original.forM (requireSecret host)
  refuse (∃ credential ∈ original, credential.name = some options.clientName)
    ("client " ++ options.clientName ++ " is already configured")
  let principalId ← okOr (checkedAdd (largestId original) 1)
    "principal id space is exhausted"
  let configParent ← okOr host.configParent
    "configuration path has no parent directory"
  let secret ← host.newSecret
  let trust ← issueTrust host options.customCa
  let bundle ← (EnrollmentBundle.new acceptsServerName {
      id := "relay-" ++ principalId.toNat.repr
      name := options.serverName
      relayAddress := options.relayAddress
      serverName := options.serverName } principalId secret.1
      trust).mapError fun error => "invalid enrollment: " ++ error.message
  let canonical ← (bundle.toCanonicalJson acceptsServerName
    codec.toJsonCodec).mapError
      fun error => "cannot encode enrollment: " ++ error.message
  prepareDelivery host options.delivery canonical
  return {
    principalId
    secretFile := configParent ++ "/credentials/" ++
      slug options.clientName ++ "-" ++ principalId.toNat.repr ++ ".hex"
    secret := secret.1
    bundle
    canonical }

/-- The text that the client is given. -/
def deliveredText (delivery : Delivery) (canonical : Text) : Text :=
  match delivery with
  | .qr => canonical
  | .file => codec.withNewline canonical

/-- The writing of the secret and of the configuration, and the delivery.  The
second component is the configuration that is left. -/
def commitIssue (options : IssueOptions) (original : List CredentialConfig)
    (prepared : Prepared Text) :
    Except String (Issued Text) × List CredentialConfig :=
  let updated := original ++ [{
    id := prepared.principalId
    name := some options.clientName
    secretFile := prepared.secretFile }]
  let delivered := deliveredText codec options.delivery prepared.canonical
  match host.writeSecret prepared.secretFile with
  | .error error => (.error error, original)
  | .ok _ =>
      match host.writeConfig updated with
      | .error error => (.error error, original)
      | .ok _ =>
          match host.deliver delivered with
          | .ok _ =>
              (.ok ⟨prepared.bundle, prepared.secret, delivered⟩, updated)
          | .error error =>
              match host.writeConfig original with
              | .ok _ => (.error error, original)
              | .error rollback =>
                  (.error (error ++ "; configuration rollback also failed: " ++
                    rollback), updated)

def issue (options : IssueOptions) (original : List CredentialConfig) :
    Except String (Issued Text) × List CredentialConfig :=
  match prepareIssue codec acceptsServerName host options original with
  | .error error => (.error error, original)
  | .ok prepared => commitIssue codec host options original prepared

inductive Selector where
  | id (id : UInt64)
  | name (name : String)

def Selector.selects (selector : Selector) (credential : CredentialConfig) :
    Bool :=
  match selector with
  | .id wanted => credential.id = wanted
  | .name wanted => credential.name = some wanted

def revoke (selector : Selector) (credentials : List CredentialConfig) :
    Except String Unit × List CredentialConfig :=
  if credentials.length = 1 then
    (.error "cannot revoke the final configured credential", credentials)
  else
    match credentials.find? selector.selects with
    | none => (.error "client credential was not found", credentials)
    | some removed =>
        let kept := credentials.eraseP selector.selects
        match host.writeConfig kept with
        | .error error => (.error error, credentials)
        | .ok _ =>
            match host.removeSecret removed.secretFile with
            | .ok _ => (.ok (), kept)
            | .error error =>
                (.error ("principal " ++ removed.id.toNat.repr ++
                  " was revoked, but credential cleanup failed at " ++
                  removed.secretFile ++ ": " ++ error), kept)

/-! ## What an issue delivers -/

variable {codec acceptsServerName host}

/-- An accepted enrollment is left as it is but for the case of its
credential. -/
theorem validateAndNormalize_eq_ok {bundle normalized : EnrollmentBundle}
    (accepted : bundle.validateAndNormalize acceptsServerName =
      .ok normalized) :
    normalized =
        { bundle with credential := makeAsciiLowercase bundle.credential } ∧
      bundle.kind = enrollmentKind ∧ bundle.version = enrollmentVersion ∧
      bundle.node.id ≠ "" ∧ isBlank bundle.node.name = false ∧
      ∀ certificatePem, bundle.trust = .customCa certificatePem →
        certificatePem ≠ "" := by
  obtain ⟨_, kind, accepted⟩ := bind_eq_ok accepted
  obtain ⟨_, version, accepted⟩ := bind_eq_ok accepted
  obtain ⟨_, id, accepted⟩ := bind_eq_ok accepted
  obtain ⟨_, name, accepted⟩ := bind_eq_ok accepted
  obtain ⟨_, _, accepted⟩ := bind_eq_ok accepted
  obtain ⟨_, _, accepted⟩ := bind_eq_ok accepted
  obtain ⟨_, _, accepted⟩ := bind_eq_ok accepted
  obtain ⟨_, trust, accepted⟩ := bind_eq_ok accepted
  have identifier := refuse_eq_ok (mapError_eq_ok id)
  have named := refuse_eq_ok name
  simp only [not_or, Bool.not_eq_true] at identifier named
  refine ⟨?_, not_not.mp (refuse_eq_ok kind),
    not_not.mp (refuse_eq_ok version), identifier.1, named.1, ?_⟩
  · cases accepted
    rfl
  · intro certificatePem custom empty
    rw [custom] at trust
    exact refuse_eq_ok (mapError_eq_ok trust) (.inl empty)

variable (codec acceptsServerName) in
/-- What is known of an enrollment that an issue has delivered. -/
structure IssuedBy (options : IssueOptions)
    (original : List CredentialConfig) (issued : Issued Text) : Prop where
  principal : issued.bundle.principalId.toNat = (largestId original).toNat + 1
  small : issued.bundle.principalId.toNat < 2 ^ 63
  nodeId : issued.bundle.node.id =
    "relay-" ++ issued.bundle.principalId.toNat.repr
  named : issued.bundle.node.name = issued.bundle.node.serverName
  secretLength : issued.secret.length = 32
  credential : issued.bundle.credential = Hex.encode issued.secret
  valid : issued.bundle.validateAndNormalize acceptsServerName =
    .ok issued.bundle
  delivered : issued.delivered = deliveredText codec options.delivery
    (codec.encode issued.bundle.toJson)

theorem okOr_eq_ok {Error Value : Type} {value : Option Value}
    {error : Error} {found : Value}
    (accepted : okOr value error = .ok found) : value = some found := by
  cases value with
  | none => cases accepted
  | some other =>
      cases accepted
      rfl

/-- A new enrollment is normal from the start. -/
theorem new_eq_ok {node : EnrollmentNode} {principalId : UInt64}
    {secret : List UInt8} {trust : EnrollmentTrust}
    {bundle : EnrollmentBundle}
    (accepted : EnrollmentBundle.new acceptsServerName node principalId secret
      trust = .ok bundle) :
    bundle = ⟨enrollmentKind, enrollmentVersion, node, principalId,
        Hex.encode secret, trust⟩ ∧
      bundle.validateAndNormalize acceptsServerName = .ok bundle := by
  obtain ⟨normalized, _⟩ := validateAndNormalize_eq_ok accepted
  rw [makeAsciiLowercase, Hex.map_toLower_encode,
    String.ofList_toList] at normalized
  refine ⟨normalized, ?_⟩
  rw [EnrollmentBundle.new] at accepted
  rw [normalized] at accepted ⊢
  exact accepted

theorem issuedBy_of_prepared {options : IssueOptions}
    {original : List CredentialConfig} {prepared : Prepared Text}
    (accepted : prepareIssue codec acceptsServerName host options original =
      .ok prepared) (small : prepared.principalId.toNat < 2 ^ 63) :
    IssuedBy codec acceptsServerName options original
      ⟨prepared.bundle, prepared.secret,
        deliveredText codec options.delivery prepared.canonical⟩ := by
  obtain ⟨_, _, accepted⟩ := bind_eq_ok accepted
  obtain ⟨_, _, accepted⟩ := bind_eq_ok accepted
  obtain ⟨_, _, accepted⟩ := bind_eq_ok accepted
  obtain ⟨principalId, next, accepted⟩ := bind_eq_ok accepted
  obtain ⟨configParent, _, accepted⟩ := bind_eq_ok accepted
  obtain ⟨secret, _, accepted⟩ := bind_eq_ok accepted
  obtain ⟨trust, _, accepted⟩ := bind_eq_ok accepted
  obtain ⟨bundle, created, accepted⟩ := bind_eq_ok accepted
  obtain ⟨canonical, written, accepted⟩ := bind_eq_ok accepted
  obtain ⟨_, _, accepted⟩ := bind_eq_ok accepted
  cases accepted
  obtain ⟨same, valid⟩ := new_eq_ok (mapError_eq_ok created)
  have text : canonical = codec.encode bundle.toJson := by
    obtain ⟨normalized, again, encoded⟩ :=
      bind_eq_ok (mapError_eq_ok written)
    rw [valid] at again
    cases again
    cases encoded
    rfl
  have added := checkedAdd_eq_some_iff.mp (okOr_eq_ok next)
  subst same
  exact ⟨added, small, rfl, rfl, secret.2, rfl, valid, by rw [text]⟩

/-- Every delivered enrollment has the next id of the configuration that the
issue found. -/
theorem issuedBy_of_issue {options : IssueOptions}
    {original : List CredentialConfig} {issued : Issued Text}
    (accepted : (issue codec acceptsServerName host options original).1 =
      .ok issued) :
    IssuedBy codec acceptsServerName options original issued := by
  unfold issue at accepted
  cases prepares : prepareIssue codec acceptsServerName host options
      original with
  | error error =>
      rw [prepares] at accepted
      cases accepted
  | ok prepared =>
      rw [prepares] at accepted
      dsimp only [commitIssue] at accepted
      split at accepted
      · cases accepted
      · split at accepted
        · cases accepted
        · rename_i written
          split at accepted
          · cases accepted
            apply issuedBy_of_prepared prepares
            apply host.ids_of_writeConfig written _
              (List.mem_append_right _ List.mem_cons_self)
          · split at accepted
            · cases accepted
            · cases accepted

end Issue

end Velum.Node
