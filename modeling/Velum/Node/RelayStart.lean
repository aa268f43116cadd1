import Velum.Forest.CoverService
import Velum.Node.Issuance
import Velum.Node.Listener
import Velum.Server.Authentication

/-!
# The start of a relay

What a relay reads and checks when it starts: its configuration, a private file
for each credential, and its certificate and private key.  The parsers of
certificates and keys, the TLS library and the resolver of names are those of
the host.
-/

namespace Velum.Node.Issuance

open Foundation Velum.Protocol Velum.Server

/-! ## Configurations -/

structure Limits where
  maxSessions : Nat
  maxFlowsPerSession : Nat
  maxConnections : Nat
  maxStreamsPerConnection : Nat
  connectTimeoutSecs : UInt64
  controlTimeoutSecs : UInt64
  shutdownTimeoutSecs : UInt64
  deriving DecidableEq, Repr

structure CoverServiceConfig where
  bind : String
  upstream : String
  requestHeadTimeoutSecs : UInt64
  upstreamTimeoutSecs : UInt64
  maxConnections : Nat
  deriving DecidableEq, Repr

structure AcmeConfig where
  email : String
  domains : List String
  dnsProvider : String
  directoryUrl : String
  stateDir : String
  renewBeforeDays : UInt16
  deriving DecidableEq, Repr

/-- The configuration besides its address and its credentials. -/
structure Settings where
  version : UInt16
  certificate : String
  privateKey : String
  adminSocket : String
  allowedTargets : List String
  limits : Limits
  coverService : Option CoverServiceConfig
  acme : Option AcmeConfig
  deriving DecidableEq, Repr

def version : UInt16 := 1

structure LoadedCoverService where
  bind : SocketAddr
  config : Forest.CoverServiceConfig
  maxConnections : Nat

/-- The settings of the QUIC listener. -/
structure ServerConfig (Certificate Key : Type) where
  certificates : List Certificate
  key : Key
  maxBidirectionalStreams : UInt32
  maxIncoming : Nat

structure LoadedConfig (Certificate Key : Type) where
  bind : SocketAddr
  adminSocket : String
  serverConfig : ServerConfig Certificate Key
  admission : RelayAdmission
  quota : PrincipalQuota
  relay : QuicRelayConfig
  coverService : Option LoadedCoverService

/-- A start ends without a relay: it is refused, or it panics. -/
inductive StartFailure where
  | refused (message : String)
  | panicked (cause : ExpectPanic)
  deriving DecidableEq, Repr

/-! ## Values -/

def debugName : AuthenticationError → String
  | .invalidCredential => "InvalidCredential"
  | .duplicateCredential => "DuplicateCredential"
  | .duplicatePrincipal => "DuplicatePrincipal"
  | .inconsistentCredentialLength => "InconsistentCredentialLength"

def relayDebugName : ConfigError → String
  | .unsupportedSchema => "UnsupportedSchema"
  | .zeroConnectTimeout => "ZeroConnectTimeout"
  | .zeroControlTimeout => "ZeroControlTimeout"
  | .zeroShutdownTimeout => "ZeroShutdownTimeout"
  | .controlLimitTooSmall => "ControlLimitTooSmall"
  | .zeroConnectionLimit => "ZeroConnectionLimit"
  | .zeroStreamLimit => "ZeroStreamLimit"
  | .streamLimitTooLarge => "StreamLimitTooLarge"

def coverDebugName : Forest.CoverConfigError → String
  | .unsupportedSchema => "UnsupportedSchema"
  | .zeroRequestHeadTimeout => "ZeroRequestHeadTimeout"
  | .zeroUpstreamTimeout => "ZeroUpstreamTimeout"
  | .invalidStaticService => "InvalidStaticService"

def parseSocket (name value : String) : Except String SocketAddr :=
  okOr (AddressText.parseSocketAddr value.toList)
    (name ++ " must be an IP:PORT socket address")

def positiveLimit (name : String) (value : Nat) : Except String Nat := do
  refuse (value = 0) (name ++ " must be positive")
  return value

/-- The nanoseconds of a time that is configured in seconds. -/
def positiveDuration (name : String) (value : UInt64) :
    Except String Nat := do
  refuse (value = 0) (name ++ " must be positive")
  return value.toNat * 10 ^ 9

/-- The limit of the transport; the other values of its profile are defaults
that are valid. -/
def transport (relay : QuicRelayConfig) : Except String UInt32 := do
  refuse (2 ^ 32 ≤ relay.maxStreamsPerConnection)
    ("invalid QUIC transport limits: " ++
      relayDebugName .streamLimitTooLarge)
  refuse (relay.maxStreamsPerConnection = 0)
    "invalid QUIC transport limits: ZeroStreamLimit"
  return UInt32.ofNat relay.maxStreamsPerConnection

def loadRelay (limits : Limits) : Except String QuicRelayConfig := do
  let relay : QuicRelayConfig := {
    schemaVersion := version
    connectTimeout := ← positiveDuration "limits.connect_timeout_secs"
      limits.connectTimeoutSecs
    controlTimeout := ← positiveDuration "limits.control_timeout_secs"
      limits.controlTimeoutSecs
    shutdownTimeout := ← positiveDuration "limits.shutdown_timeout_secs"
      limits.shutdownTimeoutSecs
    maxControlBytes := 192
    maxConnections := ← positiveLimit "limits.max_connections"
      limits.maxConnections
    maxStreamsPerConnection := ← positiveLimit
      "limits.max_streams_per_connection" limits.maxStreamsPerConnection }
  relay.validate.mapError fun error =>
    "invalid relay limits: " ++ relayDebugName error
  return relay

def loadQuota (limits : Limits) : Except String PrincipalQuota := do
  return {
    maxSessions := ← positiveLimit "limits.max_sessions" limits.maxSessions
    maxFlowsPerSession := ← positiveLimit "limits.max_flows_per_session"
      limits.maxFlowsPerSession }

/-! ## The host -/

/-- What a start uses besides the files. -/
structure StartHost (Certificate Key : Type) where
  toSocketAddrs : String → Except String (List SocketAddr)
  parseCertificates : String → Except String (List Certificate)
  parseKey : String → Except String Key
  withSingleCert : List Certificate → Key → Except String Unit

section Load

variable {Certificate Key : Type} (host : StartHost Certificate Key)
  (toml : ConfigCodec Settings) (resolve : String → FilePath)
  (files : FilePath → Option String) (exposed : FilePath → Bool)

def resolveUpstream (name value : String) : Except String SocketAddr :=
  match AddressText.parseSocketAddr value.toList with
  | some address => .ok address
  | none => do
      let (_, port) ← okOr (Text.rsplitOnce ':' value.toList)
        (name ++ " must be a hostname:PORT or IP:PORT")
      refuse (((Text.parseUnsigned 65536 port).filter (0 < ·)).isNone)
        (name ++ " must use a positive numeric port")
      let addresses ← (host.toSocketAddrs value).mapError fun error =>
        "cannot resolve " ++ name ++ " " ++ value ++ ": " ++ error
      okOr addresses.head? ("cannot resolve " ++ name ++ " " ++ value ++
        ": no socket addresses returned")

def loadCoverService (config : CoverServiceConfig) :
    Except String LoadedCoverService := do
  let bind ← parseSocket "cover_service.bind" config.bind
  let upstream ← resolveUpstream host "cover_service.upstream" config.upstream
  let service : Forest.CoverServiceConfig := {
    schemaVersion := 1
    mode := .reverseProxy upstream
    requestHeadTimeout := ← positiveDuration
      "cover_service.request_head_timeout_secs" config.requestHeadTimeoutSecs
    upstreamTimeout := ← positiveDuration
      "cover_service.upstream_timeout_secs" config.upstreamTimeoutSecs }
  service.validate.mapError fun error =>
    "invalid cover service configuration: " ++ coverDebugName error
  return {
    bind
    config := service
    maxConnections := ← positiveLimit "cover_service.max_connections"
      config.maxConnections }

/-- `resolve` gives the file that a name in a configuration stands for, and
`exposed` tells whether its mode grants something to the group or to others. -/
def readPrivate (kind name : String) : Except String String := do
  let text ← okOr (files (resolve name))
    ("cannot inspect " ++ kind ++ " " ++ name ++ ": " ++ notFound)
  refuse (exposed (resolve name) = true)
    (kind ++ " " ++ name ++ " must not be group or world readable")
  return text

def readSecret (name : String) : Except StartFailure (List UInt8) := do
  let encoded ← (readPrivate resolve files exposed "credential file"
    name).mapError .refused
  match decodeSecret (Text.trim encoded.toList) with
  | .ok secret => return secret
  | .err error => throw (.refused error)
  | .panic cause => throw (.panicked cause)

def readCertificates (name : String) : Except String (List Certificate) := do
  let text ← okOr (files (resolve name))
    ("cannot read certificate " ++ name ++ ": " ++ notFound)
  let certificates ← (host.parseCertificates text).mapError fun error =>
    "cannot parse certificate " ++ name ++ ": " ++ error
  refuse certificates.isEmpty
    ("certificate " ++ name ++ " contains no PEM certificates")
  return certificates

def readPrivateKey (name : String) : Except String Key := do
  let text ← readPrivate resolve files exposed "private key" name
  (host.parseKey text).mapError fun error =>
    "cannot parse private key " ++ name ++ ": " ++ error

def loadCredential (entry : CredentialConfig) :
    Except StartFailure PrincipalCredential := do
  let secret ← readSecret resolve files exposed entry.secretFile
  (PrincipalCredential.new ⟨entry.id⟩ secret).mapError fun _ =>
    .refused ("invalid credential " ++ entry.id.toNat.repr)

def readConfig (path : FilePath) : Except String (Config Settings) := do
  let text ← okOr (files path)
    ("cannot read configuration " ++ path.display ++ ": " ++ notFound)
  (toml.fromStr text).mapError fun error =>
    "invalid configuration " ++ path.display ++ ": " ++ error

/-- The checks before the credentials are read. -/
def checkConfig (config : Config Settings) : Except String SocketAddr := do
  refuse (config.rest.version ≠ version)
    ("unsupported configuration version " ++ config.rest.version.toNat.repr)
  let bind ← parseSocket "listener.bind" config.bind
  refuse config.credentials.isEmpty "at least one credential is required"
  refuse config.rest.allowedTargets.isEmpty
    "at least one allowed target is required"
  return bind

/-- What follows when there is an authenticator. -/
def loadSettings (bind : SocketAddr) (settings : Settings)
    (authenticator : Authenticator) :
    Except String (LoadedConfig Certificate Key) := do
  let targets ← settings.allowedTargets.mapM (parseSocket "allowed_targets")
  let relay ← loadRelay settings.limits
  let coverService ← settings.coverService.mapM (loadCoverService host)
  let quota ← loadQuota settings.limits
  let certificates ← readCertificates host resolve files settings.certificate
  let key ← readPrivateKey host resolve files exposed settings.privateKey
  (host.withSingleCert certificates key).mapError fun error =>
    "invalid certificate or private key: " ++ error
  return {
    bind
    adminSocket := settings.adminSocket
    serverConfig := {
      certificates
      key
      maxBidirectionalStreams := ← transport relay
      maxIncoming := relay.maxConnections }
    admission := { authenticator, destinations := ⟨targets⟩ }
    quota
    relay
    coverService }

def load (path : FilePath) :
    Except StartFailure (LoadedConfig Certificate Key) := do
  let config ← (readConfig toml files path).mapError .refused
  let bind ← (checkConfig config).mapError .refused
  let credentials ← config.credentials.mapM
    (loadCredential resolve files exposed)
  let authenticator ← (Authenticator.new credentials).mapError fun error =>
    .refused ("invalid credential set: " ++ debugName error)
  (loadSettings host resolve files exposed bind config.rest
    authenticator).mapError .refused

end Load

end Velum.Node.Issuance
