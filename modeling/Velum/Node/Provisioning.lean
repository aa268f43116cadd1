import Velum.Foundation.FileModes
import Velum.Foundation.TransitionSystem
import Velum.Node.EnrollmentDocuments
import Velum.Node.IssuanceRollback
import Velum.Node.RelayStart

/-!
# The credentials of a relay

A relay reads its credentials when it starts: the configuration names a file
for each of them.  So what issues and revokes make of the files decides whom
the next start accepts, and whether there is a next start.
-/

namespace Velum.Node.Issuance

open Foundation HostProgram Velum.Protocol Velum.Server

/-! ## Revoking -/

section Revoke

variable {Rest : Type} (toml : ConfigCodec Rest)
  (resolve : String → FilePath)

/-- A secret that is not there needs no removal. -/
def removeSecret (removed : CredentialConfig) : Program Unit :=
  Script.bind
    (Script.call (HostCall.perform .removeSecret
      (.remove (resolve removed.secretFile))))
    fun reply : Except (IoError String) Unit =>
      .done (match reply with
        | .error (.absent _) => .ok ()
        | _ => reply.mapError fun error =>
            "principal " ++ removed.id.toNat.repr ++
              " was revoked, but credential cleanup failed at " ++
              removed.secretFile ++ ": " ++ error.message)

def revoke (selector : Selector) (configPath : FilePath) : Program Unit := do
  let config ← read toml configPath
  if config.credentials.length = 1 then
    throw "cannot revoke the final configured credential"
  else
    match config.credentials.find? selector.selects with
    | none => throw "client credential was not found"
    | some removed => do
        write toml .config configPath { config with
          credentials := config.credentials.eraseP selector.selects }
        removeSecret resolve removed

end Revoke

/-! ## Runs -/

section Steps

/-- The files of a host, and whose mode grants something to the group or to
others. -/
abbrev RelayFiles := (FilePath → Option String) × (FilePath → Bool)

def RelayFiles.started (state : RelayFiles) :
    ModedState IssueStep FilePath String :=
  ((state.1, []), state.2)

@[simp] theorem RelayFiles.started_files (state : RelayFiles) :
    state.started.1.1 = state.1 := rfl

def filesAfter (final : ModedState IssueStep FilePath String) : RelayFiles :=
  (final.1.1, final.2)

@[simp] theorem filesAfter_fst (final : ModedState IssueStep FilePath String) :
    (filesAfter final).1 = final.1.1 := rfl

variable {Document : Type} (toml : ConfigCodec Settings)
  (codec : EnrollmentCodec Document) (characters : Document → String)
  (acceptsServerName : String → Bool) (resolve : String → FilePath)
  (configPath : FilePath)

def Reads {Rest : Type} (toml : ConfigCodec Rest) (configPath : FilePath)
    (files : FilePath → Option String) (config : Config Rest) : Prop :=
  ∃ source, files configPath = some source ∧ toml.fromStr source = .ok config

/-- No configuration has failed to be written back. -/
def Restored (failures : List (Failure IssueStep String)) : Prop :=
  ∀ failure ∈ failures, ∀ step, failure.step ≠ .rollback step

/-- The secrets that an issue reads are those of the files, and the one that
it draws is none of them. -/
structure Draws (state : RelayFiles) (host : RelayHost Document) : Prop where
  reads : ∀ name secret, host.readSecret name = .ok secret →
    readSecret resolve state.1 state.2 name = .ok secret
  fresh : ∀ drawn name, host.newSecret = .ok drawn →
    host.readSecret name ≠ .ok drawn.1

inductive RelayEvent where
  | issued (bundle : EnrollmentBundle)
  | revoked (principal : PrincipalId)
  | unchanged

/-- Issues and revokes, each of which may fail at any operation.  The name that
an issue writes into the configuration stands for the file of the secret.  A
revoke whose last operation fails has still revoked. -/
inductive Step (state : RelayFiles) : RelayEvent → RelayFiles → Prop where
  | issued {host : RelayHost Document} {options : IssueOptions}
      {output configParent : FilePath} {config : Config Settings}
      {prepared : Prepared Document}
      {final : ModedState IssueStep FilePath String}
      (draws : Draws resolve state host)
      (reads : Reads toml configPath state.1 config)
      (known : configPath.parent = some configParent)
      (prepares : prepareIssue codec acceptsServerName
        { host with configParent := configPath.parent.map FilePath.display }
        options config.credentials = .ok prepared)
      (shown : resolve (secretFile configParent options.clientName
          prepared.principalId).display =
        secretFile configParent options.clientName prepared.principalId)
      (ended : Script.Ends (ModedAnswers IssueStep FilePath String)
        state.started (issue toml codec characters acceptsServerName host
          options configPath output) (.ok ()) final) :
      Step state (.issued prepared.bundle) (filesAfter final)
  | unissued {host : RelayHost Document} {options : IssueOptions}
      {output : FilePath} {message : String}
      {final : ModedState IssueStep FilePath String}
      (ended : Script.Ends (ModedAnswers IssueStep FilePath String)
        state.started (issue toml codec characters acceptsServerName host
          options configPath output) (.error message) final)
      (restored : Restored final.1.2) :
      Step state .unchanged (filesAfter final)
  | revoked {selector : Selector} {config : Config Settings}
      {removed : CredentialConfig} {result : Except String Unit}
      {final : ModedState IssueStep FilePath String}
      (reads : Reads toml configPath state.1 config)
      (selected : config.credentials.find? selector.selects = some removed)
      (ended : Script.Ends (ModedAnswers IssueStep FilePath String)
        state.started (revoke toml resolve selector configPath) result final)
      (cleaned : result = .ok () ∨
        ∃ failure ∈ final.1.2, failure.step = .removeSecret) :
      Step state (.revoked ⟨removed.id⟩) (filesAfter final)
  | unrevoked {selector : Selector} {message : String}
      {final : ModedState IssueStep FilePath String}
      (ended : Script.Ends (ModedAnswers IssueStep FilePath String)
        state.started (revoke toml resolve selector configPath)
        (.error message) final)
      (early : ∀ failure ∈ final.1.2, failure.step ≠ .removeSecret) :
      Step state .unchanged (filesAfter final)

end Steps

/-- Who is accepted with which secret after an event. -/
def RelayEvent.update (accepted : List UInt8 → PrincipalId → Prop) :
    RelayEvent → List UInt8 → PrincipalId → Prop
  | .issued bundle => fun secret principal => accepted secret principal ∨
      decodeHex bundle.credential.toList = .ok secret ∧
        principal = ⟨bundle.principalId⟩
  | .revoked gone => fun secret principal =>
      accepted secret principal ∧ principal ≠ gone
  | .unchanged => accepted

/-! ## What a start reads -/

section Loading

variable {Certificate Key : Type} {host : StartHost Certificate Key}
  {toml : ConfigCodec Settings} {resolve : String → FilePath}
  {files changed : FilePath → Option String}
  {exposed granted : FilePath → Bool} {configPath : FilePath}
  {entry : CredentialConfig} {credential : PrincipalCredential}

theorem Reads.unique {Rest : Type} {toml : ConfigCodec Rest}
    {config other : Config Rest}
    (reads : Reads toml configPath files config)
    (again : Reads toml configPath files other) : config = other := by
  obtain ⟨source, held, parsed⟩ := reads
  obtain ⟨source', held', parsed'⟩ := again
  cases held.symm.trans held'
  cases parsed.symm.trans parsed'
  rfl

theorem readConfig_eq_ok_iff {config : Config Settings} :
    readConfig toml files configPath = .ok config ↔
      Reads toml configPath files config := by
  constructor
  · intro found
    obtain ⟨text, held, parsed⟩ := bind_eq_ok found
    exact ⟨text, okOr_eq_ok held, mapError_eq_ok parsed⟩
  · rintro ⟨text, held, parsed⟩
    rw [readConfig, held]
    refine (bind_of_eq_ok rfl).trans ?_
    rw [parsed]
    rfl

theorem readPrivate_eq_ok_iff {kind name text : String} :
    readPrivate resolve files exposed kind name = .ok text ↔
      files (resolve name) = some text ∧ exposed (resolve name) = false := by
  constructor
  · intro found
    obtain ⟨contents, held, found⟩ := bind_eq_ok found
    obtain ⟨_, hidden, found⟩ := bind_eq_ok found
    cases found
    exact ⟨okOr_eq_ok held, Bool.eq_false_iff.mpr (refuse_eq_ok hidden)⟩
  · rintro ⟨held, hidden⟩
    rw [readPrivate, held, hidden]
    rfl

theorem readSecret_eq_ok_iff {name : String} {secret : List UInt8} :
    readSecret resolve files exposed name = .ok secret ↔
      ∃ encoded, files (resolve name) = some encoded ∧
        exposed (resolve name) = false ∧
        decodeSecret (Text.trim encoded.toList) = .ok secret := by
  constructor
  · intro found
    obtain ⟨encoded, held, found⟩ := bind_eq_ok found
    obtain ⟨held, hidden⟩ := readPrivate_eq_ok_iff.mp (mapError_eq_ok held)
    refine ⟨encoded, held, hidden, ?_⟩
    split at found
    next decoded =>
        cases found
        exact decoded
    next => cases found
    next => cases found
  · rintro ⟨encoded, held, hidden, decoded⟩
    have read : readPrivate resolve files exposed "credential file" name =
        .ok encoded := readPrivate_eq_ok_iff.mpr ⟨held, hidden⟩
    rw [readSecret, read]
    refine (bind_of_eq_ok rfl).trans ?_
    rw [decoded]
    rfl

theorem loadCredential_eq_ok_iff :
    loadCredential resolve files exposed entry = .ok credential ↔
      readSecret resolve files exposed entry.secretFile =
        .ok credential.secret ∧ credential.principal = ⟨entry.id⟩ := by
  constructor
  · intro loaded
    obtain ⟨secret, found, made⟩ := bind_eq_ok loaded
    have made := mapError_eq_ok made
    rw [PrincipalCredential.new] at made
    split at made
    next =>
        cases made
        exact ⟨found, rfl⟩
    next => cases made
  · obtain ⟨principal, bytes, filled⟩ := credential
    rintro ⟨found, rfl⟩
    refine (bind_of_eq_ok found).trans ?_
    simp only [PrincipalCredential.new, filled]
    rfl

/-- A credential that was loaded has a file of its own. -/
theorem held_of_loadCredential
    (loaded : loadCredential resolve files exposed entry = .ok credential) :
    (files (resolve entry.secretFile)).isSome ∧
      exposed (resolve entry.secretFile) = false := by
  obtain ⟨_, held, hidden, _⟩ :=
    readSecret_eq_ok_iff.mp (loadCredential_eq_ok_iff.mp loaded).1
  exact ⟨by rw [held]; rfl, hidden⟩

theorem loadCredential_congr
    (same : changed (resolve entry.secretFile) =
      files (resolve entry.secretFile))
    (hidden : granted (resolve entry.secretFile) =
      exposed (resolve entry.secretFile)) :
    loadCredential resolve changed granted entry =
      loadCredential resolve files exposed entry := by
  simp only [loadCredential, readSecret, readPrivate, same, hidden]

/-- The checks ask of the credentials that there is one. -/
theorem checkConfig_of_filled {config : Config Settings} {bind : SocketAddr}
    (checked : checkConfig config = .ok bind)
    {credentials : List CredentialConfig} (filled : credentials ≠ []) :
    checkConfig { config with credentials } = .ok bind := by
  obtain ⟨_, version, checked⟩ := bind_eq_ok checked
  obtain ⟨address, parsed, checked⟩ := bind_eq_ok checked
  obtain ⟨_, _, checked⟩ := bind_eq_ok checked
  have some_ : ¬credentials.isEmpty = true := by simpa using filled
  refine (bind_of_eq_ok version).trans ?_
  refine (bind_of_eq_ok parsed).trans ?_
  exact (bind_of_eq_ok (if_neg some_)).trans checked

theorem address_of_checkConfig {config : Config Settings} {bind : SocketAddr}
    (checked : checkConfig config = .ok bind) :
    (AddressText.parseSocketAddr config.bind.toList).isSome ∧
      config.credentials ≠ [] := by
  obtain ⟨_, _, checked⟩ := bind_eq_ok checked
  obtain ⟨address, parsed, checked⟩ := bind_eq_ok checked
  obtain ⟨_, filled, _⟩ := bind_eq_ok checked
  rw [okOr_eq_ok parsed]
  exact ⟨rfl, by simpa using refuse_eq_ok filled⟩

/-- A start with another authenticator. -/
def LoadedConfig.withAuthenticator (loaded : LoadedConfig Certificate Key)
    (authenticator : Authenticator) : LoadedConfig Certificate Key :=
  { loaded with admission := { loaded.admission with authenticator } }

theorem readCertificates_congr {name : String}
    (same : changed (resolve name) = files (resolve name)) :
    readCertificates host resolve changed name =
      readCertificates host resolve files name := by
  simp only [readCertificates, same]

theorem readPrivateKey_congr {name : String}
    (same : changed (resolve name) = files (resolve name))
    (hidden : granted (resolve name) = exposed (resolve name)) :
    readPrivateKey host resolve changed granted name =
      readPrivateKey host resolve files exposed name := by
  simp only [readPrivateKey, readPrivate, same, hidden]

theorem loadSettings_eq_ok_iff {bind : SocketAddr} {settings : Settings}
    {authenticator : Authenticator} {loaded : LoadedConfig Certificate Key} :
    loadSettings host resolve files exposed bind settings authenticator =
        .ok loaded ↔
      ∃ targets relay coverService quota certificates key streams,
        settings.allowedTargets.mapM (parseSocket "allowed_targets") =
          .ok targets ∧
        loadRelay settings.limits = .ok relay ∧
        settings.coverService.mapM (loadCoverService host) =
          .ok coverService ∧
        loadQuota settings.limits = .ok quota ∧
        readCertificates host resolve files settings.certificate =
          .ok certificates ∧
        readPrivateKey host resolve files exposed settings.privateKey =
          .ok key ∧
        host.withSingleCert certificates key = .ok () ∧
        transport relay = .ok streams ∧
        loaded = {
          bind
          adminSocket := settings.adminSocket
          serverConfig := {
            certificates
            key
            maxBidirectionalStreams := streams
            maxIncoming := relay.maxConnections }
          admission := { authenticator, destinations := ⟨targets⟩ }
          quota
          relay
          coverService } := by
  constructor
  · intro accepted
    obtain ⟨targets, parsed, accepted⟩ := bind_eq_ok accepted
    obtain ⟨relay, limited, accepted⟩ := bind_eq_ok accepted
    obtain ⟨coverService, covered, accepted⟩ := bind_eq_ok accepted
    obtain ⟨quota, allotted, accepted⟩ := bind_eq_ok accepted
    obtain ⟨certificates, read, accepted⟩ := bind_eq_ok accepted
    obtain ⟨key, opened, accepted⟩ := bind_eq_ok accepted
    obtain ⟨_, paired, accepted⟩ := bind_eq_ok accepted
    obtain ⟨streams, bounded, accepted⟩ := bind_eq_ok accepted
    cases accepted
    exact ⟨targets, relay, coverService, quota, certificates, key, streams,
      parsed, limited, covered, allotted, read, opened,
      mapError_eq_ok paired, bounded, rfl⟩
  · rintro ⟨targets, relay, coverService, quota, certificates, key, streams,
      parsed, limited, covered, allotted, read, opened, paired, bounded, rfl⟩
    refine (bind_of_eq_ok parsed).trans ?_
    refine (bind_of_eq_ok limited).trans ?_
    refine (bind_of_eq_ok covered).trans ?_
    refine (bind_of_eq_ok allotted).trans ?_
    refine (bind_of_eq_ok read).trans ?_
    refine (bind_of_eq_ok opened).trans ?_
    rw [paired]
    exact bind_of_eq_ok bounded

/-- What a start loads besides the credentials depends on the files of the
certificate and of the key alone. -/
theorem loadSettings_congr {bind : SocketAddr} {settings : Settings}
    {authenticator other : Authenticator}
    {loaded : LoadedConfig Certificate Key}
    (accepted : loadSettings host resolve files exposed bind settings
      authenticator = .ok loaded)
    (certificate : changed (resolve settings.certificate) =
      files (resolve settings.certificate))
    (key : changed (resolve settings.privateKey) =
      files (resolve settings.privateKey))
    (hidden : granted (resolve settings.privateKey) =
      exposed (resolve settings.privateKey)) :
    loadSettings host resolve changed granted bind settings other =
      .ok (loaded.withAuthenticator other) := by
  obtain ⟨targets, relay, coverService, quota, certificates, privateKey,
    streams, parsed, limited, covered, allotted, read, opened, paired,
    bounded, rfl⟩ := loadSettings_eq_ok_iff.mp accepted
  rw [← readCertificates_congr certificate] at read
  rw [← readPrivateKey_congr key hidden] at opened
  exact loadSettings_eq_ok_iff.mpr ⟨targets, relay, coverService, quota,
    certificates, privateKey, streams, parsed, limited, covered, allotted,
    read, opened, paired, bounded, rfl⟩

theorem of_loadSettings {bind : SocketAddr} {settings : Settings}
    {authenticator : Authenticator} {loaded : LoadedConfig Certificate Key}
    (accepted : loadSettings host resolve files exposed bind settings
      authenticator = .ok loaded) :
    loaded.bind = bind ∧ loaded.admission.authenticator = authenticator := by
  obtain ⟨_, _, _, _, _, _, _, _, _, _, _, _, _, _, _, rfl⟩ :=
    loadSettings_eq_ok_iff.mp accepted
  exact ⟨rfl, rfl⟩

/-- The certificate and the key that were loaded have files, and that of the
key is its owner's alone. -/
theorem held_of_loadSettings {bind : SocketAddr} {settings : Settings}
    {authenticator : Authenticator} {loaded : LoadedConfig Certificate Key}
    (accepted : loadSettings host resolve files exposed bind settings
      authenticator = .ok loaded) :
    (files (resolve settings.certificate)).isSome ∧
      (files (resolve settings.privateKey)).isSome ∧
        exposed (resolve settings.privateKey) = false := by
  obtain ⟨_, _, _, _, _, _, _, _, _, _, _, read, opened, _⟩ :=
    loadSettings_eq_ok_iff.mp accepted
  obtain ⟨_, certificate, _⟩ := bind_eq_ok read
  obtain ⟨_, key, _⟩ := bind_eq_ok opened
  obtain ⟨held, hidden⟩ := readPrivate_eq_ok_iff.mp key
  rw [okOr_eq_ok certificate, held]
  exact ⟨rfl, rfl, hidden⟩

/-- What a start reads and checks. -/
theorem load_eq_ok_iff {loaded : LoadedConfig Certificate Key} :
    load host toml resolve files exposed configPath = .ok loaded ↔
      ∃ config bind credentials authenticator,
        Reads toml configPath files config ∧
        checkConfig config = .ok bind ∧
        List.Forall₂ (fun entry credential =>
          loadCredential resolve files exposed entry = .ok credential)
          config.credentials credentials ∧
        Authenticator.new credentials = .ok authenticator ∧
        loadSettings host resolve files exposed bind config.rest
          authenticator = .ok loaded := by
  constructor
  · intro started
    obtain ⟨config, read, started⟩ := bind_eq_ok started
    obtain ⟨bind, checked, started⟩ := bind_eq_ok started
    obtain ⟨credentials, loads, started⟩ := bind_eq_ok started
    obtain ⟨authenticator, made, started⟩ := bind_eq_ok started
    exact ⟨config, bind, credentials, authenticator,
      readConfig_eq_ok_iff.mp (mapError_eq_ok read), mapError_eq_ok checked,
      mapM_eq_ok_iff.mp loads, mapError_eq_ok made, mapError_eq_ok started⟩
  · rintro ⟨config, bind, credentials, authenticator, reads, checked, loads,
      made, settings⟩
    rw [load, readConfig_eq_ok_iff.mpr reads]
    refine (bind_of_eq_ok rfl).trans ?_
    rw [checked]
    refine (bind_of_eq_ok rfl).trans ?_
    refine (bind_of_eq_ok (mapM_eq_ok_iff.mpr loads)).trans ?_
    rw [made]
    refine (bind_of_eq_ok rfl).trans ?_
    rw [settings]
    rfl

end Loading

/-! ## A relay that starts -/

section Serving

variable {Certificate Key : Type} (host : StartHost Certificate Key)
  (toml : ConfigCodec Settings) (resolve : String → FilePath)
  (configPath : FilePath)

/-- The configuration, its temporary file, the certificate, the key and the
secrets are different files. -/
structure Apart (config : Config Settings) : Prop where
  listener : ∀ name ∈ [config.rest.certificate, config.rest.privateKey],
    resolve name ≠ configPath ∧
      resolve name ≠ configPath.withExtension "toml.tmp".toList
  secrets : ∀ entry ∈ config.credentials,
    resolve entry.secretFile ≠ configPath ∧
      resolve entry.secretFile ≠
        configPath.withExtension "toml.tmp".toList ∧
      resolve entry.secretFile ≠ resolve config.rest.certificate ∧
      resolve entry.secretFile ≠ resolve config.rest.privateKey

/-- What a start loads besides the credentials. -/
def SettingsLoaded (loaded : LoadedConfig Certificate Key)
    (settings : Settings) (state : RelayFiles) : Prop :=
  ∀ authenticator, loadSettings host resolve state.1 state.2 loaded.bind
    settings authenticator = .ok (loaded.withAuthenticator authenticator)

/-- A configuration that a relay can start with, and what it then loads; of
`loaded` the authenticator does not matter. -/
structure Serves (loaded : LoadedConfig Certificate Key) (state : RelayFiles)
    (config : Config Settings) (credentials : List PrincipalCredential) :
    Prop where
  reads : Reads toml configPath state.1 config
  checked : checkConfig config = .ok loaded.bind
  loads : List.Forall₂ (fun entry credential =>
    loadCredential resolve state.1 state.2 entry = .ok credential)
    config.credentials credentials
  consistent : Consistent credentials
  settings : SettingsLoaded host resolve loaded config.rest state
  apart : Apart resolve configPath config

/-- Who is accepted when the relay has loaded these credentials. -/
def Accepts (credentials : List PrincipalCredential) (secret : List UInt8)
    (principal : PrincipalId) : Prop :=
  ∃ credential ∈ credentials, credential.principal = principal ∧
    credential.secret = secret

variable {host toml resolve configPath}
  {loaded : LoadedConfig Certificate Key} {state : RelayFiles}
  {config : Config Settings} {credentials : List PrincipalCredential}

/-- A relay starts with such a configuration and accepts its credentials. -/
theorem Serves.load
    (serves : Serves host toml resolve configPath loaded state config
      credentials) :
    ∃ authenticator,
      Issuance.load host toml resolve state.1 state.2 configPath =
        .ok (loaded.withAuthenticator authenticator) ∧
      ∀ secret principal, authenticator.authenticate secret = .ok principal ↔
        Accepts credentials secret principal := by
  obtain ⟨succeeds, holds⟩ :=
    Authenticator.configure_spec credentials Authenticator.holds_empty
  obtain ⟨authenticator, made⟩ := succeeds.mpr serves.consistent
  refine ⟨authenticator, ?_,
    fun _ _ => (holds authenticator made).authenticate_eq_ok_iff⟩
  exact load_eq_ok_iff.mpr ⟨config, loaded.bind, credentials, authenticator,
    serves.reads, serves.checked, serves.loads, made,
    serves.settings authenticator⟩

theorem serves_of_load
    (started : load host toml resolve state.1 state.2 configPath = .ok loaded)
    (apart : ∀ config, Reads toml configPath state.1 config →
      Apart resolve configPath config) :
    ∃ config credentials,
      Serves host toml resolve configPath loaded state config credentials ∧
      ∀ secret principal,
        loaded.admission.authenticator.authenticate secret = .ok principal ↔
          Accepts credentials secret principal := by
  obtain ⟨config, bind, credentials, authenticator, reads, checked, loads,
    made, settings⟩ := load_eq_ok_iff.mp started
  obtain ⟨succeeds, holds⟩ :=
    Authenticator.configure_spec credentials Authenticator.holds_empty
  have named := of_loadSettings settings
  rw [← named.1] at checked settings
  refine ⟨config, credentials, ⟨reads, checked, loads,
    succeeds.mp ⟨authenticator, made⟩, ?_, apart config reads⟩, ?_⟩
  · intro other
    exact loadSettings_congr settings rfl rfl rfl
  · rw [named.2]
    exact fun _ _ => (holds authenticator made).authenticate_eq_ok_iff

end Serving

end Velum.Node.Issuance
