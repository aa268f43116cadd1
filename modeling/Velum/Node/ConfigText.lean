import Velum.Foundation.JsonReader
import Velum.Node.RelayStart

/-!
# The text of a configuration

A configuration is written as TOML, one line for a header, an entry or nothing.
The values of entries are also values of JSON, and arrays stay on one line.
What was written is read back, with the commented template behind it.
-/

namespace Velum.Node.Issuance

open Foundation Velum.Protocol

/-! ## Lines -/

inductive ConfigLine where
  | blank
  | header (text : String)
  | entry (key : String) (value : Json)

namespace ConfigLine

def isBlank : ConfigLine → Bool
  | .blank => true
  | _ => false

def write : ConfigLine → Text
  | .blank => []
  | .header text => text.toList
  | .entry key value => key.toList ++ " = ".toList ++ Json.write value

/-- A comment is as good as a blank line. -/
def read (line : Text) : Option ConfigLine :=
  if line = [] ∨ line.head? = some '#' then some .blank
  else if line.head? = some '[' then some (.header (String.ofList line))
  else
    let key := line.takeWhile (· ≠ ' ')
    let rest := line.dropWhile (· ≠ ' ')
    if rest.take 3 = " = ".toList then
      (Json.read (rest.drop 3)).map (.entry (String.ofList key))
    else none

end ConfigLine

def withoutBlanks (lines : List ConfigLine) : List ConfigLine :=
  lines.filter fun line => !line.isBlank

/-- The lines of a text, without the blank ones. -/
def readLines (text : Text) : Option (List ConfigLine) := do
  let lines ← (text.splitOn '\n').mapM ConfigLine.read
  return withoutBlanks lines

def writeLines (lines : List ConfigLine) : Text :=
  lines.flatMap fun line => line.write ++ ['\n']

/-! ## Configurations as lines -/

def integerLine (key : String) (value : Nat) : ConfigLine :=
  .entry key (.number (.ofNat value))

def stringLine (key value : String) : ConfigLine := .entry key (.string value)

def credentialLines (credential : CredentialConfig) : List ConfigLine :=
  [.blank, .header "[[credentials]]",
    integerLine "id" credential.id.toNat] ++
    credential.name.toList.map (stringLine "name") ++
    [stringLine "secret_file" credential.secretFile]

def limitLines (limits : Limits) : List ConfigLine := [
  .blank,
  .header "[limits]",
  integerLine "max_sessions" limits.maxSessions,
  integerLine "max_flows_per_session" limits.maxFlowsPerSession,
  integerLine "max_connections" limits.maxConnections,
  integerLine "max_streams_per_connection" limits.maxStreamsPerConnection,
  integerLine "connect_timeout_secs" limits.connectTimeoutSecs.toNat,
  integerLine "control_timeout_secs" limits.controlTimeoutSecs.toNat,
  integerLine "shutdown_timeout_secs" limits.shutdownTimeoutSecs.toNat]

def coverLines (config : CoverServiceConfig) : List ConfigLine := [
  .blank,
  .header "[cover_service]",
  stringLine "bind" config.bind,
  stringLine "upstream" config.upstream,
  integerLine "request_head_timeout_secs"
    config.requestHeadTimeoutSecs.toNat,
  integerLine "upstream_timeout_secs" config.upstreamTimeoutSecs.toNat,
  integerLine "max_connections" config.maxConnections]

def acmeLines (config : AcmeConfig) : List ConfigLine := [
  .blank,
  .header "[acme]",
  stringLine "email" config.email,
  .entry "domains" (.array (config.domains.map .string)),
  stringLine "dns_provider" config.dnsProvider,
  stringLine "directory_url" config.directoryUrl,
  stringLine "state_dir" config.stateDir,
  integerLine "renew_before_days" config.renewBeforeDays.toNat]

def configLines (config : Config Settings) : List ConfigLine :=
  [integerLine "version" config.rest.version.toNat,
    .entry "allowed_targets"
      (.array (config.rest.allowedTargets.map .string)),
    .blank,
    .header "[listener]",
    stringLine "bind" config.bind,
    stringLine "certificate" config.rest.certificate,
    stringLine "private_key" config.rest.privateKey,
    .blank,
    .header "[admin]",
    stringLine "socket" config.rest.adminSocket] ++
    config.credentials.flatMap credentialLines ++
    limitLines config.rest.limits ++
    config.rest.coverService.toList.flatMap coverLines ++
    config.rest.acme.toList.flatMap acmeLines

/-- The credentials at the front of the lines, and the lines behind them. -/
def readCredentials :
    List ConfigLine → List CredentialConfig × List ConfigLine
  | .header "[[credentials]]" :: .entry "id" (.number (.ofNat id)) ::
      .entry "name" (.string name) ::
      .entry "secret_file" (.string secretFile) :: rest =>
      let (credentials, rest) := readCredentials rest
      (⟨UInt64.ofNat id, some name, secretFile⟩ :: credentials, rest)
  | .header "[[credentials]]" :: .entry "id" (.number (.ofNat id)) ::
      .entry "secret_file" (.string secretFile) :: rest =>
      let (credentials, rest) := readCredentials rest
      (⟨UInt64.ofNat id, none, secretFile⟩ :: credentials, rest)
  | rest => ([], rest)

def readLimits : List ConfigLine → Option (Limits × List ConfigLine)
  | .header "[limits]" ::
      .entry "max_sessions" (.number (.ofNat maxSessions)) ::
      .entry "max_flows_per_session" (.number (.ofNat maxFlowsPerSession)) ::
      .entry "max_connections" (.number (.ofNat maxConnections)) ::
      .entry "max_streams_per_connection"
        (.number (.ofNat maxStreamsPerConnection)) ::
      .entry "connect_timeout_secs" (.number (.ofNat connectTimeoutSecs)) ::
      .entry "control_timeout_secs" (.number (.ofNat controlTimeoutSecs)) ::
      .entry "shutdown_timeout_secs" (.number (.ofNat shutdownTimeoutSecs)) ::
      rest =>
      some ({
        maxSessions
        maxFlowsPerSession
        maxConnections
        maxStreamsPerConnection
        connectTimeoutSecs := UInt64.ofNat connectTimeoutSecs
        controlTimeoutSecs := UInt64.ofNat controlTimeoutSecs
        shutdownTimeoutSecs := UInt64.ofNat shutdownTimeoutSecs }, rest)
  | _ => none

def readCover :
    List ConfigLine → Option CoverServiceConfig × List ConfigLine
  | .header "[cover_service]" :: .entry "bind" (.string bind) ::
      .entry "upstream" (.string upstream) ::
      .entry "request_head_timeout_secs" (.number (.ofNat requestHead)) ::
      .entry "upstream_timeout_secs" (.number (.ofNat upstreamSecs)) ::
      .entry "max_connections" (.number (.ofNat maxConnections)) :: rest =>
      (some {
        bind
        upstream
        requestHeadTimeoutSecs := UInt64.ofNat requestHead
        upstreamTimeoutSecs := UInt64.ofNat upstreamSecs
        maxConnections }, rest)
  | rest => (none, rest)

def readStrings (values : List Json) : Option (List String) :=
  values.mapM fun
    | .string text => some text
    | _ => none

def readAcme : List ConfigLine → Option (Option AcmeConfig)
  | [] => some none
  | [.header "[acme]", .entry "email" (.string email),
      .entry "domains" (.array domains),
      .entry "dns_provider" (.string dnsProvider),
      .entry "directory_url" (.string directoryUrl),
      .entry "state_dir" (.string stateDir),
      .entry "renew_before_days" (.number (.ofNat renewBeforeDays))] => do
      let domains ← readStrings domains
      return some {
        email
        domains
        dnsProvider
        directoryUrl
        stateDir
        renewBeforeDays := UInt16.ofNat renewBeforeDays }
  | _ => none

def readSections (settings : Settings) (bind : String) (targets : List Json)
    (lines : List ConfigLine) : Option (Config Settings) := do
  let allowedTargets ← readStrings targets
  let (credentials, rest) := readCredentials lines
  let (limits, rest) ← readLimits rest
  let (coverService, rest) := readCover rest
  let acme ← readAcme rest
  return { bind, credentials, rest := {
    settings with allowedTargets, limits, coverService, acme } }

def ofLines : List ConfigLine → Option (Config Settings)
  | .entry "version" (.number (.ofNat version)) ::
      .entry "allowed_targets" (.array targets) ::
      .header "[listener]" :: .entry "bind" (.string bind) ::
      .entry "certificate" (.string certificate) ::
      .entry "private_key" (.string privateKey) ::
      .header "[admin]" :: .entry "socket" (.string adminSocket) :: rest =>
      readSections {
        version := UInt16.ofNat version
        certificate
        privateKey
        adminSocket
        allowedTargets := []
        limits := ⟨0, 0, 0, 0, 0, 0, 0⟩
        coverService := none
        acme := none } bind targets rest
  | _ => none

/-- The integers of the language are signed ones of 64 bits. -/
structure Encodable (config : Config Settings) : Prop where
  ids : ∀ credential ∈ config.credentials, credential.id.toNat < 2 ^ 63
  limits : ∀ value ∈ [config.rest.limits.maxSessions,
    config.rest.limits.maxFlowsPerSession, config.rest.limits.maxConnections,
    config.rest.limits.maxStreamsPerConnection,
    config.rest.limits.connectTimeoutSecs.toNat,
    config.rest.limits.controlTimeoutSecs.toNat,
    config.rest.limits.shutdownTimeoutSecs.toNat], value < 2 ^ 63
  cover : ∀ service ∈ config.rest.coverService,
    service.requestHeadTimeoutSecs.toNat < 2 ^ 63 ∧
      service.upstreamTimeoutSecs.toNat < 2 ^ 63 ∧
      service.maxConnections < 2 ^ 63

instance (config : Config Settings) : Decidable (Encodable config) :=
  decidable_of_iff (_ ∧ _ ∧ _)
    ⟨fun held => ⟨held.1, held.2.1, held.2.2⟩,
      fun held => ⟨held.ids, held.limits, held.cover⟩⟩

def configText (config : Config Settings) : String :=
  String.ofList (writeLines (configLines config))

/-- The texts of configurations. -/
def configToml : ConfigCodec Settings where
  fromStr text :=
    match (readLines text.toList).bind ofLines with
    | some config => .ok config
    | none => .error "expected a configuration"
  toStringPretty config :=
    if Encodable config then .ok (configText config)
    else .error "out-of-range value for u64 type"
  toStringPretty_append config credential encoded encodes := by
    split at encodes
    next encodable =>
        refine ⟨_, if_pos ⟨?_, encodable.limits, encodable.cover⟩⟩
        intro other member
        exact encodable.ids other (List.mem_append_left _ member)
    next => cases encodes

theorem toStringPretty_of_encodable {config : Config Settings}
    (encodable : Encodable config) :
    configToml.toStringPretty config = .ok (configText config) :=
  if_pos encodable

/-! ## Reading back -/

theorem readLines_line {line rest : Text} {found : ConfigLine}
    (read : ConfigLine.read line = some found) (whole : '\n' ∉ line) :
    readLines (line ++ '\n' :: rest) = (readLines rest).map fun lines =>
      withoutBlanks [found] ++ lines := by
  have solid : ∀ character ∈ line, (character == '\n') = false := by
    intro character member
    rw [beq_eq_false_iff_ne]
    rintro rfl
    exact whole member
  have split : (line ++ '\n' :: rest).splitOn '\n' =
      line :: rest.splitOn '\n' :=
    List.splitOnP_append_cons_of_forall_mem solid '\n' (by decide) rest
  rw [readLines, readLines, split]
  cases others : (rest.splitOn '\n').mapM ConfigLine.read with
  | none => simp [read, others]
  | some lines =>
      cases blank : found.isBlank with
      | true => simp [read, others, withoutBlanks, blank]
      | false => simp [read, others, withoutBlanks, blank]

/-- A line that is read back. -/
def ConfigLine.Readable (line : ConfigLine) : Prop :=
  ConfigLine.read line.write = some line ∧ '\n' ∉ line.write

theorem readLines_writeLines {lines : List ConfigLine}
    (readable : ∀ line ∈ lines, line.Readable) (rest : Text) :
    readLines (writeLines lines ++ rest) = (readLines rest).map
      (withoutBlanks lines ++ ·) := by
  induction lines with
  | nil => simp [writeLines, withoutBlanks]
  | cons line lines induction =>
      obtain ⟨first, others⟩ := List.forall_mem_cons.mp readable
      rw [writeLines, List.flatMap_cons, ← writeLines, List.append_assoc,
        List.append_assoc, List.singleton_append,
        readLines_line first.1 first.2, induction others, Option.map_map]
      congr 1
      funext later
      simp only [Function.comp_apply, ← List.append_assoc, withoutBlanks,
        ← List.filter_append, List.singleton_append]

/-- The keys that occur have no space, and begin neither a comment nor a
header. -/
def isKey (key : Text) : Bool :=
  key ≠ [] && key.all (fun character => character ≠ ' ' ∧ character ≠ '\n') &&
    key.head? ≠ some '#' && key.head? ≠ some '['

theorem readable_entry {key : String} (isKey : isKey key.toList = true)
    (value : Json) : (ConfigLine.entry key value).Readable := by
  simp only [Issuance.isKey, Bool.and_eq_true, decide_eq_true_eq,
    List.all_eq_true, ne_eq] at isKey
  obtain ⟨⟨⟨filled, solid⟩, comment⟩, header⟩ := isKey
  have words : ∀ character ∈ key.toList,
      decide (character ≠ ' ') = true := by
    intro character member
    exact decide_eq_true (solid character member).1
  have taken : (key.toList ++ " = ".toList ++ Json.write value).takeWhile
      (fun character => decide (character ≠ ' ')) = key.toList := by
    rw [List.append_assoc, List.takeWhile_append_of_pos words]
    simp
  have left : (key.toList ++ " = ".toList ++ Json.write value).dropWhile
      (fun character => decide (character ≠ ' ')) =
        " = ".toList ++ Json.write value := by
    rw [List.append_assoc, List.dropWhile_append_of_pos words]
    simp
  have front : (key.toList ++ " = ".toList ++ Json.write value).head? =
      key.toList.head? := by
    cases first : key.toList with
    | nil => exact absurd first filled
    | cons character others => rfl
  constructor
  · have present : key.toList ++ " = ".toList ++ Json.write value ≠ [] := by
      simp
    rw [ConfigLine.write, ConfigLine.read, front]
    simp only [present, comment, header, or_self, if_false]
    rw [taken, left]
    simp [Json.read_write]
  · rw [ConfigLine.write]
    intro member
    rcases List.mem_append.mp member with early | inValue
    · rcases List.mem_append.mp early with inKey | inSign
      · exact (solid _ inKey).2 rfl
      · revert inSign
        decide
    · exact absurd (Json.printed_write value inValue) (by decide)

theorem readable_header {text : String}
    (bracket : text.toList.head? = some '[') (whole : '\n' ∉ text.toList) :
    (ConfigLine.header text).Readable := by
  refine ⟨?_, whole⟩
  have present : text.toList ≠ [] := by
    intro empty
    rw [empty] at bracket
    cases bracket
  rw [ConfigLine.write, ConfigLine.read, bracket]
  simp [present]

def ConfigLine.wellFormed : ConfigLine → Bool
  | .blank => true
  | .header text => text.toList.head? = some '[' && !text.toList.contains '\n'
  | .entry key _ => isKey key.toList

theorem readable_of_wellFormed {line : ConfigLine}
    (wellFormed : line.wellFormed = true) : line.Readable := by
  cases line with
  | blank => exact ⟨rfl, List.not_mem_nil⟩
  | header text =>
      simp only [ConfigLine.wellFormed, Bool.and_eq_true, decide_eq_true_eq,
        Bool.not_eq_true', List.contains_eq_mem,
        decide_eq_false_iff_not] at wellFormed
      exact readable_header wellFormed.1 wellFormed.2
  | entry key value => exact readable_entry wellFormed value

theorem wellFormed_credentialLines (credential : CredentialConfig) :
    (credentialLines credential).all ConfigLine.wellFormed = true := by
  cases name : credential.name with
  | none => simp only [credentialLines, name]; rfl
  | some name => simp only [credentialLines, name]; rfl

theorem readable_configLines (config : Config Settings) :
    ∀ line ∈ configLines config, line.Readable := by
  have fixed : ∀ lines : List ConfigLine,
      lines.all ConfigLine.wellFormed = true →
        ∀ line ∈ lines, line.Readable := by
    intro lines every line member
    exact readable_of_wellFormed (List.all_eq_true.mp every line member)
  intro line member
  rcases List.mem_append.mp member with front | acme
  · rcases List.mem_append.mp front with front | cover
    · rcases List.mem_append.mp front with front | limits
      · rcases List.mem_append.mp front with listener | credentials
        · exact fixed _ rfl line listener
        · obtain ⟨credential, _, inside⟩ := List.mem_flatMap.mp credentials
          exact fixed _ (wellFormed_credentialLines credential) line inside
      · exact fixed _ rfl line limits
    · obtain ⟨service, _, inside⟩ := List.mem_flatMap.mp cover
      exact fixed (coverLines service) rfl line inside
  · obtain ⟨policy, _, inside⟩ := List.mem_flatMap.mp acme
    exact fixed (acmeLines policy) rfl line inside

theorem readCredentials_lines (credentials : List CredentialConfig)
    (limits : Limits) (rest : List ConfigLine) :
    readCredentials (withoutBlanks (credentials.flatMap credentialLines) ++
      (withoutBlanks (limitLines limits) ++ rest)) =
      (credentials, withoutBlanks (limitLines limits) ++ rest) := by
  induction credentials with
  | nil => rfl
  | cons credential credentials induction =>
      obtain ⟨id, name, secretFile⟩ := credential
      have lines : withoutBlanks ((⟨id, name, secretFile⟩ ::
          credentials : List CredentialConfig).flatMap credentialLines) =
          withoutBlanks (credentialLines ⟨id, name, secretFile⟩) ++
            withoutBlanks (credentials.flatMap credentialLines) := by
        rw [List.flatMap_cons, withoutBlanks, List.filter_append]
        rfl
      rw [lines, List.append_assoc]
      cases name with
      | none =>
          have first (rest : List ConfigLine) : readCredentials
              (withoutBlanks (credentialLines ⟨id, none, secretFile⟩) ++
                rest) =
              (⟨UInt64.ofNat id.toNat, none, secretFile⟩ ::
                (readCredentials rest).1, (readCredentials rest).2) := rfl
          rw [first, induction, UInt64.ofNat_toNat]
      | some name =>
          have first (rest : List ConfigLine) : readCredentials
              (withoutBlanks (credentialLines ⟨id, some name, secretFile⟩) ++
                rest) =
              (⟨UInt64.ofNat id.toNat, some name, secretFile⟩ ::
                (readCredentials rest).1, (readCredentials rest).2) := rfl
          rw [first, induction, UInt64.ofNat_toNat]

theorem readLimits_lines (limits : Limits) (rest : List ConfigLine) :
    readLimits (withoutBlanks (limitLines limits) ++ rest) =
      some (limits, rest) := by
  have read : readLimits (withoutBlanks (limitLines limits) ++ rest) =
      some ({ limits with
        connectTimeoutSecs := UInt64.ofNat limits.connectTimeoutSecs.toNat
        controlTimeoutSecs := UInt64.ofNat limits.controlTimeoutSecs.toNat
        shutdownTimeoutSecs := UInt64.ofNat
          limits.shutdownTimeoutSecs.toNat }, rest) := rfl
  rw [read]
  simp only [UInt64.ofNat_toNat]

theorem readCover_lines (coverService : Option CoverServiceConfig)
    (acme : Option AcmeConfig) :
    readCover (withoutBlanks (coverService.toList.flatMap coverLines) ++
      withoutBlanks (acme.toList.flatMap acmeLines)) =
      (coverService, withoutBlanks (acme.toList.flatMap acmeLines)) := by
  cases coverService with
  | none =>
      cases acme with
      | none => rfl
      | some policy => rfl
  | some service =>
      have read (rest : List ConfigLine) : readCover (withoutBlanks
          ((some service).toList.flatMap coverLines) ++ rest) =
          (some { service with
            requestHeadTimeoutSecs := UInt64.ofNat
              service.requestHeadTimeoutSecs.toNat
            upstreamTimeoutSecs := UInt64.ofNat
              service.upstreamTimeoutSecs.toNat }, rest) := rfl
      rw [read]
      simp only [UInt64.ofNat_toNat]

theorem readStrings_strings (texts : List String) :
    readStrings (texts.map .string) = some texts := by
  induction texts with
  | nil => rfl
  | cons text texts induction =>
      rw [readStrings] at induction ⊢
      rw [List.map_cons, List.mapM_cons, induction]
      rfl

theorem readAcme_lines (acme : Option AcmeConfig) :
    readAcme (withoutBlanks (acme.toList.flatMap acmeLines)) = some acme := by
  cases acme with
  | none => rfl
  | some policy =>
      have read : readAcme (withoutBlanks
          ((some policy).toList.flatMap acmeLines)) =
          (readStrings (policy.domains.map .string)).bind fun domains =>
            some (some { policy with
              domains
              renewBeforeDays := UInt16.ofNat
                policy.renewBeforeDays.toNat }) := rfl
      rw [read, readStrings_strings]
      simp only [Option.bind_some, UInt16.ofNat_toNat]

theorem ofLines_configLines (config : Config Settings) :
    ofLines (withoutBlanks (configLines config)) = some config := by
  obtain ⟨bind, credentials, version, certificate, privateKey, adminSocket,
    targets, limits, coverService, acme⟩ := config
  have parts (front more limit cover last : List ConfigLine) :
      withoutBlanks (front ++ more ++ limit ++ cover ++ last) =
        withoutBlanks front ++ (withoutBlanks more ++
          (withoutBlanks limit ++ (withoutBlanks cover ++
            withoutBlanks last))) := by
    simp only [withoutBlanks, List.filter_append, List.append_assoc]
  have front (rest : List ConfigLine) : ofLines (withoutBlanks [
      integerLine "version" version.toNat,
      .entry "allowed_targets" (.array (targets.map .string)), .blank,
      .header "[listener]", stringLine "bind" bind,
      stringLine "certificate" certificate,
      stringLine "private_key" privateKey, .blank, .header "[admin]",
      stringLine "socket" adminSocket] ++ rest) =
      readSections ⟨UInt16.ofNat version.toNat, certificate, privateKey,
        adminSocket, [], ⟨0, 0, 0, 0, 0, 0, 0⟩, none, none⟩ bind
        (targets.map .string) rest := rfl
  rw [configLines, parts, front, readSections, readStrings_strings,
    readCredentials_lines]
  simp [readLimits_lines, readCover_lines, readAcme_lines]

/-! ## The template behind the configuration -/

theorem readLines_comment {line rest : Text}
    (comment : line = [] ∨ line.head? = some '#') (whole : '\n' ∉ line) :
    readLines (line ++ '\n' :: rest) = readLines rest := by
  have read : ConfigLine.read line = some .blank := if_pos comment
  rw [readLines_line read whole]
  cases readLines rest with
  | none => rfl
  | some lines => rfl

/-- Lines that hold nothing or a comment. -/
theorem readLines_comments {comments : List Text}
    (every : ∀ line ∈ comments,
      (line = [] ∨ line.head? = some '#') ∧ '\n' ∉ line) (rest : Text) :
    readLines (comments.flatMap (· ++ ['\n']) ++ rest) = readLines rest := by
  induction comments with
  | nil => rfl
  | cons line comments induction =>
      obtain ⟨first, others⟩ := List.forall_mem_cons.mp every
      rw [List.flatMap_cons, List.append_assoc, List.append_assoc,
        List.singleton_append, readLines_comment first.1 first.2,
        induction others]

/-- The template consists of comments, when the address is on one line. -/
theorem readLines_template {bind : String} (whole : '\n' ∉ bind.toList) :
    readLines ("\n".toList ++ (coverServiceTemplate bind).toList) =
      some [] := by
  let before : List String := ["", "",
    "# Optional reverse-proxy cover service. It accepts plaintext " ++
      "HTTP/1.1 behind",
    "# an operator-owned TLS terminator; omit this section to keep it " ++
      "disabled.",
    "# [cover_service]"]
  let behind : List String := ["# upstream = \"cover.example.com:8080\"",
    "# request_head_timeout_secs = 5", "# upstream_timeout_secs = 5",
    "# max_connections = 256"]
  have text : "\n".toList ++ (coverServiceTemplate bind).toList =
      (before.map String.toList).flatMap (· ++ ['\n']) ++
        ("# bind = \"".toList ++ bind.toList ++ ['"'] ++ '\n' ::
          ((behind.map String.toList).flatMap (· ++ ['\n']) ++ [])) := by
    have front : "\n".toList ++ templateFront.toList =
        (before.map String.toList).flatMap (· ++ ['\n']) ++
          "# bind = \"".toList := by decide +kernel
    have back : templateBack.toList = ['"'] ++ '\n' ::
        (behind.map String.toList).flatMap (· ++ ['\n']) := by
      decide +kernel
    rw [coverServiceTemplate, String.toList_append, String.toList_append, back,
      ← List.append_assoc, ← List.append_assoc, ← List.append_assoc, front]
    simp only [List.append_assoc, List.append_nil]
  have comments : ∀ lines ∈ [before, behind],
      ∀ line ∈ lines.map String.toList,
        (line = [] ∨ line.head? = some '#') ∧ '\n' ∉ line := by
    decide +kernel
  rw [text, readLines_comments (comments before (by simp)),
    readLines_comment, readLines_comments (comments behind (by simp))]
  · rfl
  · exact .inr rfl
  · intro member
    simp only [List.mem_append, List.mem_singleton] at member
    rcases member with (fixed | inBind) | quote
    · revert fixed
      decide
    · exact whole inBind
    · cases quote

/-- A configuration with an address is read back from its text. -/
theorem fromStr_written {config : Config Settings} {encoded : String}
    (bound : (AddressText.parseSocketAddr config.bind.toList).isSome)
    (encodes : configToml.toStringPretty config = .ok encoded) :
    configToml.fromStr (written config encoded) = .ok config := by
  obtain ⟨address, parsed⟩ := Option.isSome_iff_exists.mp bound
  have whole : '\n' ∉ config.bind.toList := by
    intro member
    have visible := AddressText.visible_of_parseSocketAddr parsed _ member
    revert visible
    decide
  have text : encoded.toList = writeLines (configLines config) := by
    simp only [configToml] at encodes
    split at encodes
    next => cases encodes; exact String.toList_ofList
    next => cases encodes
  have lines : readLines (written config encoded).toList =
      some (withoutBlanks (configLines config)) := by
    rw [written, String.toList_append, String.toList_append, text,
      List.append_assoc, readLines_writeLines (readable_configLines config),
      readLines_template whole]
    simp
  simp only [configToml, lines, Option.bind_some, ofLines_configLines]

end Velum.Node.Issuance
