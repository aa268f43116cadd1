import Velum.Node.ProvisionedFiles

/-!
# The clients that a relay accepts

A start loads one credential for each entry of the configuration.  Issues and
revokes keep the two lists in step, whatever fails, so a run of them changes
whom the relay accepts exactly as its events say.
-/

namespace Velum.Node.Issuance

open Foundation HostProgram Velum.Server

/-! ## What is prepared -/

section Prepared

variable {Document : Type} {codec : EnrollmentCodec Document}
  {acceptsServerName : String → Bool} {host : RelayHost Document}
  {options : IssueOptions} {original : List CredentialConfig}

theorem le_max_word (first second : UInt64) :
    first.toNat ≤ (max first second).toNat ∧
      second.toNat ≤ (max first second).toNat := by
  have larger : max first second =
      if first ≤ second then second else first := rfl
  rw [larger]
  split
  next below => exact ⟨UInt64.le_iff_toNat_le.mp below, le_refl _⟩
  next above =>
      rw [UInt64.le_iff_toNat_le, Nat.not_le] at above
      exact ⟨le_refl _, above.le⟩

theorem le_foldl_max (ids : List UInt64) (start : UInt64) :
    start.toNat ≤ (ids.foldl max start).toNat ∧
      ∀ id ∈ ids, id.toNat ≤ (ids.foldl max start).toNat := by
  induction ids generalizing start with
  | nil => exact ⟨le_refl _, by simp⟩
  | cons first rest induction =>
      obtain ⟨grows, bounds⟩ := induction (max start first)
      obtain ⟨left, right⟩ := le_max_word start first
      rw [List.foldl_cons, List.forall_mem_cons]
      exact ⟨left.trans grows, right.trans grows, bounds⟩

theorem le_largestId {entry : CredentialConfig} (member : entry ∈ original) :
    entry.id.toNat ≤ (largestId original).toNat :=
  (le_foldl_max (original.map (·.id)) 0).2 _ (List.mem_map_of_mem member)

theorem forM_requireSecret {entries : List CredentialConfig}
    (checked : entries.forM (requireSecret host) = .ok ()) :
    ∀ entry ∈ entries, ∃ secret, host.readSecret entry.secretFile =
      .ok secret ∧ secret.length = 32 := by
  induction entries with
  | nil => simp
  | cons entry rest induction =>
      have both : (do
          requireSecret host entry
          rest.forM (requireSecret host)) = .ok () := checked
      obtain ⟨_, first, others⟩ := bind_eq_ok both
      obtain ⟨secret, read, right⟩ := bind_eq_ok first
      rw [List.forall_mem_cons]
      exact ⟨⟨secret, read, not_not.mp (refuse_eq_ok right)⟩,
        induction others⟩

/-- What an issue has prepared for a new credential. -/
structure Fresh (host : RelayHost Document)
    (original : List CredentialConfig) (prepared : Prepared Document) :
    Prop where
  checked : ∀ entry ∈ original, ∃ secret,
    host.readSecret entry.secretFile = .ok secret ∧ secret.length = 32
  next : prepared.principalId.toNat = (largestId original).toNat + 1
  drawn : ∃ secret, host.newSecret = .ok secret ∧ prepared.secret = secret.1
  bundle : prepared.bundle.principalId = prepared.principalId ∧
    prepared.bundle.credential = Hex.encode prepared.secret

theorem fresh_of_prepared {prepared : Prepared Document}
    (accepted : prepareIssue codec acceptsServerName host options original =
      .ok prepared) : Fresh host original prepared := by
  obtain ⟨_, _, accepted⟩ := bind_eq_ok accepted
  obtain ⟨_, checked, accepted⟩ := bind_eq_ok accepted
  obtain ⟨_, _, accepted⟩ := bind_eq_ok accepted
  obtain ⟨principalId, next, accepted⟩ := bind_eq_ok accepted
  obtain ⟨_, _, accepted⟩ := bind_eq_ok accepted
  obtain ⟨secret, drawn, accepted⟩ := bind_eq_ok accepted
  obtain ⟨_, _, accepted⟩ := bind_eq_ok accepted
  obtain ⟨bundle, created, accepted⟩ := bind_eq_ok accepted
  obtain ⟨_, _, accepted⟩ := bind_eq_ok accepted
  obtain ⟨_, _, accepted⟩ := bind_eq_ok accepted
  cases accepted
  obtain ⟨rfl, _⟩ := new_eq_ok (mapError_eq_ok created)
  exact ⟨forM_requireSecret checked,
    checkedAdd_eq_some_iff.mp (okOr_eq_ok next), ⟨secret, drawn, rfl⟩,
    rfl, rfl⟩

end Prepared

/-! ## Whom the relay accepts -/

section Accepting

variable {Certificate Key Document : Type} {relay : StartHost Certificate Key}
  {toml : ConfigCodec Settings} {resolve : String → FilePath}
  {configPath : FilePath} {state after : RelayFiles}
  {config : Config Settings} {loaded : LoadedConfig Certificate Key}
  {credentials : List PrincipalCredential}

/-- Credentials whose files are as before are loaded as before. -/
theorem loads_after {entries : List CredentialConfig}
    (loads : List.Forall₂ (fun entry credential =>
      loadCredential resolve state.1 state.2 entry = .ok credential)
      entries credentials)
    (same : ∀ entry credential, entry ∈ entries →
      credential ∈ credentials →
      loadCredential resolve state.1 state.2 entry = .ok credential →
      after.1 (resolve entry.secretFile) =
          state.1 (resolve entry.secretFile) ∧
        after.2 (resolve entry.secretFile) =
          state.2 (resolve entry.secretFile)) :
    List.Forall₂ (fun entry credential =>
      loadCredential resolve after.1 after.2 entry = .ok credential)
      entries credentials := by
  induction loads with
  | nil => exact .nil
  | cons found rest induction =>
      refine .cons ?_ (induction ?_)
      · obtain ⟨held, hidden⟩ := same _ _ List.mem_cons_self
          List.mem_cons_self found
        rw [loadCredential_congr held hidden]
        exact found
      · intro entry credential entryMember member
        exact same entry credential (List.mem_cons_of_mem _ entryMember)
          (List.mem_cons_of_mem _ member)

theorem exists_of_forall₂ {Left Right : Type} {related : Left → Right → Prop}
    {lefts : List Left} {rights : List Right}
    (pairs : List.Forall₂ related lefts rights) {left : Left}
    (member : left ∈ lefts) : ∃ right ∈ rights, related left right := by
  induction pairs with
  | nil => cases member
  | cons first _ induction =>
      rcases List.mem_cons.mp member with rfl | later
      · exact ⟨_, List.mem_cons_self, first⟩
      · obtain ⟨right, inside, pair⟩ := induction later
        exact ⟨right, List.mem_cons_of_mem _ inside, pair⟩

variable (toml configPath) in
/-- The configuration is as given; the other files that were there have not
changed, save the temporary file, and private ones are still private. -/
structure Keeps (config : Config Settings) (state after : RelayFiles) :
    Prop where
  leaves : Leaves toml configPath config state.1 after.1
  hidden : StillPrivate configPath state after

theorem Keeps.same {other : Config Settings}
    (keeps : Keeps toml configPath other state after) {path : FilePath}
    (held : (state.1 path).isSome ∧ state.2 path = false)
    (live : path ≠ configPath)
    (temporary : path ≠ configPath.withExtension "toml.tmp".toList) :
    after.1 path = state.1 path ∧ after.2 path = state.2 path := by
  obtain ⟨present, hidden⟩ := held
  rw [keeps.leaves.kept path present live temporary,
    keeps.hidden path present hidden live temporary, hidden]
  exact ⟨rfl, rfl⟩

/-- A change that keeps the other files keeps what is loaded. -/
theorem Serves.loads_kept {other : Config Settings}
    (serves : Serves relay toml resolve configPath loaded state config
      credentials)
    (keeps : Keeps toml configPath other state after) :
    List.Forall₂ (fun entry credential =>
      loadCredential resolve after.1 after.2 entry = .ok credential)
      config.credentials credentials := by
  apply loads_after serves.loads
  intro entry _ member _ found
  obtain ⟨live, temporary, _⟩ := serves.apart.secrets entry member
  exact keeps.same (held_of_loadCredential found) live temporary

theorem SettingsLoaded.congr {settings : Settings}
    (found : SettingsLoaded relay resolve loaded settings state)
    (certificate : after.1 (resolve settings.certificate) =
      state.1 (resolve settings.certificate))
    (key : after.1 (resolve settings.privateKey) =
        state.1 (resolve settings.privateKey) ∧
      after.2 (resolve settings.privateKey) =
        state.2 (resolve settings.privateKey)) :
    SettingsLoaded relay resolve loaded settings after := by
  intro authenticator
  exact (loadSettings_congr (found authenticator) certificate key.1
    key.2).trans rfl

theorem SettingsLoaded.held {settings : Settings}
    (found : SettingsLoaded relay resolve loaded settings state) :
    (state.1 (resolve settings.certificate)).isSome ∧
      (state.1 (resolve settings.privateKey)).isSome ∧
        state.2 (resolve settings.privateKey) = false :=
  held_of_loadSettings (found loaded.admission.authenticator)

theorem SettingsLoaded.kept {other : Config Settings}
    (found : SettingsLoaded relay resolve loaded config.rest state)
    (apart : Apart resolve configPath config)
    (keeps : Keeps toml configPath other state after) :
    SettingsLoaded relay resolve loaded config.rest after := by
  have listener := apart.listener
  simp only [List.mem_cons, List.not_mem_nil, or_false, forall_eq_or_imp,
    forall_eq] at listener
  obtain ⟨⟨certificateLive, certificateOther⟩, keyLive, keyOther⟩ := listener
  obtain ⟨certificate, key⟩ := found.held
  apply found.congr
  · exact keeps.leaves.kept _ certificate certificateLive certificateOther
  · exact keeps.same key keyLive keyOther

theorem Serves.kept
    (serves : Serves relay toml resolve configPath loaded state config
      credentials)
    (keeps : Keeps toml configPath config state after) :
    Serves relay toml resolve configPath loaded after config credentials where
  reads := keeps.leaves.reads
  checked := serves.checked
  loads := serves.loads_kept keeps
  consistent := serves.consistent
  settings := serves.settings.kept serves.apart keeps
  apart := serves.apart

/-- A credential of the configuration has one that was loaded for it, and the
other way round. -/
theorem Serves.credential {entry : CredentialConfig}
    (serves : Serves relay toml resolve configPath loaded state config
      credentials)
    (member : entry ∈ config.credentials) :
    ∃ credential ∈ credentials,
      readSecret resolve state.1 state.2 entry.secretFile =
        .ok credential.secret ∧
      credential.principal = ⟨entry.id⟩ := by
  obtain ⟨credential, inside, found⟩ := exists_of_forall₂ serves.loads member
  exact ⟨credential, inside, loadCredential_eq_ok_iff.mp found⟩

theorem Serves.entry {credential : PrincipalCredential}
    (serves : Serves relay toml resolve configPath loaded state config
      credentials)
    (member : credential ∈ credentials) :
    ∃ entry ∈ config.credentials,
      readSecret resolve state.1 state.2 entry.secretFile =
        .ok credential.secret ∧
      credential.principal = ⟨entry.id⟩ := by
  obtain ⟨entry, inside, found⟩ :=
    exists_of_forall₂ (List.Forall₂.flip serves.loads) member
  exact ⟨entry, inside, loadCredential_eq_ok_iff.mp found⟩

/-- A prepared credential differs from the loaded ones. -/
theorem Serves.joins {host : RelayHost Document}
    {prepared : Prepared Document} {credential : PrincipalCredential}
    (serves : Serves relay toml resolve configPath loaded state config
      credentials)
    (draws : Draws resolve state host)
    (fresh : Fresh host config.credentials prepared)
    (principal : credential.principal = ⟨prepared.principalId⟩)
    (secret : credential.secret = prepared.secret) :
    Joins credentials credential := by
  obtain ⟨drawn, new, taken⟩ := fresh.drawn
  have checked : ∀ other ∈ credentials, ∃ entry ∈ config.credentials,
      host.readSecret entry.secretFile = .ok other.secret ∧
      other.secret.length = 32 ∧ other.principal = ⟨entry.id⟩ := by
    intro other member
    obtain ⟨entry, inside, found, named⟩ := serves.entry member
    obtain ⟨bytes, read, length⟩ := fresh.checked entry inside
    cases found.symm.trans (draws.reads _ _ read)
    exact ⟨entry, inside, read, length, named⟩
  constructor
  · intro other member
    obtain ⟨_, _, _, length, _⟩ := checked other member
    rw [length, secret, taken, drawn.2]
  · intro other member same
    obtain ⟨entry, _, read, _⟩ := checked other member
    rw [same, secret, taken] at read
    exact draws.fresh drawn _ new read
  · intro other member same
    obtain ⟨entry, inside, _, _, named⟩ := checked other member
    rw [same, principal] at named
    have next := fresh.next
    rw [PrincipalId.mk.inj named] at next
    have bound := le_largestId inside
    omega

/-- What an issue has added is loaded beside what was there. -/
theorem Serves.adds {host : RelayHost Document} {options : IssueOptions}
    {prepared : Prepared Document} {secretPath : FilePath}
    (serves : Serves relay toml resolve configPath loaded state config
      credentials)
    (inside : InCredentials configPath secretPath)
    (shown : resolve secretPath.display = secretPath)
    (draws : Draws resolve state host)
    (fresh : Fresh host config.credentials prepared)
    (free : state.1 secretPath = none)
    (stored : after.1 secretPath = some (Hex.encode prepared.secret ++ "\n"))
    (hidden : after.2 secretPath = false)
    (keeps : Keeps toml configPath
      (updated config options prepared.principalId secretPath) state after) :
    ∃ credential : PrincipalCredential,
      credential.principal = ⟨prepared.principalId⟩ ∧
      credential.secret = prepared.secret ∧
      Serves relay toml resolve configPath loaded after
        (updated config options prepared.principalId secretPath)
        (credentials ++ [credential]) := by
  obtain ⟨drawn, _, taken⟩ := fresh.drawn
  have length : prepared.secret.length = 32 := by rw [taken, drawn.2]
  have filled : prepared.secret ≠ [] := by
    intro empty
    rw [empty] at length
    cases length
  refine ⟨⟨⟨prepared.principalId⟩, prepared.secret, by simpa using filled⟩,
    rfl, rfl, ?_⟩
  constructor
  case reads => exact keeps.leaves.reads
  case checked =>
    exact checkConfig_of_filled serves.checked (by simp)
  case settings =>
    exact serves.settings.kept serves.apart keeps
  case consistent =>
    exact consistent_append_singleton.mpr
      ⟨serves.consistent, serves.joins draws fresh rfl rfl⟩
  case apart =>
    refine ⟨serves.apart.listener, ?_⟩
    intro entry member
    rcases List.mem_append.mp member with old | new
    · exact serves.apart.secrets entry old
    · cases List.mem_singleton.mp new
      obtain ⟨certificate, key, _⟩ := serves.settings.held
      have taken {path : FilePath} (present : (state.1 path).isSome) :
          secretPath ≠ path := by
        rintro rfl
        rw [free] at present
        cases present
      rw [shown]
      exact ⟨inside.ne_config, inside.ne_temporary _, taken certificate,
        taken key⟩
  case loads =>
    have short : prepared.secret.length ≤
        Velum.Node.Config.maxSecretBytes := by
      rw [length, Velum.Node.Config.maxSecretBytes]
      omega
    refine List.rel_append (serves.loads_kept keeps) (.cons ?_ .nil)
    rw [loadCredential_eq_ok_iff, readSecret_eq_ok_iff]
    refine ⟨⟨_, ?_, ?_, decodeSecret_written filled short⟩, rfl⟩
    · rw [shown]
      exact stored
    · rw [shown]
      exact hidden

/-- Names of one file give one secret. -/
theorem secret_eq_of_resolve {name other : String}
    {secret bytes : List UInt8} (same : resolve name = resolve other)
    (found : readSecret resolve state.1 state.2 name = .ok secret)
    (read : readSecret resolve state.1 state.2 other = .ok bytes) :
    secret = bytes := by
  obtain ⟨encoded, held, _, decoded⟩ := readSecret_eq_ok_iff.mp found
  obtain ⟨contents, present, _, decodes⟩ := readSecret_eq_ok_iff.mp read
  rw [same, present] at held
  cases held
  exact Outcome.ok.inj (decoded.symm.trans decodes)

/-- Who is removed from the configuration is removed from what is loaded. -/
theorem forall₂_eraseP {selected : CredentialConfig → Bool}
    {entries : List CredentialConfig} {removed : CredentialConfig}
    (loads : List.Forall₂ (fun entry credential =>
      loadCredential resolve state.1 state.2 entry = .ok credential)
      entries credentials)
    (principals : (credentials.map (·.principal)).Nodup)
    (found : entries.find? selected = some removed) :
    List.Forall₂ (fun entry credential =>
      loadCredential resolve state.1 state.2 entry = .ok credential)
      (entries.eraseP selected)
      (credentials.filter (·.principal ≠ ⟨removed.id⟩)) := by
  induction loads with
  | nil => cases found
  | @cons entry credential rest others first loads induction =>
      rw [List.map_cons, List.nodup_cons] at principals
      have named := (loadCredential_eq_ok_iff.mp first).2
      cases chosen : selected entry with
      | true =>
          rw [List.find?_cons_of_pos chosen] at found
          cases found
          have kept :
              others.filter (·.principal ≠ ⟨removed.id⟩) = others := by
            rw [List.filter_eq_self]
            intro other member
            rw [decide_eq_true_eq, ← named]
            intro same
            exact principals.1 (same ▸ List.mem_map_of_mem member)
          rw [List.eraseP_cons_of_pos chosen,
            List.filter_cons_of_neg (by simp [named]), kept]
          exact loads
      | false =>
          have notChosen : ¬selected entry = true := by simp [chosen]
          rw [List.find?_cons_of_neg notChosen] at found
          obtain ⟨other, member, pair⟩ :=
            exists_of_forall₂ loads (List.mem_of_find?_eq_some found)
          have otherNamed := (loadCredential_eq_ok_iff.mp pair).2
          have different : credential.principal ≠ ⟨removed.id⟩ := by
            rw [← otherNamed]
            intro same
            exact principals.1 (same ▸ List.mem_map_of_mem member)
          rw [List.eraseP_cons_of_neg notChosen,
            List.filter_cons_of_pos (by simpa using different)]
          exact .cons first (induction principals.2 found)

/-- What a revoke has removed is not loaded any more. -/
theorem Serves.removes {selector : Selector} {removed : CredentialConfig}
    (serves : Serves relay toml resolve configPath loaded state config
      credentials)
    (selected : config.credentials.find? selector.selects = some removed)
    (several : config.credentials.length ≠ 1)
    (keeps : Keeps toml configPath { config with
        credentials := config.credentials.eraseP selector.selects }
      (state.without (resolve removed.secretFile)) after) :
    Serves relay toml resolve configPath loaded after
      { config with
        credentials := config.credentials.eraseP selector.selects }
      (credentials.filter (·.principal ≠ ⟨removed.id⟩)) := by
  have present := List.mem_of_find?_eq_some selected
  have chosen := List.find?_some selected
  obtain ⟨gone, goneMember, goneSecret, gonePrincipal⟩ :=
    serves.credential present
  obtain ⟨_, _, certificateApart, keyApart⟩ :=
    serves.apart.secrets removed present
  constructor
  case reads => exact keeps.leaves.reads
  case checked =>
    have length := List.length_eraseP_add_one present chosen
    apply checkConfig_of_filled serves.checked
    intro empty
    rw [empty] at length
    exact several length.symm
  case consistent =>
    exact serves.consistent.sublist List.filter_sublist
  case settings =>
    have before : SettingsLoaded relay resolve loaded config.rest
        (state.without (resolve removed.secretFile)) := by
      apply serves.settings.congr
      · exact RelayFiles.without_of_ne certificateApart.symm
      · exact ⟨RelayFiles.without_of_ne keyApart.symm, rfl⟩
    exact before.kept serves.apart keeps
  case apart =>
    refine ⟨serves.apart.listener, ?_⟩
    intro entry member
    exact serves.apart.secrets entry (List.mem_of_mem_eraseP member)
  case loads =>
    have kept := forall₂_eraseP serves.loads serves.consistent.principals
      selected
    apply loads_after kept
    intro entry credential member inside found
    obtain ⟨live, temporary, _⟩ :=
      serves.apart.secrets entry (List.mem_of_mem_eraseP member)
    have apart : resolve entry.secretFile ≠ resolve removed.secretFile := by
      intro same
      obtain ⟨old, different⟩ := List.mem_filter.mp inside
      rw [decide_eq_true_eq] at different
      have secrets := secret_eq_of_resolve same
        (loadCredential_eq_ok_iff.mp found).1 goneSecret
      have equal : credential = gone :=
        List.inj_on_of_nodup_map serves.consistent.secrets old goneMember
          secrets
      rw [equal] at different
      exact different gonePrincipal
    have held := held_of_loadCredential found
    have before : (state.without (resolve removed.secretFile)).1
        (resolve entry.secretFile) = state.1 (resolve entry.secretFile) :=
      RelayFiles.without_of_ne apart
    rw [← before] at held ⊢
    exact keeps.same held live temporary

end Accepting

/-! ## Runs -/

section Runs

variable {Certificate Key Document : Type} {relay : StartHost Certificate Key}
  {toml : ConfigCodec Settings} {codec : EnrollmentCodec Document}
  {characters : Document → String} {acceptsServerName : String → Bool}
  {resolve : String → FilePath} {configPath : FilePath}
  {state after : RelayFiles} {config : Config Settings}
  {loaded : LoadedConfig Certificate Key}
  {credentials : List PrincipalCredential} {event : RelayEvent}

theorem accepts_append {credential : PrincipalCredential}
    {secret : List UInt8} {principal : PrincipalId} :
    Accepts (credentials ++ [credential]) secret principal ↔
      Accepts credentials secret principal ∨
        credential.secret = secret ∧ principal = credential.principal := by
  simp only [Accepts, List.mem_append, List.mem_singleton]
  constructor
  · rintro ⟨other, old | rfl, named, same⟩
    · exact .inl ⟨other, old, named, same⟩
    · exact .inr ⟨same, named.symm⟩
  · rintro (⟨other, old, named, same⟩ | ⟨same, named⟩)
    · exact ⟨other, .inl old, named, same⟩
    · exact ⟨credential, .inr rfl, named.symm, same⟩

theorem accepts_filter {gone principal : PrincipalId}
    {secret : List UInt8} :
    Accepts (credentials.filter (·.principal ≠ gone)) secret principal ↔
      Accepts credentials secret principal ∧ principal ≠ gone := by
  simp only [Accepts, List.mem_filter, decide_eq_true_eq]
  constructor
  · rintro ⟨credential, ⟨member, different⟩, rfl, same⟩
    exact ⟨⟨credential, member, rfl, same⟩, different⟩
  · rintro ⟨⟨credential, member, rfl, same⟩, different⟩
    exact ⟨credential, ⟨member, different⟩, rfl, same⟩

/-- The address of a configuration that was loaded is that of a socket. -/
theorem Serves.bound
    (serves : Serves relay toml resolve configPath loaded state config
      credentials) : Bound config :=
  (address_of_checkConfig serves.checked).1

/-- A step leaves files with which the relay starts, and changes whom it
accepts as the event says. -/
theorem serves_of_step (trips : RoundTrips toml)
    (named : configPath.fileName.isSome)
    (serves : Serves relay toml resolve configPath loaded state config
      credentials)
    (move : Step toml codec characters acceptsServerName resolve configPath
      state event after) :
    ∃ config credentials',
      Serves relay toml resolve configPath loaded after config credentials' ∧
      ∀ secret principal, Accepts credentials' secret principal ↔
        RelayEvent.update (Accepts credentials) event secret principal := by
  cases move with
  | @issued host options output configParent found prepared final draws reads
      known prepares shown ended =>
      cases reads.unique serves.reads
      obtain ⟨parent, again, located, prepared', adds⟩ :=
        ((ensures_issue_leaves trips serves.bound named serves.reads).of_ends
          (ends_of_moded ended)).1 () rfl
      cases known.symm.trans located
      cases prepares.symm.trans prepared'
      have private_ := (secures_issue_new.of_ends ended).1 () rfl
        _ _ _ serves.reads known prepares
      have fresh := fresh_of_prepared prepares
      have drawn : Draws resolve state { host with
          configParent := configPath.parent.map FilePath.display } :=
        ⟨draws.reads, draws.fresh⟩
      have keeps : Keeps toml configPath (updated config options
          prepared.principalId (secretFile configParent options.clientName
            prepared.principalId)) state (filesAfter final) :=
        ⟨adds.leaves, stillPrivate_of_issue ended⟩
      obtain ⟨credential, principal, secret, later⟩ :=
        serves.adds ⟨configParent, _, known, rfl⟩ shown drawn fresh adds.free
          adds.stored private_.2 keeps
      refine ⟨_, _, later, ?_⟩
      intro bytes other
      have filled : prepared.secret ≠ [] := by
        rw [← secret]
        simpa using credential.nonempty
      rw [accepts_append, RelayEvent.update, fresh.bundle.1, fresh.bundle.2,
        decodeHex_encode filled, principal, secret]
      dsimp only
      rw [Outcome.ok.injEq]
  | @unissued host options output message final ended restored =>
      have leaves :=
        ((ensures_issue_leaves trips serves.bound named serves.reads).of_ends
          (ends_of_moded ended)).2 message rfl restored
      have keeps : Keeps toml configPath config state (filesAfter final) :=
        ⟨leaves, stillPrivate_of_issue ended⟩
      exact ⟨config, credentials, serves.kept keeps, fun _ _ => Iff.rfl⟩
  | @revoked selector found removed result final reads selected ended
      cleaned =>
      cases reads.unique serves.reads
      have ends := (ensures_revoke_leaves trips serves.bound named serves.reads
        fun entry member => (serves.apart.secrets entry member).1).of_ends
          (ends_of_moded ended)
      have removes : ∃ removed,
          config.credentials.find? selector.selects = some removed ∧
          config.credentials.length ≠ 1 ∧
          Removes toml configPath config selector removed resolve state.1
            final.1.1 := by
        cases result with
        | ok value => exact ends.1 value rfl
        | error message =>
            apply (ends.2 message rfl).2
            rcases cleaned with returned | failed
            · cases returned
            · exact failed
      obtain ⟨other, again, several, removes⟩ := removes
      cases selected.symm.trans again
      have keeps : Keeps toml configPath { config with
          credentials := config.credentials.eraseP selector.selects }
          (state.without (resolve removed.secretFile)) (filesAfter final) :=
        ⟨removes, stillPrivate_of_revoke reads selected ended⟩
      exact ⟨_, _, serves.removes selected several keeps,
        fun _ _ => accepts_filter⟩
  | @unrevoked selector message final ended early =>
      have leaves := ((ensures_revoke_leaves trips serves.bound named
        serves.reads fun entry member =>
          (serves.apart.secrets entry member).1).of_ends
            (ends_of_moded ended)).2 message rfl
      have keeps : Keeps toml configPath config state (filesAfter final) :=
        ⟨leaves.1 early, stillPrivate_of_unrevoked ended⟩
      exact ⟨config, credentials, serves.kept keeps, fun _ _ => Iff.rfl⟩

theorem update_congr {accepted others : List UInt8 → PrincipalId → Prop}
    (same : ∀ secret principal,
      accepted secret principal ↔ others secret principal)
    (secret : List UInt8) (principal : PrincipalId) :
    RelayEvent.update accepted event secret principal ↔
      RelayEvent.update others event secret principal := by
  cases event with
  | issued bundle => exact or_congr (same _ _) Iff.rfl
  | revoked gone => exact and_congr (same _ _) Iff.rfl
  | unchanged => exact same _ _

/-- Whom the relay accepts after a run. -/
def acceptedAfter (accepted : List UInt8 → PrincipalId → Prop)
    (trace : List RelayEvent) : List UInt8 → PrincipalId → Prop :=
  trace.foldl RelayEvent.update accepted

theorem serves_of_run (trips : RoundTrips toml)
    (named : configPath.fileName.isSome) {trace : List RelayEvent}
    (serves : Serves relay toml resolve configPath loaded state config
      credentials)
    (run : Run (Step toml codec characters acceptsServerName resolve
      configPath) state trace after) :
    ∃ config credentials',
      Serves relay toml resolve configPath loaded after config credentials' ∧
      ∀ secret principal, Accepts credentials' secret principal ↔
        acceptedAfter (Accepts credentials) trace secret principal := by
  induction run with
  | nil => exact ⟨config, credentials, serves, fun _ _ => Iff.rfl⟩
  | snoc _ move induction =>
      obtain ⟨_, _, reached, accepts⟩ := induction
      obtain ⟨later, loaded, serving, updates⟩ :=
        serves_of_step trips named reached move
      refine ⟨later, loaded, serving, ?_⟩
      intro secret principal
      rw [updates, acceptedAfter, List.foldl_append]
      exact update_congr accepts secret principal

theorem acceptedAfter_congr {trace : List RelayEvent}
    {accepted others : List UInt8 → PrincipalId → Prop}
    (same : ∀ secret principal,
      accepted secret principal ↔ others secret principal)
    (secret : List UInt8) (principal : PrincipalId) :
    acceptedAfter accepted trace secret principal ↔
      acceptedAfter others trace secret principal := by
  induction trace generalizing accepted others with
  | nil => exact same secret principal
  | cons event rest induction => exact induction (update_congr same)

/-- After any issues and revokes, of which any may fail at any operation as
long as the old configuration could be written back where that was tried, the
relay starts again with the settings it had; it then accepts whom it accepted
before and the clients that were issued an enrollment, each with the credential
of the enrollment, save those that were revoked. -/
theorem relay_accepts_issued {Certificate Key Document : Type}
    (relay : StartHost Certificate Key) (toml : ConfigCodec Settings)
    (codec : EnrollmentCodec Document) (characters : Document → String)
    (acceptsServerName : String → Bool) (resolve : String → FilePath)
    (configPath : FilePath) (trips : RoundTrips toml)
    (named : configPath.fileName.isSome)
    (state after : RelayFiles) (before : LoadedConfig Certificate Key)
    (started : load relay toml resolve state.1 state.2 configPath =
      .ok before)
    (apart : ∀ config, Reads toml configPath state.1 config →
      Apart resolve configPath config)
    (trace : List RelayEvent)
    (run : Run (Step toml codec characters acceptsServerName resolve
      configPath) state trace after) :
    ∃ authenticator,
      load relay toml resolve after.1 after.2 configPath =
        .ok (before.withAuthenticator authenticator) ∧
      ∀ secret principal, authenticator.authenticate secret = .ok principal ↔
        acceptedAfter (fun secret principal =>
          before.admission.authenticator.authenticate secret = .ok principal)
            trace secret principal := by
  obtain ⟨_, _, serves, accepted⟩ := serves_of_load started apart
  obtain ⟨_, _, later, accepts⟩ := serves_of_run trips named serves run
  obtain ⟨authenticator, restarted, answers⟩ := later.load
  refine ⟨authenticator, restarted, ?_⟩
  intro secret principal
  rw [answers, accepts]
  exact acceptedAfter_congr (fun _ _ => (accepted _ _).symm) secret principal

end Runs

/-! ## A relay that replaces its first client -/

/-- A configuration that can be encoded is written where nothing fails. -/
theorem run_write {Rest : Type} {toml : ConfigCodec Rest}
    {label : ConfigStep → IssueStep} {configPath parent : FilePath}
    {config : Config Rest} {encoded : String}
    {state : ModedState IssueStep FilePath String}
    (known : configPath.parent = some parent)
    (encodes : toml.toStringPretty config = .ok encoded) :
    (Script.run (answerModed fun _ => none)
      (write toml label configPath config) state).1 = .ok () := by
  have staged : ∀ files : FilePath → Option String,
      Function.update files (configPath.withExtension "toml.tmp".toList)
        (some (written config encoded))
        (configPath.withExtension "toml.tmp".toList) =
          some (written config encoded) :=
    fun files => Function.update_self _ _ _
  rw [write, known]
  refine (congrArg Prod.fst (Script.run_bind_ok (run_attempt rfl))).trans ?_
  simp only [encodes]
  refine (congrArg Prod.fst (Script.run_bind_ok (run_attempt rfl))).trans ?_
  refine (congrArg Prod.fst (Script.run_bind_ok (run_attempt rfl))).trans ?_
  exact congrArg Prod.fst (run_attempt (by
    simp only [FileOperation.effect, staged]
    rfl))

theorem run_removeSecret {resolve : String → FilePath}
    {removed : CredentialConfig}
    {state : ModedState IssueStep FilePath String} :
    (Script.run (answerModed fun _ => none) (removeSecret resolve removed)
      state).1 = .ok () := by
  refine (congrArg Prod.fst (Script.run_bind _ _ _)).trans ?_
  simp only [Script.run_call, answerModed, answerStopping, Script.observed,
    HostCall.answer]
  cases effect : (FileOperation.remove (resolve removed.secretFile)).effect
      state.1.1 with
  | some after => rfl
  | none => rfl

/-- A revoke that selects one of several clients succeeds there. -/
theorem run_revoke {Rest : Type} {toml : ConfigCodec Rest}
    {resolve : String → FilePath} {selector : Selector}
    {configPath parent : FilePath} {removed : CredentialConfig}
    {config : Config Rest} {encoded : String}
    {state : ModedState IssueStep FilePath String}
    (reads : Reads toml configPath state.1.1 config)
    (several : config.credentials.length ≠ 1)
    (selected : config.credentials.find? selector.selects = some removed)
    (known : configPath.parent = some parent)
    (encodes : toml.toStringPretty { config with
        credentials := config.credentials.eraseP selector.selects } =
      .ok encoded) :
    (Script.run (answerModed fun _ => none)
      (revoke toml resolve selector configPath) state).1 = .ok () := by
  obtain ⟨source, held, parsed⟩ := reads
  have reading := run_read (answerModed_read (fun _ => none) rfl held) parsed
  have wrote := @run_write _ _ .config _ _ _ _ state known encodes
  refine (congrArg Prod.fst (Script.run_bind_ok reading)).trans ?_
  simp only [if_neg several, selected]
  exact (congrArg Prod.fst (Script.run_bind_ok (Prod.ext wrote rfl))).trans
    run_removeSecret

def initialCredential : CredentialConfig where
  id := 1
  name := none
  secretFile := "/etc/velum/credential.hex"

def phoneCredential : CredentialConfig where
  id := 2
  name := some "phone"
  secretFile := "/etc/velum/credentials/phone-2.hex"

/-- A certificate of the relay's name, in Base64. -/
def relayCertificate : List String :=
  ["MIIBFjCByaADAgECAhQRukoaUd+t0mC8ZUjE2h2t/k2NRDAFBgMrZXAwDDEKMAgG",
    "A1UEAwwBcjAgFw0yNjExMTkxMTA4MzZaGA8yMTI2MTAyNjExMDgzNlowDDEKMAgG",
    "A1UEAwwBcjAqMAUGAytlcAMhABnwtHXw80tX832keWaoL333E/zNLEXxIRalLsf6",
    "Q4/RozswOTAYBgNVHREEETAPgg1yZWxheS5leGFtcGxlMB0GA1UdDgQWBBStmZEe",
    "W+D6lOCwNWFVn/PLizt6UzAFBgMrZXADQQBnFroKtqcV+KPSNzo8tucLY+VoZIDF",
    "/waF6mOGYGveCuxnyto8Ft3rpng958wzJDMJbLIbwaU6rHJ/u/wRGg4L"]

def relayKey : List String :=
  ["MC4CAQAwBQYDK2VwBCIEIEEWTaj7wJQ3jwNso1ADOzefSpekcfA/XskTgfpFQ3h3"]

def pemText (label : String) (lines : List String) : String :=
  "-----BEGIN " ++ label ++ "-----\n" ++
    String.join (lines.map (· ++ "\n")) ++ "-----END " ++ label ++ "-----\n"

/-- The readers of the certificate and of the key, which give their Base64
text. -/
def relayStart : StartHost (List String) (List String) where
  toSocketAddrs := fun _ =>
    .error ("failed to lookup address information: " ++
      "Name or service not known")
  parseCertificates := fun text =>
    if text = pemText "CERTIFICATE" relayCertificate then
      .ok [relayCertificate]
    else .ok []
  parseKey := fun text =>
    if text = pemText "PRIVATE KEY" relayKey then .ok relayKey
    else .error "no items found"
  withSingleCert := fun certificates key =>
    if certificates = [relayCertificate] ∧ key = relayKey then .ok ()
    else .error "keys may not be consistent"

def relayResolve (name : String) : FilePath :=
  ⟨name.toList.splitOn '/'⟩

def relayPath : FilePath := samplePath ["etc", "velum", "config.toml"]

def relayFiles (path : FilePath) : Option String :=
  if path = relayPath then some (sampleText [initialCredential])
  else if path = samplePath ["etc", "velum", "credential.hex"] then
    some (Hex.encode (List.replicate 32 0) ++ "\n")
  else if path = samplePath ["etc", "velum", "cert.pem"] then
    some (pemText "CERTIFICATE" relayCertificate)
  else if path = samplePath ["etc", "velum", "key.pem"] then
    some (pemText "PRIVATE KEY" relayKey)
  else none

theorem relayFiles_config :
    relayFiles relayPath = some (sampleText [initialCredential]) :=
  if_pos rfl

/-- Only the certificate can be read by others. -/
def relayState : RelayFiles :=
  (relayFiles, fun path => path = samplePath ["etc", "velum", "cert.pem"])

def relayLimits : QuicRelayConfig where
  maxControlBytes := 192

def relayLoaded : LoadedConfig (List String) (List String) where
  bind := .v4 ⟨[0, 0, 0, 0], rfl⟩ 4433
  adminSocket := sampleSettings.adminSocket
  serverConfig := {
    certificates := [relayCertificate]
    key := relayKey
    maxBidirectionalStreams := 64
    maxIncoming := 1024 }
  admission := {
    authenticator := {}
    destinations := ⟨[.v4 ⟨[203, 0, 113, 20], rfl⟩ 443]⟩ }
  quota := ⟨64, 16⟩
  relay := relayLimits
  coverService := none

/-- The files of the names, and the addresses, that the configuration gives. -/
theorem relay_names :
    relayResolve sampleSettings.certificate =
        samplePath ["etc", "velum", "cert.pem"] ∧
      relayResolve sampleSettings.privateKey =
        samplePath ["etc", "velum", "key.pem"] ∧
      relayResolve initialCredential.secretFile =
        samplePath ["etc", "velum", "credential.hex"] ∧
      relayResolve phoneCredential.secretFile =
        secretFile (samplePath ["etc", "velum"]) "phone" 2 ∧
      (secretFile (samplePath ["etc", "velum"]) "phone" 2).display =
        phoneCredential.secretFile ∧
      Protocol.AddressText.parseSocketAddr "0.0.0.0:4433".toList =
        some (.v4 ⟨[0, 0, 0, 0], rfl⟩ 4433) ∧
      Protocol.AddressText.parseSocketAddr "203.0.113.20:443".toList =
        some (.v4 ⟨[203, 0, 113, 20], rfl⟩ 443) := by
  decide +kernel

/-- The relay starts with its settings, whoever its clients are. -/
theorem settingsLoaded_relay :
    SettingsLoaded relayStart relayResolve relayLoaded sampleSettings
      relayState := by
  obtain ⟨certificate, key, _, _, _, _, target⟩ := relay_names
  have targets : sampleSettings.allowedTargets.mapM
      (parseSocket "allowed_targets") =
        .ok [.v4 ⟨[203, 0, 113, 20], rfl⟩ 443] := by
    have parsed : parseSocket "allowed_targets" "203.0.113.20:443" =
        .ok (.v4 ⟨[203, 0, 113, 20], rfl⟩ 443) := by
      rw [parseSocket, target]
      rfl
    exact mapM_eq_ok_iff.mpr (.cons parsed .nil)
  have certificates : readCertificates relayStart relayResolve relayState.1
      sampleSettings.certificate = .ok [relayCertificate] := by
    have held : relayState.1 (relayResolve sampleSettings.certificate) =
        some (pemText "CERTIFICATE" relayCertificate) := by
      simp [certificate, relayState, relayFiles, relayPath]
    rw [readCertificates, held]
    refine (bind_of_eq_ok rfl).trans ?_
    simp only [relayStart, if_true]
    rfl
  have privateKey : readPrivateKey relayStart relayResolve relayState.1
      relayState.2 sampleSettings.privateKey = .ok relayKey := by
    have read := @readPrivate_eq_ok_iff relayResolve relayState.1 relayState.2
      "private key" sampleSettings.privateKey (pemText "PRIVATE KEY" relayKey)
    rw [readPrivateKey, read.mpr]
    · refine (bind_of_eq_ok rfl).trans ?_
      simp only [relayStart, if_true]
      rfl
    · simp [key, relayState, relayFiles, relayPath]
  have paired : relayStart.withSingleCert [relayCertificate] relayKey =
      .ok () := by simp [relayStart]
  intro authenticator
  refine (bind_of_eq_ok targets).trans ?_
  refine (bind_of_eq_ok rfl).trans ?_
  refine (bind_of_eq_ok rfl).trans ?_
  refine (bind_of_eq_ok rfl).trans ?_
  refine (bind_of_eq_ok certificates).trans ?_
  refine (bind_of_eq_ok privateKey).trans ?_
  rw [paired]
  rfl

def firstCredential : PrincipalCredential :=
  ⟨⟨1⟩, List.replicate 32 0, rfl⟩

theorem readSecret_relayState :
    readSecret relayResolve relayState.1 relayState.2
      initialCredential.secretFile = .ok firstCredential.secret := by
  obtain ⟨_, _, file, _⟩ := relay_names
  refine readSecret_eq_ok_iff.mpr
    ⟨Hex.encode firstCredential.secret ++ "\n", ?_, ?_,
      decodeSecret_written (by decide) (by decide)⟩
  · simp [file, relayState, relayFiles, relayPath, firstCredential]
  · simp [file, relayState]

theorem serves_relayState :
    Serves relayStart configToml relayResolve relayPath relayLoaded relayState
      (sampleConfig [initialCredential]) [firstCredential] where
  reads := ⟨_, relayFiles_config, fromStr_sampleText (by decide)⟩
  checked := by
    obtain ⟨_, _, _, _, _, bind, _⟩ := relay_names
    refine (bind_of_eq_ok rfl).trans ?_
    rw [parseSocket, sampleConfig, bind]
    rfl
  loads := .cons
    (loadCredential_eq_ok_iff.mpr ⟨readSecret_relayState, rfl⟩) .nil
  consistent := consistent_append_singleton.mpr
    ⟨.nil, ⟨by simp, by simp, by simp⟩⟩
  settings := settingsLoaded_relay
  apart := by
    obtain ⟨certificate, key, file, _⟩ := relay_names
    have temporary : relayPath.withExtension "toml.tmp".toList =
        samplePath ["etc", "velum", "config.toml.tmp"] := rfl
    refine ⟨?_, ?_⟩
    · rw [temporary]
      simp [sampleConfig, certificate, key, relayPath]
    · rw [temporary]
      simp [sampleConfig, certificate, key, file, relayPath]

def relayHost : RelayHost Text :=
  { Client.sampleHost 1 with
    readSecret := fun name =>
      if name = initialCredential.secretFile then
        .ok (List.replicate 32 0)
      else .error "cannot inspect credential file" }

def relayIssue : Program Unit :=
  issue configToml EnrollmentBundle.texts String.ofList (fun _ => true)
    relayHost (Client.sampleOptions "phone") relayPath
    (samplePath ["home", "phone.json"])

theorem prepares_relayIssue :
    prepareIssue EnrollmentBundle.texts (fun _ => true)
      { relayHost with configParent := relayPath.parent.map FilePath.display }
      (Client.sampleOptions "phone") [initialCredential] =
      .ok samplePrepared := by
  rfl

/-- The run of the issue, where operations under some labels fail. -/
def relayIssued (stops : IssueStep → Option String) :
    Except String Unit × ModedState IssueStep FilePath String :=
  runModed stops relayIssue relayState.started

theorem relayIssued_eq {stops : IssueStep → Option String}
    (reads : stops .readConfig = none) :
    relayIssued stops = runModed stops
      (commitIssue configToml EnrollmentBundle.texts String.ofList
        (Client.sampleOptions "phone") relayPath
        (samplePath ["home", "phone.json"]) (sampleConfig [initialCredential])
        samplePrepared (secretFile (samplePath ["etc", "velum"]) "phone" 2))
      relayState.started := by
  have parsed := @fromStr_sampleText [initialCredential] (by decide)
  have held : relayState.started.1.1 relayPath =
      some (sampleText [initialCredential]) := relayFiles_config
  exact run_issue (answerModed_read stops reads held) parsed
    prepares_relayIssue rfl

abbrev RelayStep :=
  Step configToml EnrollmentBundle.texts String.ofList (fun _ => true)
    relayResolve relayPath

theorem draws_relayHost : Draws relayResolve relayState relayHost where
  reads := by
    intro name secret read
    simp only [relayHost] at read
    split at read
    next same =>
        cases read
        rw [same]
        exact readSecret_relayState
    next => cases read
  fresh := by
    intro drawn name new read
    cases new
    simp only [relayHost] at read
    split at read
    next => cases read
    next => cases read

theorem roundTrips_configToml : RoundTrips configToml :=
  fun _ _ bound encodes => fromStr_written bound encodes

theorem eq_ok_of_isOk {result : Except String Unit}
    (returned : result.isOk = true) : result = .ok () := by
  cases result with
  | ok value => rfl
  | error message => cases returned

theorem ends_relayIssued (stops : IssueStep → Option String) :
    Script.Ends (ModedAnswers IssueStep FilePath String) relayState.started
      relayIssue (relayIssued stops).1 (relayIssued stops).2 :=
  ends_runModed stops relayIssue relayState.started

def afterIssue : RelayFiles := filesAfter (relayIssued fun _ => none).2

theorem relayIssued_ok : (relayIssued fun _ => none).1 = .ok () := by
  apply eq_ok_of_isOk
  rw [relayIssued_eq rfl]
  rfl

theorem step_relayIssue :
    RelayStep relayState (.issued (Client.sampleIssued 2 1).bundle)
      afterIssue := by
  have ended := ends_relayIssued fun _ => none
  rw [relayIssued_ok] at ended
  have shown : relayResolve (secretFile (samplePath ["etc", "velum"]) "phone"
      2).display = secretFile (samplePath ["etc", "velum"]) "phone" 2 := by
    obtain ⟨_, _, _, file, display, _⟩ := relay_names
    rw [display, file]
  exact .issued draws_relayHost serves_relayState.reads rfl
    prepares_relayIssue shown ended

/-- Both clients are configured after the issue. -/
theorem reads_afterIssue :
    Reads configToml relayPath afterIssue.1
      (sampleConfig [initialCredential, phoneCredential]) := by
  have returned := (ensures_issue_leaves roundTrips_configToml
    serves_relayState.bound rfl serves_relayState.reads).of_ends
      (ends_of_moded (ends_relayIssued fun _ => none))
  obtain ⟨configParent, prepared, known, prepares, adds⟩ :=
    returned.1 () relayIssued_ok
  have same := prepares_relayIssue.symm.trans prepares
  obtain rfl := Except.ok.inj same
  have parent : relayPath.parent = some (samplePath ["etc", "velum"]) := rfl
  obtain rfl := Option.some.inj (parent.symm.trans known)
  have shown : (secretFile (samplePath ["etc", "velum"])
      (Client.sampleOptions "phone").clientName
        samplePrepared.principalId).display = phoneCredential.secretFile :=
    relay_names.2.2.2.2.1
  have configured : updated (sampleConfig [initialCredential])
      (Client.sampleOptions "phone") samplePrepared.principalId
      (secretFile (samplePath ["etc", "velum"])
        (Client.sampleOptions "phone").clientName
        samplePrepared.principalId) =
      sampleConfig [initialCredential, phoneCredential] := by
    rw [updated, shown]
    rfl
  have reads := adds.leaves.reads
  rw [configured] at reads
  rw [afterIssue, filesAfter_fst]
  exact reads

def relayRevoke : Program Unit :=
  revoke configToml relayResolve (.id 1) relayPath

def relayRevoked : Except String Unit × ModedState IssueStep FilePath String :=
  runModed (fun _ => none) relayRevoke afterIssue.started

theorem ends_relayRevoked :
    Script.Ends (ModedAnswers IssueStep FilePath String) afterIssue.started
      relayRevoke relayRevoked.1 relayRevoked.2 :=
  ends_runModed (fun _ => none) relayRevoke afterIssue.started

def afterRevoke : RelayFiles := filesAfter relayRevoked.2

theorem selects_initial :
    (sampleConfig [initialCredential, phoneCredential]).credentials.find?
      (Selector.id 1).selects = some initialCredential := by
  decide

theorem relayRevoked_ok : relayRevoked.1 = .ok () := by
  have parent : relayPath.parent = some (samplePath ["etc", "velum"]) := rfl
  have encodes := @toStringPretty_of_encodable
    (sampleConfig [phoneCredential]) (by decide)
  have reads := reads_afterIssue
  rw [← RelayFiles.started_files] at reads
  have revoked := @run_revoke _ configToml relayResolve (.id 1) relayPath _ _
    _ _ afterIssue.started reads (by decide) selects_initial parent encodes
  simpa only [relayRevoked, runModed, relayRevoke] using revoked

theorem step_relayRevoke :
    RelayStep afterIssue (.revoked ⟨1⟩) afterRevoke :=
  .revoked reads_afterIssue selects_initial ends_relayRevoked
    (.inl relayRevoked_ok)

/-- Afterwards the relay accepts the phone and no longer the first client. -/
theorem relay_accepts_issued_phone :
    ∃ authenticator,
      load relayStart configToml relayResolve afterRevoke.1 afterRevoke.2
        relayPath = .ok (relayLoaded.withAuthenticator authenticator) ∧
      authenticator.authenticate (List.replicate 32 1) = .ok ⟨2⟩ ∧
      authenticator.authenticate (List.replicate 32 0) ≠ .ok ⟨1⟩ := by
  obtain ⟨before, started, _⟩ := serves_relayState.load
  have run : Run RelayStep relayState
      [.issued (Client.sampleIssued 2 1).bundle, .revoked ⟨1⟩] afterRevoke :=
    (Run.single step_relayIssue).snoc step_relayRevoke
  have apart : ∀ config, Reads configToml relayPath relayState.1 config →
      Apart relayResolve relayPath config := by
    intro config reads
    cases reads.unique serves_relayState.reads
    exact serves_relayState.apart
  obtain ⟨authenticator, restarted, accepts⟩ :=
    relay_accepts_issued relayStart configToml EnrollmentBundle.texts
      String.ofList (fun _ => true) relayResolve relayPath
      roundTrips_configToml (by decide) relayState _ _ started apart _ run
  refine ⟨authenticator, restarted, ?_, ?_⟩
  · refine (accepts _ _).mpr ⟨.inr ⟨?_, rfl⟩, by decide⟩
    exact decodeHex_encode (by decide)
  · intro accepted
    exact ((accepts _ _).mp accepted).2 rfl

def deniedTwice : IssueStep → Option String
  | .createEnrollment => some "No space left on device (os error 28)"
  | .rollback .write => some "No space left on device (os error 28)"
  | _ => none

def afterDenied : Except String Unit × IssueState :=
  runStopping deniedTwice relayIssue relayFiles

theorem afterDenied_eq :
    afterDenied = runStopping deniedTwice
      (commitIssue configToml EnrollmentBundle.texts String.ofList
        (Client.sampleOptions "phone") relayPath
        (samplePath ["home", "phone.json"]) (sampleConfig [initialCredential])
        samplePrepared (secretFile (samplePath ["etc", "velum"]) "phone" 2))
      relayFiles := by
  have parsed := @fromStr_sampleText [initialCredential] (by decide)
  refine run_issue ?_ parsed prepares_relayIssue rfl
  simp only [answerStopping, deniedTwice, Script.observed, HostCall.answer,
    relayFiles_config]
  rfl

/-- Where the enrollment cannot be written and neither can the configuration
be written back, the configuration names a secret that has been removed. -/
theorem failed_rollback_stops_relay (exposed : FilePath → Bool)
    (loaded : LoadedConfig (List String) (List String)) :
    load relayStart configToml relayResolve afterDenied.2.1 exposed
      relayPath ≠ .ok loaded := by
  intro started
  have configured : afterDenied.2.1 relayPath =
      some (sampleText [initialCredential, phoneCredential]) := by
    rw [afterDenied_eq]
    rfl
  have missing : afterDenied.2.1 (relayResolve phoneCredential.secretFile) =
      none := by
    rw [afterDenied_eq, relay_names.2.2.2.1]
    rfl
  obtain ⟨config, _, credentials, _, reads, _, loads, _⟩ :=
    load_eq_ok_iff.mp started
  cases reads.unique ⟨_, configured, fromStr_sampleText (by decide)⟩
  obtain ⟨_, _, found⟩ := exists_of_forall₂ loads
    (List.mem_cons_of_mem _ List.mem_cons_self)
  have present := (held_of_loadCredential found).1
  rw [missing] at present
  cases present

end Velum.Node.Issuance
