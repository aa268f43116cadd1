import Velum.Node.Provisioning

/-!
# What issues and revokes leave

Each leaves a configuration that reads as the old or as the new one, and no
other file that was there is changed, save the secret of a revoked client.
Only an issue that fails, and then fails to write the old configuration back,
may leave another state.
-/

namespace Velum.Node.Issuance

open Foundation HostProgram Velum.Protocol

/-! ## Operations -/

section Files

variable {Rest Document : Type} {toml : ConfigCodec Rest}
  {codec : EnrollmentCodec Document} {characters : Document → String}
  {acceptsServerName : String → Bool} {host : RelayHost Document}
  {options : IssueOptions} {resolve : String → FilePath}
  {configPath output : FilePath} {files after : FilePath → Option String}
  {config original : Config Rest}

variable (toml configPath) in
/-- The configuration is as given, and no other file that was there has
changed, save the temporary file of the configuration. -/
structure Leaves (config : Config Rest)
    (files after : FilePath → Option String) : Prop where
  reads : Reads toml configPath after config
  kept : ∀ path, (files path).isSome → path ≠ configPath →
    path ≠ configPath.withExtension "toml.tmp".toList →
    after path = files path

/-- The address of a configuration is that of a socket. -/
def Bound (config : Config Rest) : Prop :=
  (AddressText.parseSocketAddr config.bind.toList).isSome

variable (toml) in
/-- What the relay has written, it reads again; the template holds the address
in a comment. -/
def RoundTrips : Prop :=
  ∀ config encoded, Bound config → toml.toStringPretty config = .ok encoded →
    toml.fromStr (written config encoded) = .ok config

/-- The configuration is written, or the old one stays. -/
theorem ensures_write_leaves {label : ConfigStep → IssueStep}
    {failures : List (Failure IssueStep String)}
    {returns : Unit → IssueState → Prop} {raises : String → IssueState → Prop}
    (trips : RoundTrips toml) (bound : Bound config)
    (named : configPath.fileName.isSome)
    (reads : Reads toml configPath files original)
    (activated : ∀ encoded after, toml.toStringPretty config = .ok encoded →
      Leaves toml configPath config files after →
      (∀ path, path ≠ configPath →
        path ≠ configPath.withExtension "toml.tmp".toList →
        after path = files path) →
      returns () (after, failures))
    (unencoded : ∀ message error,
      toml.toStringPretty config = .error error →
      raises message (files, failures))
    (failed : ∀ message after step left,
      Leaves toml configPath original files after →
      (∀ path, path ≠ configPath →
        path ≠ configPath.withExtension "toml.tmp".toList →
        after path = files path) →
      raises message (after, failures ++ [⟨label step, left⟩])) :
    Ensures (write toml label configPath config) (files, failures) returns
      raises := by
  have temporary : configPath ≠
      configPath.withExtension "toml.tmp".toList := by
    have dotless : '.' ∉ "tmp".toList := by decide
    exact (@FilePath.withExtension_ne_self _ "toml".toList _ named
      dotless).symm
  apply ensures_write (FilePath.parent_isSome_of_fileName named)
  · intro encoded after encodes active elsewhere
    refine activated encoded after encodes ⟨?_, ?_⟩ elsewhere
    · exact ⟨_, active, trips config encoded bound encodes⟩
    · intro path _ live other
      exact elsewhere path live other
  · exact unencoded
  · intro message after step left elsewhere
    refine failed message after step left ⟨?_, ?_⟩
      fun path _ other => elsewhere path other
    · obtain ⟨source, held, parsed⟩ := reads
      exact ⟨source, (elsewhere configPath temporary).trans held, parsed⟩
    · intro path _ _ other
      exact elsewhere path other

theorem Leaves.trans {middle : FilePath → Option String}
    {between : Config Rest}
    (first : Leaves toml configPath between files middle)
    (second : Leaves toml configPath config middle after) :
    Leaves toml configPath config files after where
  reads := second.reads
  kept := by
    intro path present live other
    have same := first.kept path present live other
    rw [second.kept path (by rw [same]; exact present) live other, same]

/-- A file that was not there may be changed. -/
theorem Leaves.update {path : FilePath} {contents : Option String}
    (leaves : Leaves toml configPath config files after)
    (live : path ≠ configPath) (free : files path = none) :
    Leaves toml configPath config files
      (Function.update after path contents) where
  reads := by
    obtain ⟨source, held, parsed⟩ := leaves.reads
    exact ⟨source, by rw [Function.update_of_ne live.symm, held], parsed⟩
  kept := by
    intro other present config temporary
    have different : other ≠ path := by
      rintro rfl
      rw [free] at present
      cases present
    rw [Function.update_of_ne different, leaves.kept other present config
      temporary]

theorem Leaves.refl (reads : Reads toml configPath files config) :
    Leaves toml configPath config files files :=
  ⟨reads, fun _ _ _ _ => rfl⟩

/-- A file that was not there may be written to. -/
theorem Leaves.of_kept {middle : FilePath → Option String}
    (leaves : Leaves toml configPath config files middle)
    (same : ∀ path, (middle path).isSome → after path = middle path) :
    Leaves toml configPath config files after where
  reads := by
    obtain ⟨source, held, parsed⟩ := leaves.reads
    exact ⟨source, (same configPath (by simp [held])).trans held, parsed⟩
  kept := by
    intro path present live other
    have before := leaves.kept path present live other
    rw [same path (by rw [before]; exact present), before]

theorem not_restored_of_mem {failures : List (Failure IssueStep String)}
    {step : ConfigStep} {left : Option String}
    (member : ⟨.rollback step, left⟩ ∈ failures) : ¬Restored failures :=
  fun restored => restored _ member step rfl

/-- An undone delivery has written the old configuration back. -/
theorem ensures_undoDelivery_leaves {secretPath : FilePath}
    {between : Config Rest} {middle : FilePath → Option String}
    {failures : List (Failure IssueStep String)} {error shorter : String}
    {returns : Unit → IssueState → Prop}
    (trips : RoundTrips toml) (bound : Bound original)
    (named : configPath.fileName.isSome) (live : secretPath ≠ configPath)
    (free : files secretPath = none)
    (before : Leaves toml configPath between files middle)
    (writes : toml.toStringPretty original = .ok shorter) :
    Ensures (undoDelivery toml configPath original secretPath error)
      (middle, failures) returns
      (fun _ final => Restored final.2 →
        Leaves toml configPath original files final.1) := by
  simp only [undoDelivery, ensures_bind, ensures_outcome]
  refine ensures_write_leaves trips bound named before.reads ?_ ?_ ?_
  · intro _ after _ rewritten _
    have back := before.trans rewritten
    refine ensures_discard ?_ ?_
    · exact fun _ => back.update live free
    · exact fun _ => back
  · intro _ error refused
    cases writes.symm.trans refused
  · intro _ after step left _ _
    have failed : (⟨.rollback step, left⟩ : Failure IssueStep String) ∈
        failures ++ [⟨.rollback step, left⟩] := by simp
    refine ensures_discard ?_ ?_
    · intro restored
      exact absurd restored (not_restored_of_mem failed)
    · intro restored
      exact absurd restored
        (not_restored_of_mem (List.mem_append_left _ failed))

variable (toml configPath) in
/-- The new credential is configured, and its secret is in a new file. -/
structure Adds (original : Config Rest) (options : IssueOptions)
    (prepared : Prepared Document) (secretPath : FilePath)
    (files after : FilePath → Option String) : Prop where
  leaves : Leaves toml configPath
    (updated original options prepared.principalId secretPath) files after
  free : files secretPath = none
  stored : after secretPath = some (Hex.encode prepared.secret ++ "\n")

theorem ensures_commitIssue_leaves {prepared : Prepared Document}
    {secretPath : FilePath} (trips : RoundTrips toml)
    (bound : Bound original) (named : configPath.fileName.isSome)
    (reads : Reads toml configPath files original)
    (inside : InCredentials configPath secretPath)
    (credentials : secretPath.parent.isSome) :
    Ensures (commitIssue toml codec characters options configPath output
        original prepared secretPath) (files, [])
      (fun _ final => Adds toml configPath original options prepared
        secretPath files final.1)
      (fun _ final => Restored final.2 →
        Leaves toml configPath original files final.1) := by
  have live := inside.ne_config
  have same := Leaves.refl reads
  simp only [commitIssue, ensures_bind, ensures_tryCatch, ensures_throw]
  refine ensures_writeSecret credentials ?_ ?_ ?_ ?_ ?_
  · intro free
    have stored := fun contents => @Leaves.update Rest toml configPath files
      files original secretPath contents same live free
    refine ensures_write_leaves trips bound named (stored _).reads ?_ ?_ ?_
    · intro encoded configured encodes rewritten elsewhere
      have written := (stored _).trans rewritten
      have secret := elsewhere secretPath live (inside.ne_temporary _)
      rw [Function.update_self] at secret
      obtain ⟨shorter, writes⟩ := toml.toStringPretty_append _ _ _ encodes
      refine ensures_deliver ?_ ?_ ?_ ?_
      · intro after _ kept
        exact ⟨written.of_kept kept, free,
          (kept secretPath (by simp [secret])).trans secret⟩
      · intro message _ _
        exact ensures_undoDelivery_leaves trips bound named live free written
          writes
      · intro message step left _
        exact ensures_undoDelivery_leaves trips bound named live free written
          writes
      · intro message after step left kept
        exact ensures_undoDelivery_leaves trips bound named live free
          (written.of_kept kept) writes
    · intro message error _
      refine ensures_discard ?_ ?_
      · exact fun _ => (stored _).update live free
      · exact fun _ => stored _
    · intro message after step left unwritten _
      have back := (stored _).trans unwritten
      refine ensures_discard ?_ ?_
      · exact fun _ => back.update live free
      · exact fun _ => back
  · exact fun _ _ _ => same
  · exact fun _ _ => same
  · exact fun _ _ free _ => same.update live free
  · exact fun _ _ free _ => same.update live free

theorem ensures_issue_leaves (trips : RoundTrips toml)
    (bound : Bound original) (named : configPath.fileName.isSome)
    (reads : Reads toml configPath files original) :
    Ensures (issue toml codec characters acceptsServerName host options
        configPath output) (files, [])
      (fun _ final => ∃ configParent prepared,
        configPath.parent = some configParent ∧
        prepareIssue codec acceptsServerName
          { host with configParent := configPath.parent.map FilePath.display }
          options original.credentials = .ok prepared ∧
        Adds toml configPath original options prepared
          (secretFile configParent options.clientName prepared.principalId)
          files final.1)
      (fun _ final => Restored final.2 →
        Leaves toml configPath original files final.1) := by
  apply ensures_issue_of_commit
  · exact fun _ _ _ _ _ => Leaves.refl reads
  · intro source found prepared configParent held parsed prepares known
    cases reads.unique ⟨source, held, parsed⟩
    apply (ensures_commitIssue_leaves trips bound named reads
      ⟨configParent, _, known, rfl⟩ parent_secretFile).mono
    · intro _ _ adds
      exact ⟨configParent, prepared, known, prepares, adds⟩
    · exact id

/-- The secret is gone, or its removal has failed. -/
theorem ensures_removeSecret {removed : CredentialConfig}
    {failures : List (Failure IssueStep String)}
    {returns : Unit → IssueState → Prop} {raises : String → IssueState → Prop}
    (gone : returns ()
      (Function.update files (resolve removed.secretFile) none, failures))
    (kept : ∀ message,
      raises message (files, failures ++ [⟨.removeSecret, none⟩])) :
    Ensures (removeSecret resolve removed) (files, failures) returns
      raises := by
  refine ⟨trivial, ?_⟩
  rintro reply ⟨after, noted⟩
    ⟨answered | ⟨_, message, left, rfl, leaves⟩, recorded⟩
  · rw [HostCall.answer] at answered
    split at answered
    next files effect =>
        cases answered
        cases recorded
        rw [FileOperation.effect] at effect
        split at effect
        next =>
            cases effect
            exact gone
        next => cases effect
    next impossible =>
        cases answered
        cases recorded
        have missing : files (resolve removed.secretFile) = none := by
          simpa [FileOperation.effect] using impossible
        rw [← missing, Function.update_eq_self] at gone
        exact gone
  · obtain ⟨unwritten, same⟩ := leaves
    dsimp only at same
    subst unwritten same
    cases recorded
    exact kept _

variable (toml configPath) in
/-- The first credential that the selector selects is not configured any
more. -/
def Removes (original : Config Rest) (selector : Selector)
    (removed : CredentialConfig) (resolve : String → FilePath)
    (files after : FilePath → Option String) : Prop :=
  Leaves toml configPath { original with
      credentials := original.credentials.eraseP selector.selects }
    (Function.update files (resolve removed.secretFile) none) after

/-- A revoke has removed a credential, though not always its secret, or it has
failed early and changed nothing. -/
theorem ensures_revoke_leaves {selector : Selector} (trips : RoundTrips toml)
    (bound : Bound original) (named : configPath.fileName.isSome)
    (reads : Reads toml configPath files original)
    (apart : ∀ entry ∈ original.credentials,
      resolve entry.secretFile ≠ configPath) :
    Ensures (revoke toml resolve selector configPath) (files, [])
      (fun _ final => ∃ removed,
        original.credentials.find? selector.selects = some removed ∧
        original.credentials.length ≠ 1 ∧
        Removes toml configPath original selector removed resolve files
          final.1)
      (fun _ final =>
        ((∀ failure ∈ final.2, failure.step ≠ .removeSecret) →
          Leaves toml configPath original files final.1) ∧
        ((∃ failure ∈ final.2, failure.step = .removeSecret) →
          ∃ removed,
            original.credentials.find? selector.selects = some removed ∧
            original.credentials.length ≠ 1 ∧
            Removes toml configPath original selector removed resolve files
              final.1)) := by
  have same := Leaves.refl reads
  simp only [revoke, read, ensures_bind]
  refine ensures_read ?_ fun _ => ⟨fun _ => same, by simp⟩
  intro source held
  cases parsed : toml.fromStr source with
  | error error => exact ⟨fun _ => same, by simp⟩
  | ok found =>
      cases reads.unique ⟨source, held, parsed⟩
      simp only [ensures_pure]
      split
      next => exact ⟨fun _ => same, by simp⟩
      next several =>
          split
          next => exact ⟨fun _ => same, by simp⟩
          next removed selected =>
              have live := apart removed (List.mem_of_find?_eq_some selected)
              simp only [ensures_bind]
              refine ensures_write_leaves trips bound named reads ?_ ?_ ?_
              · intro _ after _ rewritten _
                have kept : Leaves toml configPath { original with
                    credentials := original.credentials.eraseP
                      selector.selects }
                    (Function.update files (resolve removed.secretFile) none)
                    after := by
                  refine ⟨rewritten.reads, ?_⟩
                  intro path present config temporary
                  have other : path ≠ resolve removed.secretFile := by
                    rintro rfl
                    rw [Function.update_self] at present
                    cases present
                  rw [Function.update_of_ne other] at present ⊢
                  exact rewritten.kept path present config temporary
                apply ensures_removeSecret
                · exact ⟨removed, selected, several,
                    kept.update live (Function.update_self _ _ _)⟩
                · intro message
                  refine ⟨fun early => ?_, fun _ =>
                    ⟨removed, selected, several, kept⟩⟩
                  exact absurd rfl (early _ (List.mem_singleton.mpr rfl))
              · exact fun _ _ _ => ⟨fun _ => same, by simp⟩
              · intro _ after step left unwritten _
                exact ⟨fun _ => unwritten, by simp⟩

end Files

/-! ## Modes -/

section Modes

variable {Rest Document : Type} {toml : ConfigCodec Rest}
  {codec : EnrollmentCodec Document} {characters : Document → String}
  {acceptsServerName : String → Bool} {host : RelayHost Document}
  {options : IssueOptions} {resolve : String → FilePath}
  {configPath output secretPath kept : FilePath} {config original : Config Rest}
  {prepared : Prepared Document} {secret : List UInt8}
  {state : ModedState IssueStep FilePath String}

/-- Writing a configuration spares the other private files. -/
theorem secures_write {label : ConfigStep → IssueStep}
    (held : IsPrivate kept state) (live : kept ≠ configPath)
    (temporary : kept ≠ configPath.withExtension "toml.tmp".toList) :
    Secures (write toml label configPath config) state
      (fun _ => IsPrivate kept) (fun _ => IsPrivate kept) := by
  rw [write]
  split
  next => exact held
  next parent known =>
      simp only [secures_bind]
      refine secures_attempt held trivial ?_ fun _ _ failed => failed
      intro _ created
      cases toml.toStringPretty config with
      | error error => exact created
      | ok encoded =>
          simp only [secures_bind]
          refine secures_attempt created temporary.symm ?_
            fun _ _ failed => failed
          intro _ staged
          refine secures_attempt staged trivial ?_ fun _ _ failed => failed
          intro _ restricted
          exact secures_attempt restricted ⟨temporary.symm, live.symm⟩
            (fun _ activated => activated) fun _ _ failed => failed

/-- A secret that is written has a file of its own. -/
theorem secures_writeSecret (held : IsPrivate kept state) :
    Secures (writeSecret secretPath secret) state
      (fun _ after => secretPath ≠ kept ∧ IsPrivate kept after)
      (fun _ => IsPrivate kept) := by
  rw [writeSecret]
  split
  next => exact held
  next parent known =>
      simp only [secures_bind]
      refine secures_attempt held trivial ?_ fun _ _ failed => failed
      intro after created
      simp only [secures_look]
      split
      next => exact created
      next absent =>
          have other : secretPath ≠ kept := by
            rintro rfl
            exact absent created.1
          simp only [secures_bind]
          refine secures_attempt created other ?_ fun _ _ failed => failed
          intro _ stored
          exact secures_attempt stored trivial
            (fun _ restricted => ⟨other, restricted⟩) fun _ _ failed => failed

/-- A secret that was written is private. -/
theorem secures_writeSecret_new :
    Secures (writeSecret secretPath secret) state
      (fun _ => IsPrivate secretPath) (fun _ _ => True) := by
  rw [writeSecret]
  split
  next => trivial
  next parent known =>
      simp only [secures_bind]
      apply secures_of_always
      · intro _ after
        simp only [secures_look]
        split
        next => trivial
        next absent =>
            simp only [secures_bind]
            refine HostProgram.secures_write ?_ fun _ _ => trivial
            intro _ present
            exact secures_restrict present (fun _ hidden => hidden)
              fun _ _ => trivial
      · exact fun _ _ => trivial

theorem secures_deliver {delivery : Delivery} {canonical : Document}
    (held : IsPrivate kept state) :
    Secures (deliver codec characters delivery output canonical) state
      (fun _ => IsPrivate kept) (fun _ => IsPrivate kept) := by
  cases delivery with
  | qr => exact held
  | file =>
      rw [deliver, writePrivateNew]
      split
      next => exact held
      next parent known =>
          simp only [secures_bind, secures_tryCatch, secures_throw]
          refine secures_attempt held trivial ?_ fun _ _ failed => failed
          intro _ created
          refine secures_createNew created ?_ fun _ _ failed => failed
          intro _ other opened
          refine secures_attempt opened other (fun _ filled => filled) ?_
          intro _ _ failed
          exact secures_discard failed other fun _ removed => removed

theorem secures_undoDelivery {error : String} (held : IsPrivate kept state)
    (other : secretPath ≠ kept) (live : kept ≠ configPath)
    (temporary : kept ≠ configPath.withExtension "toml.tmp".toList) :
    Secures (undoDelivery toml configPath original secretPath error) state
      (fun _ => IsPrivate kept) (fun _ => IsPrivate kept) := by
  simp only [undoDelivery, secures_bind, secures_outcome]
  apply (secures_write held live temporary).mono
  · intro _ _ rewritten
    exact secures_discard rewritten other fun _ removed => removed
  · intro _ _ rewritten
    exact secures_discard rewritten other fun _ removed => removed

theorem secures_commitIssue (held : IsPrivate kept state)
    (live : kept ≠ configPath)
    (temporary : kept ≠ configPath.withExtension "toml.tmp".toList) :
    Secures (commitIssue toml codec characters options configPath output
        original prepared secretPath) state
      (fun _ => IsPrivate kept) (fun _ => IsPrivate kept) := by
  simp only [commitIssue, secures_bind, secures_tryCatch, secures_throw]
  apply (secures_writeSecret held).mono
  · rintro _ _ ⟨other, stored⟩
    apply (secures_write stored live temporary).mono
    · intro _ _ configured
      apply (secures_deliver configured).mono
      · exact id
      · exact fun failed => secures_undoDelivery failed other live temporary
    · intro _ _ failed
      exact secures_discard failed other fun _ removed => removed
  · exact id

/-- The secret of an issue that has returned is private. -/
theorem secures_commitIssue_new
    (inside : InCredentials configPath secretPath) :
    Secures (commitIssue toml codec characters options configPath output
        original prepared secretPath) state
      (fun _ => IsPrivate secretPath) (fun _ _ => True) := by
  simp only [commitIssue, secures_bind, secures_tryCatch, secures_throw]
  apply secures_writeSecret_new.mono
  · intro _ _ stored
    apply (secures_write stored inside.ne_config (inside.ne_temporary _)).mono
    · intro _ _ configured
      apply (secures_deliver configured).mono
      · exact id
      · intro _ _ _
        -- An undone delivery raises its error.
        simp only [undoDelivery, secures_bind, secures_outcome]
        apply secures_of_always
        · intro _ _
          exact secures_of_always (fun _ _ => trivial) fun _ _ => trivial
        · intro _ _
          exact secures_of_always (fun _ _ => trivial) fun _ _ => trivial
    · intro _ _ _
      exact secures_of_always (fun _ _ => trivial) fun _ _ => trivial
  · exact id

/-- An issue spares the other private files, whatever comes of it. -/
theorem secures_issue (held : IsPrivate kept state) (live : kept ≠ configPath)
    (temporary : kept ≠ configPath.withExtension "toml.tmp".toList) :
    Secures (issue toml codec characters acceptsServerName host options
        configPath output) state
      (fun _ => IsPrivate kept) (fun _ => IsPrivate kept) := by
  rw [issue]
  split
  next => exact held
  next =>
      simp only [read, secures_bind]
      refine secures_read ?_ fun _ _ => held
      intro source _
      cases toml.fromStr source with
      | error error => exact held
      | ok original =>
          simp only [secures_pure]
          split
          next => exact held
          next =>
              split
              next => exact held
              next => exact secures_commitIssue held live temporary

theorem secures_issue_new :
    Secures (issue toml codec characters acceptsServerName host options
        configPath output) state
      (fun _ after => ∀ config configParent prepared,
        Reads toml configPath state.1.1 config →
        configPath.parent = some configParent →
        prepareIssue codec acceptsServerName
          { host with configParent := configPath.parent.map FilePath.display }
          options config.credentials = .ok prepared →
        IsPrivate (secretFile configParent options.clientName
          prepared.principalId) after)
      (fun _ _ => True) := by
  rw [issue]
  split
  next => trivial
  next =>
      simp only [read, secures_bind]
      refine secures_read ?_ fun _ _ => trivial
      intro source held
      cases parsed : toml.fromStr source with
      | error error => trivial
      | ok original =>
          simp only [secures_pure]
          split
          next => trivial
          next prepared prepares =>
              split
              next => trivial
              next configParent known =>
                  have inside : InCredentials configPath
                      (secretFile configParent options.clientName
                        prepared.principalId) :=
                    ⟨configParent, _, known, rfl⟩
                  apply (secures_commitIssue_new inside).mono
                  · intro _ _ hidden config other again reads located same
                    cases reads.unique ⟨source, held, parsed⟩
                    cases known.symm.trans located
                    cases prepares.symm.trans same
                    exact hidden
                  · exact id

/-- A secret whose removal fails stays. -/
theorem secures_removeSecret {removed : CredentialConfig}
    (held : IsPrivate kept state) :
    Secures (removeSecret resolve removed) state
      (fun _ after => resolve removed.secretFile ≠ kept →
        IsPrivate kept after)
      (fun _ => IsPrivate kept) := by
  refine ⟨trivial, ?_⟩
  rintro reply ⟨⟨after, noted⟩, granted⟩ answered
  have spared (other : resolve removed.secretFile ≠ kept) :
      IsPrivate kept ((after, noted), granted) := by
    have spares : (FileOperation.remove (resolve removed.secretFile) :
        FileOperation FilePath String).Spares kept := other
    exact held.of_perform spares answered
  change Except (IoError String) Unit at reply
  cases reply with
  | ok value => exact spared
  | error error =>
      cases error with
      | absent message => exact spared
      | failed message left =>
          obtain ⟨⟨done | ⟨_, _, _, _, unwritten, same⟩, _⟩, grants⟩ := answered
          · rw [HostCall.answer] at done
            split at done
            next => cases done
            next => cases done
          · cases same
            cases grants
            exact held

/-- A revoke spares the other private files, and with a failure all of
them. -/
theorem secures_revoke {selector : Selector} (held : IsPrivate kept state)
    (live : kept ≠ configPath)
    (temporary : kept ≠ configPath.withExtension "toml.tmp".toList) :
    Secures (revoke toml resolve selector configPath) state
      (fun _ after => (∀ config removed,
        Reads toml configPath state.1.1 config →
        config.credentials.find? selector.selects = some removed →
        resolve removed.secretFile ≠ kept) → IsPrivate kept after)
      (fun _ => IsPrivate kept) := by
  simp only [revoke, read, secures_bind]
  refine secures_read ?_ fun _ _ => held
  intro source present
  cases parsed : toml.fromStr source with
  | error error => exact held
  | ok config =>
      simp only [secures_pure]
      split
      next => exact held
      next =>
          split
          next => exact held
          next removed selected =>
              simp only [secures_bind]
              apply (secures_write held live temporary).mono
              · intro _ _ rewritten
                apply (secures_removeSecret rewritten).mono
                · intro _ _ spared other
                  exact spared
                    (other config removed ⟨source, present, parsed⟩ selected)
                · exact id
              · exact id

/-- Private files are still private, unless one is the configuration or its
temporary file. -/
def StillPrivate (configPath : FilePath) (before after : RelayFiles) : Prop :=
  ∀ path, (before.1 path).isSome → before.2 path = false →
    path ≠ configPath →
    path ≠ configPath.withExtension "toml.tmp".toList →
    after.2 path = false

/-- The files without one of them. -/
def RelayFiles.without (files : RelayFiles) (path : FilePath) : RelayFiles :=
  (Function.update files.1 path none, files.2)

theorem RelayFiles.without_of_ne {files : RelayFiles} {path gone : FilePath}
    (other : path ≠ gone) : (files.without gone).1 path = files.1 path :=
  Function.update_of_ne other _ _

variable {before : RelayFiles} {result : Except String Unit}
  {final : ModedState IssueStep FilePath String}

theorem stillPrivate_of_issue
    (ended : Script.Ends (ModedAnswers IssueStep FilePath String)
      before.started (issue toml codec characters acceptsServerName host
        options configPath output) result final) :
    StillPrivate configPath before (filesAfter final) := by
  intro path present hidden live temporary
  have held : IsPrivate path before.started := ⟨present, hidden⟩
  obtain ⟨returned, raised⟩ :=
    (secures_issue held live temporary).of_ends ended
  cases result with
  | ok value => exact (returned value rfl).2
  | error message => exact (raised message rfl).2

theorem stillPrivate_of_revoke {selector : Selector}
    {removed : CredentialConfig} {config : Config Rest}
    (reads : Reads toml configPath before.1 config)
    (selected : config.credentials.find? selector.selects = some removed)
    (ended : Script.Ends (ModedAnswers IssueStep FilePath String)
      before.started (revoke toml resolve selector configPath) result final) :
    StillPrivate configPath (before.without (resolve removed.secretFile))
      (filesAfter final) := by
  intro path present hidden live temporary
  have other : path ≠ resolve removed.secretFile := by
    rintro rfl
    have gone : (before.without (resolve removed.secretFile)).1
        (resolve removed.secretFile) = none := Function.update_self _ _ _
    rw [gone] at present
    cases present
  rw [RelayFiles.without_of_ne other] at present
  have held : IsPrivate path before.started := ⟨present, hidden⟩
  obtain ⟨returned, raised⟩ :=
    (secures_revoke held live temporary).of_ends ended
  cases result with
  | error message => exact (raised message rfl).2
  | ok value =>
      refine (returned value rfl ?_).2
      intro found gone again same
      cases reads.unique again
      cases selected.symm.trans same
      exact other.symm

theorem stillPrivate_of_unrevoked {selector : Selector} {message : String}
    (ended : Script.Ends (ModedAnswers IssueStep FilePath String)
      before.started (revoke toml resolve selector configPath)
        (.error message) final) :
    StillPrivate configPath before (filesAfter final) := by
  intro path present hidden live temporary
  have held : IsPrivate path before.started := ⟨present, hidden⟩
  exact (((secures_revoke held live temporary).of_ends ended).2 message
    rfl).2

end Modes

/-! ## Secrets that the relay has written -/

theorem decodeSecret_of_decodeHex {value : Text} {bytes : List UInt8}
    (decoded : decodeHex value = .ok bytes)
    (short : (Text.utf8 value).length / 2 ≤ Velum.Node.Config.maxSecretBytes) :
    decodeSecret value = .ok bytes := by
  obtain ⟨filled, even, numerals, rfl⟩ := decodeHex_eq_ok_iff.mp decoded
  have within : ¬(Text.utf8 value = [] ∨ (Text.utf8 value).length % 2 ≠ 0 ∨
      Velum.Node.Config.maxSecretBytes < (Text.utf8 value).length / 2) := by
    rw [Text.utf8_eq_nil_iff, not_or, not_or, not_not]
    exact ⟨filled, even, Nat.not_lt.mpr short⟩
  simp only [decodeSecret]
  rw [if_neg within]
  exact decodePairs_eq_ok_iff.mpr ⟨numerals, rfl⟩

/-- The text of a credential file reads as the secret. -/
theorem decodeSecret_written {secret : List UInt8} (filled : secret ≠ [])
    (short : secret.length ≤ Velum.Node.Config.maxSecretBytes) :
    decodeSecret (Text.trim (Hex.encode secret ++ "\n").toList) =
      .ok secret := by
  have decoded := decodeHex_encode filled
  have length := length_utf8_encode secret
  have written : (Hex.encode secret).toList ≠ [] :=
    (decodeHex_eq_ok_iff.mp decoded).1
  have solid : ∀ character ∈ (Hex.encode secret).toList,
      Text.isWhitespace character = false := fun _ member =>
    (Text.visible_of_isDigit (isDigit_of_mem_encode member)).isWhitespace
  rw [String.toList_append, show "\n".toList = ['\n'] from rfl,
    Text.trim_line written solid]
  exact decodeSecret_of_decodeHex decoded (by omega)

end Velum.Node.Issuance
