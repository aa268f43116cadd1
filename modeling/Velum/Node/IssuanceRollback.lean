import Velum.Client.Installation
import Velum.Node.ConfigText

/-!
# Rollback of an issuance

When a failed issuance leaves the configuration and the credentials as they
were.  A secret that was written only in part, or whose permissions could not
be changed, stays behind; and a failed delivery writes the configuration anew,
which gives the old text only where the relay had written it.
-/

namespace Velum.Node.Issuance

open Foundation HostProgram

abbrev IssueState := HostState IssueStep FilePath String

/-- A file of the credentials directory. -/
def InCredentials (configPath path : FilePath) : Prop :=
  ∃ configParent name, configPath.parent = some configParent ∧
    path = (configParent.join "credentials".toList).join name

/-- The configuration and the set of credential files are the same. -/
structure Unchanged (configPath : FilePath)
    (before after : FilePath → Option String) : Prop where
  config : after configPath = before configPath
  credentials : ∀ path, InCredentials configPath path →
    (after path).isSome = (before path).isSome

/-- No operation of an undo has failed. -/
def Forward (failures : List (Failure IssueStep String)) : Prop :=
  ∀ failure ∈ failures, failure.step.undoes = false

def Atomic (configPath : FilePath) (before : FilePath → Option String)
    (result : Except String Unit) (final : IssueState) : Prop :=
  (∃ message, result = .error message) → Forward final.2 →
    Unchanged configPath before final.1

section Condition

variable {Rest Document : Type} (toml : ConfigCodec Rest)
  (codec : EnrollmentCodec Document) (acceptsServerName : String → Bool)
  (host : RelayHost Document) (options : IssueOptions)
  (configPath output : FilePath)

/-- The configuration with the credential of a new client. -/
def updated (original : Config Rest) (options : IssueOptions)
    (principalId : UInt64) (secretPath : FilePath) : Config Rest :=
  { original with
    credentials := original.credentials ++ [{
      id := principalId
      name := some options.clientName
      secretFile := secretPath.display }] }

/-- An issue comes to the delivery when no operation fails: it is prepared, the
secret has no file yet, and the configuration can be encoded. -/
def ComesToDelivery (before : FilePath → Option String) : Prop :=
  ∃ source original prepared configParent,
    before configPath = some source ∧ toml.fromStr source = .ok original ∧
    prepareIssue codec acceptsServerName
      { host with configParent := configPath.parent.map FilePath.display }
      options original.credentials = .ok prepared ∧
    configPath.parent = some configParent ∧
    before (secretFile configParent options.clientName
      prepared.principalId) = none ∧
    ∃ encoded, toml.toStringPretty (updated original options
      prepared.principalId (secretFile configParent options.clientName
        prepared.principalId)) = .ok encoded

/-- An enrollment file has a directory to be in. -/
def HasDirectory : Prop := options.delivery = .file → output.parent.isSome

/-- The file reads as the relay would write it. -/
def Rewritable (contents : Option String) : Prop :=
  ∃ source config encoded, contents = some source ∧
    toml.fromStr source = .ok config ∧
    toml.toStringPretty config = .ok encoded ∧ source = written config encoded

/-- The condition on the operations that fail and on the configuration; `comes`
says that the issue would come to its delivery. -/
structure Undoable (comes : Prop) (contents : Option String)
    (failures : List (Failure IssueStep String)) : Prop where
  secret : ∀ failure ∈ failures, failure.step = .writeSecret →
    failure.left = none
  restricted : ∀ failure ∈ failures, failure.step ≠ .restrictSecret
  delivered : (∃ failure ∈ failures, failure.step.delivers = true) ∨
    (failures = [] ∧ comes ∧ ¬HasDirectory options output) →
      Rewritable toml contents

end Condition

/-! ## Paths -/

section Paths

variable {configPath path : FilePath}

theorem InCredentials.length (inside : InCredentials configPath path) :
    path.components.length = configPath.components.length + 1 := by
  obtain ⟨configParent, name, known, rfl⟩ := inside
  rw [FilePath.length_of_parent known]
  simp [FilePath.join]

theorem InCredentials.ne_config (inside : InCredentials configPath path) :
    path ≠ configPath := by
  rintro rfl
  have longer := inside.length
  omega

theorem InCredentials.ne_temporary (inside : InCredentials configPath path)
    (extension : Text) : path ≠ configPath.withExtension extension := by
  intro same
  have longer := inside.length
  rw [same, FilePath.length_withExtension] at longer
  omega

end Paths

/-! ## The functions of an issuance -/

section Functions

variable {files : FilePath → Option String}
  {failures : List (Failure IssueStep String)} {path : FilePath}
  {returns : Unit → IssueState → Prop} {raises : String → IssueState → Prop}

theorem ensures_write {Rest : Type} {toml : ConfigCodec Rest}
    {label : ConfigStep → IssueStep} {config : Config Rest}
    (directory : path.parent.isSome)
    (activated : ∀ encoded after, toml.toStringPretty config = .ok encoded →
      after path = some (written config encoded) →
      (∀ other, other ≠ path →
        other ≠ path.withExtension "toml.tmp".toList →
        after other = files other) →
      returns () (after, failures))
    (unencoded : ∀ message error,
      toml.toStringPretty config = .error error →
      raises message (files, failures))
    (failed : ∀ message after step left,
      (∀ other, other ≠ path.withExtension "toml.tmp".toList →
        after other = files other) →
      raises message (after, failures ++ [⟨label step, left⟩])) :
    Ensures (write toml label path config) (files, failures) returns
      raises := by
  obtain ⟨parent, known⟩ := Option.isSome_iff_exists.mp directory
  simp only [write, known, ensures_bind]
  refine ensures_attempt_unchanged rfl id (by simp) ?_
    fun message => failed message files _ none fun _ _ => rfl
  cases encodes : toml.toStringPretty config with
  | error error =>
      simp only [ensures_throw]
      exact unencoded _ error encodes
  | ok encoded =>
      have elsewhere : ∀ left other,
          other ≠ path.withExtension "toml.tmp".toList →
          Function.update files (path.withExtension "toml.tmp".toList) left
            other = files other := fun left other different =>
        Function.update_of_ne different _ _
      simp only [ensures_bind]
      refine HostProgram.ensures_write ?_ fun message left =>
        failed message _ _ left (elsewhere left)
      refine ensures_attempt_unchanged rfl id (by simp) ?_
        fun message => failed message _ _ none (elsewhere _)
      refine ensures_rename (Function.update_self _ _ _) ?_
        fun message => failed message _ _ none (elsewhere _)
      refine activated encoded _ encodes (Function.update_self _ _ _) ?_
      intro other live temporary
      rw [Function.update_of_ne live, Function.update_of_ne temporary,
        elsewhere _ _ temporary]

theorem ensures_writeSecret {secret : List UInt8}
    (directory : path.parent.isSome)
    (stored : files path = none →
      returns () (Function.update files path
        (some (Hex.encode secret ++ "\n")), failures))
    (taken : ∀ message, files path ≠ none → raises message (files, failures))
    (uncreated : ∀ message,
      raises message (files, failures ++ [⟨.createCredentials, none⟩]))
    (failed : ∀ message left, files path = none →
      raises message (Function.update files path left,
        failures ++ [⟨.writeSecret, left⟩]))
    (unrestricted : ∀ message contents, files path = none →
      raises message (Function.update files path (some contents),
        failures ++ [⟨.restrictSecret, none⟩])) :
    Ensures (writeSecret path secret) (files, failures) returns raises := by
  obtain ⟨parent, known⟩ := Option.isSome_iff_exists.mp directory
  simp only [writeSecret, known, ensures_bind]
  refine ensures_attempt_unchanged rfl id (by simp) ?_ uncreated
  simp only [ensures_look]
  split
  next present =>
      refine taken _ ?_
      intro free
      rw [free] at present
      cases present
  next absent =>
      have free : files path = none := by simpa using absent
      simp only [ensures_bind]
      refine HostProgram.ensures_write ?_ fun message left =>
        failed message left free
      exact ensures_attempt_unchanged rfl id (by simp) (stored free)
        fun message => unrestricted message _ free

/-- A failed delivery has left no file, or an undo has failed; a file that was
there is kept. -/
theorem ensures_deliver {Document : Type} {codec : EnrollmentCodec Document}
    {characters : Document → String} {delivery : Delivery}
    {canonical : Document}
    (delivered : ∀ after, (delivery = .file → path.parent.isSome) →
      (∀ other, (files other).isSome → after other = files other) →
      returns () (after, failures))
    (unlocated : ∀ message, delivery = .file → path.parent = none →
      raises message (files, failures))
    (failed : ∀ message step left, step.delivers = true →
      raises message (files, failures ++ [⟨step, left⟩]))
    (undone : ∀ message after step left,
      (∀ other, (files other).isSome → after other = files other) →
      raises message
        (after, failures ++ [⟨step, left⟩, ⟨.removeEnrollment, none⟩])) :
    Ensures (deliver codec characters delivery path canonical)
      (files, failures) returns raises := by
  cases delivery with
  | qr => exact delivered files (by simp) fun _ _ => rfl
  | file =>
      rw [deliver, writePrivateNew]
      cases known : path.parent with
      | none => exact unlocated _ rfl known
      | some parent =>
          simp only [ensures_bind, ensures_tryCatch, ensures_throw]
          refine ensures_attempt_unchanged rfl id (by simp) ?_
            fun message => failed message _ _ rfl
          refine ensures_createNew ?_ fun message => failed message _ _ rfl
          intro free
          have others : ∀ contents other, (files other).isSome →
              Function.update (Function.update files path (some "")) path
                contents other = files other := by
            intro contents other present
            have different : other ≠ path := by
              rintro rfl
              rw [free] at present
              cases present
            rw [Function.update_of_ne different,
              Function.update_of_ne different]
          refine HostProgram.ensures_write
            (delivered _ (fun _ => by simp [known]) (others _)) ?_
          intro message left
          apply ensures_discard
          · rw [Function.update_idem, Function.update_idem, ← free,
              Function.update_eq_self]
            exact failed message _ _ rfl
          · rw [List.append_assoc]
            exact undone message _ _ _ (others _)

/-- An undone delivery has written the old configuration and removed the
secret, or an undo has failed. -/
theorem ensures_undoDelivery {Rest : Type} {toml : ConfigCodec Rest}
    {original : Config Rest} {secretPath : FilePath} {error : String}
    (directory : path.parent.isSome)
    (restored : ∀ message encoded after,
      toml.toStringPretty original = .ok encoded →
      after path = some (written original encoded) →
      (∀ other, other ≠ path →
        other ≠ path.withExtension "toml.tmp".toList →
        after other = files other) →
      raises message (Function.update after secretPath none, failures))
    (unencoded : ∀ message error,
      toml.toStringPretty original = .error error →
      raises message (Function.update files secretPath none, failures))
    (undone : ∀ message after failures,
      (∃ failure ∈ failures, failure.step.undoes = true) →
      raises message (after, failures)) :
    Ensures (undoDelivery toml path original secretPath error)
      (files, failures) returns raises := by
  have kept : ∀ message after (earlier : List (Failure IssueStep String)),
      raises message (after, earlier ++ [⟨.removeSecret, none⟩]) :=
    fun message after earlier =>
      undone message _ _ ⟨⟨.removeSecret, none⟩, by simp, rfl⟩
  simp only [undoDelivery, ensures_bind, ensures_outcome]
  refine ensures_write directory ?_ ?_ ?_
  · intro encoded after encodes active elsewhere
    refine ensures_discard ?_ (kept _ _ _)
    exact restored _ encoded after encodes active elsewhere
  · intro message error encodes
    refine ensures_discard ?_ (kept _ _ _)
    exact unencoded _ error encodes
  · intro message after step left elsewhere
    refine ensures_discard ?_ (kept _ _ _)
    exact undone _ _ _ ⟨⟨.rollback step, left⟩, by simp, rfl⟩

end Functions

/-! ## The account of a run -/

section Account

variable {Rest Document : Type} {toml : ConfigCodec Rest}
  {options : IssueOptions} {output configPath secretPath : FilePath}
  {comes : Prop} {before after : FilePath → Option String}
  {failures : List (Failure IssueStep String)}

/-- Where no undo has failed, the files are unchanged under the condition and
not otherwise. -/
def Accounted (toml : ConfigCodec Rest) (options : IssueOptions)
    (output configPath : FilePath) (comes : Prop)
    (before : FilePath → Option String) (final : IssueState) : Prop :=
  Forward final.2 →
    (Undoable toml options output comes (before configPath) final.2 ↔
      Unchanged configPath before final.1)

theorem accounted_of_undone
    (undone : ∃ failure ∈ failures, failure.step.undoes = true) :
    Accounted toml options output configPath comes before
      (after, failures) := by
  intro forward
  obtain ⟨failure, member, undoes⟩ := undone
  rw [forward failure member] at undoes
  cases undoes

/-- Once the secret is gone, only the configuration may differ. -/
theorem unchanged_iff_config (free : before secretPath = none)
    (gone : after secretPath = none)
    (elsewhere : ∀ path, path ≠ secretPath → path ≠ configPath →
      path ≠ configPath.withExtension "toml.tmp".toList →
      after path = before path) :
    Unchanged configPath before after ↔
      after configPath = before configPath := by
  constructor
  · intro unchanged
    exact unchanged.config
  · intro same
    refine ⟨same, ?_⟩
    intro path inside
    by_cases secret : path = secretPath
    · rw [secret, gone, free]
    · rw [elsewhere path secret inside.ne_config (inside.ne_temporary _)]

/-- A secret that is left behind is a change. -/
theorem not_unchanged_of_secret (inside : InCredentials configPath secretPath)
    (free : before secretPath = none) (left : (after secretPath).isSome) :
    ¬Unchanged configPath before after := by
  intro unchanged
  rw [unchanged.credentials secretPath inside, free] at left
  cases left

theorem undoable_of_harmless {contents : Option String}
    (early : failures = [] → ¬comes ∨ HasDirectory options output)
    (harmless : ∀ failure ∈ failures, failure.step ≠ .writeSecret ∧
      failure.step ≠ .restrictSecret ∧ failure.step.delivers = false) :
    Undoable toml options output comes contents failures where
  secret failure member wrote := absurd wrote (harmless failure member).1
  restricted failure member := (harmless failure member).2.1
  delivered reached := by
    rcases reached with ⟨failure, member, delivers⟩ | ⟨none, arrives, unlocated⟩
    · rw [(harmless failure member).2.2] at delivers
      cases delivers
    · rcases early none with stops | located
      · exact absurd arrives stops
      · exact absurd located unlocated

theorem accounted_of_unchanged (unchanged : Unchanged configPath before after)
    (early : failures = [] → ¬comes)
    (harmless : ∀ failure ∈ failures, failure.step ≠ .writeSecret ∧
      failure.step ≠ .restrictSecret ∧ failure.step.delivers = false) :
    Accounted toml options output configPath comes before
      (after, failures) := by
  intro _
  exact ⟨fun _ => unchanged,
    fun _ => undoable_of_harmless (fun none => .inl (early none)) harmless⟩

theorem accounted_secret (inside : InCredentials configPath secretPath)
    (free : before secretPath = none) (left : Option String) :
    Accounted toml options output configPath comes before
      (Function.update before secretPath left, [⟨.writeSecret, left⟩]) := by
  intro _
  cases left with
  | none =>
      have same : Function.update before secretPath none = before := by
        rw [← free, Function.update_eq_self]
      rw [same]
      constructor
      · intro _
        exact ⟨rfl, fun _ _ => rfl⟩
      · intro _
        refine ⟨by simp, by simp, ?_⟩
        simp [IssueStep.delivers]
  | some contents =>
      constructor
      · intro undoable
        have left := undoable.secret _ (List.mem_singleton.mpr rfl) rfl
        cases left
      · intro unchanged
        exact absurd unchanged (not_unchanged_of_secret inside free (by simp))

theorem accounted_unrestricted (inside : InCredentials configPath secretPath)
    (free : before secretPath = none) (contents : String) :
    Accounted toml options output configPath comes before
      (Function.update before secretPath (some contents),
        [⟨.restrictSecret, none⟩]) := by
  intro _
  constructor
  · intro undoable
    exact absurd rfl (undoable.restricted _ (List.mem_singleton.mpr rfl))
  · intro unchanged
    exact absurd unchanged (not_unchanged_of_secret inside free (by simp))

/-- A configuration that could not be written is as it was, and the secret is
removed. -/
theorem accounted_config (inside : InCredentials configPath secretPath)
    (temporary : configPath ≠ configPath.withExtension "toml.tmp".toList)
    (free : before secretPath = none) {contents : String}
    (elsewhere : ∀ path, path ≠ configPath.withExtension "toml.tmp".toList →
      after path = Function.update before secretPath (some contents) path)
    (early : failures = [] → ¬comes)
    (harmless : ∀ failure ∈ failures, failure.step ≠ .writeSecret ∧
      failure.step ≠ .restrictSecret ∧ failure.step.delivers = false) :
    Accounted toml options output configPath comes before
      (Function.update after secretPath none, failures) := by
  have kept : ∀ path, path ≠ secretPath →
      path ≠ configPath.withExtension "toml.tmp".toList →
      Function.update after secretPath none path = before path := by
    intro path secret other
    rw [Function.update_of_ne secret, elsewhere path other,
      Function.update_of_ne secret]
  refine accounted_of_unchanged ?_ early harmless
  rw [unchanged_iff_config free (Function.update_self _ _ _)
    fun path secret _ other => kept path secret other]
  exact kept configPath inside.ne_config.symm temporary

/-- After a failed delivery the configuration reads as the relay writes it. -/
theorem accounted_delivery (inside : InCredentials configPath secretPath)
    (free : before secretPath = none) {source encoded : String}
    {original : Config Rest} (held : before configPath = some source)
    (parsed : toml.fromStr source = .ok original)
    (encodes : toml.toStringPretty original = .ok encoded)
    (reached : (∃ failure ∈ failures, failure.step.delivers = true) ∨
      (failures = [] ∧ comes ∧ ¬HasDirectory options output))
    (delivers : ∀ failure ∈ failures, failure.step.delivers = true)
    (active : after configPath = some (written original encoded))
    (elsewhere : ∀ path, path ≠ secretPath → path ≠ configPath →
      path ≠ configPath.withExtension "toml.tmp".toList →
      after path = before path) :
    Accounted toml options output configPath comes before
      (Function.update after secretPath none, failures) := by
  intro _
  have config : Function.update after secretPath none configPath =
      some (written original encoded) := by
    rw [Function.update_of_ne inside.ne_config.symm, active]
  have others : ∀ path, path ≠ secretPath → path ≠ configPath →
      path ≠ configPath.withExtension "toml.tmp".toList →
      Function.update after secretPath none path = before path := by
    intro path secret live temporary
    rw [Function.update_of_ne secret, elsewhere path secret live temporary]
  rw [unchanged_iff_config free (Function.update_self _ _ _) others, config,
    held, Option.some.injEq]
  constructor
  · intro undoable
    obtain ⟨other, config, text, present, reads, writes, same⟩ :=
      undoable.delivered reached
    cases present
    cases parsed.symm.trans reads
    cases encodes.symm.trans writes
    exact same.symm
  · intro same
    refine ⟨?_, ?_, fun _ =>
      ⟨source, original, encoded, rfl, parsed, encodes, same.symm⟩⟩
    · intro failure member wrote
      have delivering := delivers failure member
      rw [wrote] at delivering
      cases delivering
    · intro failure member restricted
      have delivering := delivers failure member
      rw [restricted] at delivering
      cases delivering

theorem ensures_commitIssue {codec : EnrollmentCodec Document}
    {characters : Document → String} {original : Config Rest}
    {prepared : Prepared Document} {source : String}
    (inside : InCredentials configPath secretPath)
    (credentials : secretPath.parent.isSome)
    (named : configPath.fileName.isSome)
    (held : before configPath = some source)
    (parsed : toml.fromStr source = .ok original)
    (arrives : comes ↔ before secretPath = none ∧
      ∃ encoded, toml.toStringPretty (updated original options
        prepared.principalId secretPath) = .ok encoded) :
    Ensures (commitIssue toml codec characters options configPath output
        original prepared secretPath) (before, [])
      (fun _ final => final.2 = [] ∧ HasDirectory options output)
      (fun _ => Accounted toml options output configPath comes before) := by
  have parent := FilePath.parent_isSome_of_fileName named
  have temporary : configPath ≠
      configPath.withExtension "toml.tmp".toList := by
    have dotless : '.' ∉ "tmp".toList := by decide
    exact (@FilePath.withExtension_ne_self _ "toml".toList _ named
      dotless).symm
  have untouched : Unchanged configPath before before :=
    ⟨rfl, fun _ _ => rfl⟩
  simp only [commitIssue, ensures_bind, ensures_tryCatch, ensures_throw]
  refine ensures_writeSecret credentials ?_ ?_ ?_ ?_ ?_
  · intro free
    refine ensures_write parent ?_ ?_ ?_
    · intro _ configured encodes _ elsewhere
      obtain ⟨shorter, writes⟩ := toml.toStringPretty_append _ _ _ encodes
      have taken : ∀ failures : List (Failure IssueStep String), ∀ message,
          ((∃ failure ∈ failures, failure.step.delivers = true) ∨
            (failures = [] ∧ comes ∧ ¬HasDirectory options output)) →
          (∀ failure ∈ failures, failure.step.delivers = true) →
          Ensures (undoDelivery toml configPath original secretPath message)
            (configured, failures)
            (fun _ final => final.2 = [] ∧ HasDirectory options output)
            (fun _ =>
              Accounted toml options output configPath comes before) := by
        intro failures message reached delivers
        refine ensures_undoDelivery parent ?_ ?_ ?_
        · intro message encoded after rewrites active others
          refine accounted_delivery inside free held parsed rewrites reached
            delivers active ?_
          intro path secret live other
          rw [others path live other, elsewhere path live other,
            Function.update_of_ne secret]
        · intro message error refused
          cases writes.symm.trans refused
        · intro _ _ _ undone
          exact accounted_of_undone undone
      refine ensures_deliver (fun _ located _ => ⟨rfl, located⟩) ?_ ?_ ?_
      · intro message file unparented
        have arrived := arrives.mpr ⟨free, _, encodes⟩
        refine taken [] message (.inr ⟨rfl, arrived, ?_⟩) (by simp)
        intro located
        have parented := located file
        rw [unparented] at parented
        cases parented
      · intro message step left delivers
        refine taken _ message (.inl ⟨_, List.mem_singleton.mpr rfl, delivers⟩)
          ?_
        intro failure member
        cases List.mem_singleton.mp member
        exact delivers
      · intro message after step left _
        have undone : ∃ failure ∈ ([] ++ [⟨step, left⟩,
            ⟨.removeEnrollment, none⟩] : List (Failure IssueStep String)),
            failure.step.undoes = true :=
          ⟨⟨.removeEnrollment, none⟩, by simp, rfl⟩
        refine ensures_undoDelivery parent ?_ ?_ ?_
        · intro _ _ _ _ _ _
          exact accounted_of_undone undone
        · intro _ _ _
          exact accounted_of_undone undone
        · intro _ _ _ undone
          exact accounted_of_undone undone
    · intro message error refused
      have early : ¬comes := by
        intro arrived
        obtain ⟨_, _, encodes⟩ := arrives.mp arrived
        cases refused.symm.trans encodes
      refine ensures_discard ?_ ?_
      · exact accounted_config inside temporary free (fun _ _ => rfl)
          (fun _ => early) (by simp)
      · exact accounted_of_undone ⟨⟨.removeSecret, none⟩, by simp, rfl⟩
    · intro message after step left elsewhere
      refine ensures_discard ?_ ?_
      · exact accounted_config inside temporary free elsewhere (by simp)
          (by simp [IssueStep.delivers])
      · exact accounted_of_undone ⟨⟨.removeSecret, none⟩, by simp, rfl⟩
  · intro _ taken
    exact accounted_of_unchanged untouched
      (fun _ arrived => taken (arrives.mp arrived).1) (by simp)
  · intro _
    exact accounted_of_unchanged untouched (by simp)
      (by simp [IssueStep.delivers])
  · intro _ left free
    exact accounted_secret inside free left
  · intro _ contents free
    exact accounted_unrestricted inside free contents

end Account

/-! ## Runs -/

/-- An issuance fails before it writes, or it comes to its writing. -/
theorem ensures_issue_of_commit {Rest Document : Type}
    {toml : ConfigCodec Rest} {codec : EnrollmentCodec Document}
    {characters : Document → String} {acceptsServerName : String → Bool}
    {host : RelayHost Document} {options : IssueOptions}
    {configPath output : FilePath} {files : FilePath → Option String}
    {returns : Unit → IssueState → Prop} {raises : String → IssueState → Prop}
    (early : ∀ message failures,
      (∀ failure ∈ failures, failure.step = IssueStep.readConfig) →
      (failures = [] → ¬ComesToDelivery toml codec acceptsServerName host
        options configPath files) →
      raises message (files, failures))
    (commits : ∀ source original prepared configParent,
      files configPath = some source → toml.fromStr source = .ok original →
      prepareIssue codec acceptsServerName
        { host with configParent := configPath.parent.map FilePath.display }
        options original.credentials = .ok prepared →
      configPath.parent = some configParent →
      Ensures (commitIssue toml codec characters options configPath output
        original prepared (secretFile configParent options.clientName
          prepared.principalId)) (files, []) returns raises) :
    Ensures (issue toml codec characters acceptsServerName host options
        configPath output) (files, []) returns raises := by
  have silent (message : String)
      (stops : ¬ComesToDelivery toml codec acceptsServerName host options
        configPath files) : raises message (files, []) :=
    early message [] (by simp) fun _ => stops
  rw [issue]
  cases valid : validateClientName options.clientName with
  | error error =>
      apply silent
      rintro ⟨_, _, _, _, _, _, prepares, _⟩
      obtain ⟨_, checked, _⟩ := bind_eq_ok prepares
      cases valid.symm.trans checked
  | ok _ =>
      simp only [read, ensures_bind]
      refine ensures_read ?_ fun message => early message _ (by simp) (by simp)
      intro source held
      cases parsed : toml.fromStr source with
      | error error =>
          apply silent
          rintro ⟨_, _, _, _, present, reads, _⟩
          cases held.symm.trans present
          cases parsed.symm.trans reads
      | ok original =>
          simp only [ensures_pure]
          split
          next refused =>
              apply silent
              rintro ⟨_, _, _, _, present, reads, prepares, _⟩
              cases held.symm.trans present
              cases parsed.symm.trans reads
              cases refused.symm.trans prepares
          next prepared prepares =>
              split
              next missing =>
                  apply silent
                  rintro ⟨_, _, _, _, _, _, _, known, _⟩
                  cases missing.symm.trans known
              next configParent known =>
                  exact commits source original prepared configParent held
                    parsed prepares known

theorem parent_secretFile {configParent : FilePath} {clientName : String}
    {principalId : UInt64} :
    (secretFile configParent clientName principalId).parent.isSome := by
  rw [secretFile, FilePath.parent_join (by simp)]
  rfl

theorem ensures_issue {Rest Document : Type} (toml : ConfigCodec Rest)
    (codec : EnrollmentCodec Document) (characters : Document → String)
    (acceptsServerName : String → Bool) (host : RelayHost Document)
    (options : IssueOptions) (configPath output : FilePath)
    {before : FilePath → Option String}
    (named : ∀ path, (before path).isSome → path.fileName.isSome) :
    Ensures (issue toml codec characters acceptsServerName host options
        configPath output) (before, [])
      (fun _ final => final.2 = [] ∧ HasDirectory options output)
      (fun _ => Accounted toml options output configPath
        (ComesToDelivery toml codec acceptsServerName host options configPath
          before) before) := by
  apply ensures_issue_of_commit
  · intro message failures reads stops
    apply accounted_of_unchanged ⟨rfl, fun _ _ => rfl⟩ stops
    intro failure member
    simp [reads failure member, IssueStep.delivers]
  · intro source original prepared configParent held parsed prepares known
    apply ensures_commitIssue ⟨configParent, _, known, rfl⟩
      parent_secretFile (named configPath (by simp [held])) held parsed
    constructor
    · rintro ⟨_, _, _, _, present, reads, again, parent, free, encodes⟩
      cases held.symm.trans present
      cases parsed.symm.trans reads
      cases prepares.symm.trans again
      cases known.symm.trans parent
      exact ⟨free, encodes⟩
    · rintro ⟨free, encodes⟩
      exact ⟨source, original, prepared, configParent, held, parsed, prepares,
        known, free, encodes⟩

/-- A failed issuance leaves the configuration and the credentials as they
were where it can undo what has failed, and in no other run. -/
theorem issue_atomic {Rest Document : Type} (toml : ConfigCodec Rest)
    (codec : EnrollmentCodec Document) (characters : Document → String)
    (acceptsServerName : String → Bool) (host : RelayHost Document)
    (options : IssueOptions) (configPath output : FilePath)
    (before : FilePath → Option String)
    (named : ∀ path, (before path).isSome → path.fileName.isSome)
    (result : Except String Unit) (final : IssueState)
    (ended : Script.Ends (HostAnswers IssueStep FilePath String) (before, [])
      (issue toml codec characters acceptsServerName host options configPath
        output) result final) :
    Atomic configPath before result final ↔
      (Forward final.2 →
        Undoable toml options output
          (ComesToDelivery toml codec acceptsServerName host options
            configPath before) (before configPath) final.2) := by
  have ends := (ensures_issue toml codec characters acceptsServerName host
    options configPath output named).of_ends ended
  cases result with
  | ok value =>
      obtain ⟨silent, located⟩ := ends.1 value rfl
      rw [silent]
      constructor
      · intro _ _
        exact undoable_of_harmless (fun _ => .inr located) (by simp)
      · rintro _ ⟨message, impossible⟩
        cases impossible
  | error message =>
      have accounted := ends.2 message rfl
      constructor
      · intro atomic forward
        exact (accounted forward).mpr (atomic ⟨message, rfl⟩ forward)
      · intro undoable _ forward
        exact (accounted forward).mp (undoable forward)

/-! ## A relay with one credential -/

/-- The run of a reading that succeeds. -/
theorem run_read {Rest World : Type} {toml : ConfigCodec Rest}
    {configPath : FilePath} {source : String} {original : Config Rest}
    {perform : World → (call : HostCall IssueStep FilePath String) →
      call.Reply × World} {world : World}
    (held : perform world (.read .readConfig configPath) =
      (Except.ok source, world))
    (parsed : toml.fromStr source = .ok original) :
    Script.run perform (read toml configPath) world =
      (.ok original, world) := by
  have found : Script.run perform
      (HostProgram.read .readConfig configPath fun error =>
        "cannot read configuration " ++ configPath.display ++ ": " ++ error)
      world = (.ok source, world) := by
    rw [HostProgram.read]
    refine (Script.run_bind _ _ _).trans ?_
    rw [Script.run_call, held]
    rfl
  refine (Script.run_bind_ok found).trans ?_
  rw [parsed]
  rfl

/-- The run of an issue that is prepared, when its configuration can be
read. -/
theorem run_issue {Rest Document World : Type} {toml : ConfigCodec Rest}
    {codec : EnrollmentCodec Document} {characters : Document → String}
    {acceptsServerName : String → Bool} {host : RelayHost Document}
    {options : IssueOptions} {configPath output configParent : FilePath}
    {perform : World → (call : HostCall IssueStep FilePath String) →
      call.Reply × World} {world : World} {source : String}
    {original : Config Rest} {prepared : Prepared Document}
    (held : perform world (.read .readConfig configPath) =
      (Except.ok source, world))
    (parsed : toml.fromStr source = .ok original)
    (prepares : prepareIssue codec acceptsServerName
      { host with configParent := configPath.parent.map FilePath.display }
      options original.credentials = .ok prepared)
    (known : configPath.parent = some configParent) :
    Script.run perform (issue toml codec characters acceptsServerName host
        options configPath output) world =
      Script.run perform (commitIssue toml codec characters options configPath
        output original prepared (secretFile configParent options.clientName
          prepared.principalId)) world := by
  have valid : validateClientName options.clientName = .ok () := by
    obtain ⟨_, checked, _⟩ := bind_eq_ok prepares
    exact checked
  have reading := run_read held parsed
  rw [known] at prepares
  rw [issue, valid, known]
  refine (Script.run_bind_ok reading).trans ?_
  simp only [prepares]

def sampleSettings : Settings where
  version := 1
  certificate := "/etc/velum/cert.pem"
  privateKey := "/etc/velum/key.pem"
  adminSocket := "/etc/velum/.velum-admin/admin.sock"
  allowedTargets := ["203.0.113.20:443"]
  limits := {
    maxSessions := 64
    maxFlowsPerSession := 16
    maxConnections := 1024
    maxStreamsPerConnection := 64
    connectTimeoutSecs := 5
    controlTimeoutSecs := 5
    shutdownTimeoutSecs := 5 }
  coverService := none
  acme := none

/-- A configuration with the given credentials. -/
def sampleConfig (credentials : List CredentialConfig) : Config Settings where
  bind := "0.0.0.0:4433"
  credentials := credentials
  rest := sampleSettings

def sampleText (credentials : List CredentialConfig) : String :=
  written (sampleConfig credentials) (configText (sampleConfig credentials))

theorem fromStr_sampleText {credentials : List CredentialConfig}
    (encodable : Encodable (sampleConfig credentials)) :
    configToml.fromStr (sampleText credentials) =
      .ok (sampleConfig credentials) := by
  have bound : (Protocol.AddressText.parseSocketAddr
      "0.0.0.0:4433".toList).isSome := by decide +kernel
  rw [sampleText]
  exact fromStr_written bound (toStringPretty_of_encodable encodable)

def samplePath (names : List String) : FilePath :=
  ⟨[] :: names.map String.toList⟩

@[simp] theorem samplePath_inj {names others : List String} :
    samplePath names = samplePath others ↔ names = others := by
  constructor
  · intro same
    have components := (List.cons.inj (FilePath.mk.inj same)).2
    exact List.map_injective_iff.mpr (fun _ _ => String.toList_inj.mp)
      components
  · rintro rfl
    rfl

def sampleFiles (path : FilePath) : Option String :=
  if path = samplePath ["etc", "velum", "config.toml"] then
    some (sampleText Client.sampleConfig)
  else none

def sampleIssue (stops : IssueStep → Option String) :
    Except String Unit × IssueState :=
  runStopping stops
    (issue configToml EnrollmentBundle.texts String.ofList (fun _ => true)
      (Client.sampleHost 1) (Client.sampleOptions "phone")
      (samplePath ["etc", "velum", "config.toml"])
      (samplePath ["home", "phone.json"]))
    sampleFiles

def samplePrepared : Prepared Text where
  principalId := 2
  secretFile := "/etc/velum/credentials/phone-2.hex"
  secret := List.replicate 32 1
  bundle := (Client.sampleIssued 2 1).bundle
  canonical := Json.write (Client.sampleIssued 2 1).bundle.toJson

def denied (step : IssueStep) : IssueStep → Option String := fun other =>
  if other = step then some "Permission denied (os error 13)" else none

theorem sampleIssue_eq {stops : IssueStep → Option String}
    (reads : stops .readConfig = none) :
    sampleIssue stops = runStopping stops
      (commitIssue configToml EnrollmentBundle.texts String.ofList
        (Client.sampleOptions "phone")
        (samplePath ["etc", "velum", "config.toml"])
        (samplePath ["home", "phone.json"])
        (sampleConfig Client.sampleConfig) samplePrepared
        (secretFile (samplePath ["etc", "velum"]) "phone" 2)) sampleFiles := by
  have parsed := @fromStr_sampleText Client.sampleConfig (by decide)
  refine run_issue ?_ parsed rfl rfl
  simp only [answerStopping, reads]
  rfl

theorem sampleFiles_named (path : FilePath)
    (present : (sampleFiles path).isSome) : path.fileName.isSome := by
  rw [sampleFiles] at present
  split at present
  next same => rw [same]; rfl
  next => cases present

theorem issue_atomic_of_denied_enrollment :
    Atomic (samplePath ["etc", "velum", "config.toml"]) sampleFiles
      (sampleIssue (denied .createEnrollment)).1
      (sampleIssue (denied .createEnrollment)).2 := by
  have log : (sampleIssue (denied .createEnrollment)).2.2 =
      [⟨.createEnrollment, none⟩] := by
    rw [sampleIssue_eq rfl]
    decide +kernel
  refine (issue_atomic configToml EnrollmentBundle.texts _ _ _ _ _ _ _
    sampleFiles_named _ _ (ends_runStopping _ _ _)).mpr ?_
  intro _
  rw [sampleIssue] at log
  rw [log]
  refine ⟨by simp, by simp, ?_⟩
  intro _
  exact ⟨sampleText Client.sampleConfig, sampleConfig Client.sampleConfig,
    configText (sampleConfig Client.sampleConfig), if_pos rfl,
    fromStr_sampleText (by decide), toStringPretty_of_encodable (by decide),
    rfl⟩

/-- Where the permissions of the new secret cannot be changed, its file
stays. -/
theorem denied_secret_left_behind :
    ∃ (result : Except String Unit) (final : IssueState),
      Script.Ends (HostAnswers IssueStep FilePath String) (sampleFiles, [])
        (issue configToml EnrollmentBundle.texts String.ofList
          (fun _ => true) (Client.sampleHost 1) (Client.sampleOptions "phone")
          (samplePath ["etc", "velum", "config.toml"])
          (samplePath ["home", "phone.json"])) result final ∧
      final.2 = [⟨.restrictSecret, none⟩] ∧
      (final.1 (samplePath
        ["etc", "velum", "credentials", "phone-2.hex"])).isSome ∧
      ¬Atomic (samplePath ["etc", "velum", "config.toml"]) sampleFiles result
        final := by
  obtain ⟨log, left, failed⟩ :
      (sampleIssue (denied .restrictSecret)).2.2 = [⟨.restrictSecret, none⟩] ∧
      ((sampleIssue (denied .restrictSecret)).2.1 (samplePath
        ["etc", "velum", "credentials", "phone-2.hex"])).isSome = true ∧
      (sampleIssue (denied .restrictSecret)).1.isOk = false := by
    rw [sampleIssue_eq rfl]
    decide +kernel
  refine ⟨(sampleIssue (denied .restrictSecret)).1,
    (sampleIssue (denied .restrictSecret)).2,
    ends_runStopping (denied .restrictSecret) _ _, log, left, ?_⟩
  intro atomic
  have unchanged := atomic ?_ ?_
  · have same := unchanged.credentials
      (samplePath ["etc", "velum", "credentials", "phone-2.hex"])
      ⟨samplePath ["etc", "velum"], "phone-2.hex".toList, by decide +kernel,
        by decide +kernel⟩
    exact absurd (left.symm.trans same) (by decide +kernel)
  · cases known : (sampleIssue (denied .restrictSecret)).1 with
    | error message => exact ⟨message, rfl⟩
    | ok value =>
        rw [known] at failed
        cases failed
  · intro failure member
    rw [log] at member
    cases List.mem_singleton.mp member
    rfl

end Velum.Node.Issuance
