import Velum.Client.SystemProxy

/-!
# Recovery of the system proxy

Outside of two windows the backup and the settings of the desktop always fit
together: there is no backup and the settings are the original ones, or the
backup holds the original settings and either no applied ones or the current
ones.
-/

namespace Velum.Client

open Foundation
open Foundation.Script

abbrev ProxyState (Settings Text : Type) :=
  ProxyWorld Settings Text × Moment Settings

section Invariant

variable {Settings Text : Type}
  (backend : ProxyBackend Settings) (codec : SnapshotCodec Settings Text)

/-- The backup holds these settings. -/
def Recorded (files : BackupSlot → Option Text) (original : Settings)
    (applied : Option Settings) : Prop :=
  ∃ text, files .backup = some text ∧ codec.decode text =
    .ok (SystemProxy.recoverySnapshot backend original applied)

/-- The backup and the settings fit together. -/
def Recoverable (original : Settings) (world : ProxyWorld Settings Text) :
    Prop :=
  Touched backend original world.1 ∧
    (world.2 .backup = none ∧ world.1 = original ∨
      Recorded backend codec world.2 original none ∨
      Recorded backend codec world.2 original (some world.1))

/-- What is known at each moment of a process. -/
def Sound (original : Settings) (state : ProxyState Settings Text) : Prop :=
  match state.2 with
  | .calm => Recoverable backend codec original state.1
  | .writing => Recoverable backend codec original state.1
  | .checked settings => settings = state.1.1 ∧
      Recoverable backend codec original state.1
  | .exposed => Touched backend original state.1.1 ∧
      state.1.2 .backup = none
  | .restoring before => Touched backend original state.1.1 ∧
      Recorded backend codec state.1.2 original (some before)

/-- The states in which the settings may be restored after a failure. -/
def Undoable (original : Settings) (state : ProxyState Settings Text) :
    Prop :=
  Touched backend original state.1.1 ∧
    (Recorded backend codec state.1.2 original none ∧
        (state.2 = .calm ∨ state.2 = .writing) ∨
      state.1.2 .backup = none ∧ state.2 = .exposed)

/-- The script has ended in a good state, or with a failure in a bad one, and
only a fault makes it fail. -/
def EndsIn {Value : Type} (faults : Prop)
    (good : Value → ProxyState Settings Text → Prop)
    (bad : ProxyState Settings Text → Prop) :
    Except ProxyException Value → ProxyState Settings Text → Prop
  | .ok value, state => good value state
  | .error _, state => faults ∧ bad state

/-- The state is sound at every call. -/
abbrev Keeps {Value : Type} (faults : Prop) (original : Settings)
    (good : Value → ProxyState Settings Text → Prop)
    (bad : ProxyState Settings Text → Prop)
    (script : ProxyScript Settings Text Value)
    (state : ProxyState Settings Text) : Prop :=
  Guarantees (ProxyAnswers faults)
    (fun state _ => Sound backend codec original state)
    (EndsIn faults good bad) script state

/-- The settings are restored and there is no backup. -/
def Clean (original : Settings) (state : ProxyState Settings Text) : Prop :=
  state.1.1 = original ∧ state.1.2 .backup = none ∧ state.2 = .calm

variable {backend codec} {original settings : Settings}
  {files : BackupSlot → Option Text} {moment : Moment Settings}

theorem Recorded.congr {later : BackupSlot → Option Text}
    {applied : Option Settings}
    (recorded : Recorded backend codec files original applied)
    (same : later .backup = files .backup) :
    Recorded backend codec later original applied := by
  obtain ⟨text, stored, decoded⟩ := recorded
  exact ⟨text, same.trans stored, decoded⟩

theorem Recorded.isSome {applied : Option Settings}
    (recorded : Recorded backend codec files original applied) :
    (files .backup).isSome = true := by
  obtain ⟨text, stored, _⟩ := recorded
  rw [stored]
  rfl

theorem Recoverable.congr {later : BackupSlot → Option Text}
    (recoverable : Recoverable backend codec original (settings, files))
    (same : later .backup = files .backup) :
    Recoverable backend codec original (settings, later) := by
  obtain ⟨touched, fits⟩ := recoverable
  refine ⟨touched, ?_⟩
  rcases fits with ⟨missing, restored⟩ | recorded | recorded
  · exact .inl ⟨same.trans missing, restored⟩
  · exact .inr (.inl (recorded.congr same))
  · exact .inr (.inr (recorded.congr same))

theorem Sound.touched {state : ProxyState Settings Text}
    (sound : Sound backend codec original state) :
    Touched backend original state.1.1 := by
  obtain ⟨world, moment⟩ := state
  cases moment with
  | calm => exact sound.1
  | checked settings => exact sound.2.1
  | writing => exact sound.1
  | exposed => exact sound.1
  | restoring before => exact sound.1

/-- At a harmless moment the backup and the settings fit together. -/
theorem Sound.recoverable {world : ProxyWorld Settings Text}
    (sound : Sound backend codec original (world, moment))
    (harmless : Harmless original moment world) :
    Recoverable backend codec original world := by
  cases moment with
  | calm => exact sound
  | checked settings => exact sound.2
  | writing => exact sound
  | exposed => exact ⟨sound.1, .inl ⟨sound.2, harmless⟩⟩
  | restoring before =>
      have same : world.1 = before := harmless
      refine ⟨sound.1, .inr (.inr ?_)⟩
      rw [same]
      exact sound.2

end Invariant

/-! ## Rules for scripts and calls -/

section Rules

variable {Settings Text Value Final : Type} {faults : Prop}
  {backend : ProxyBackend Settings} {codec : SnapshotCodec Settings Text}
  {original settings : Settings} {files : BackupSlot → Option Text}
  {moment : Moment Settings} {bad : ProxyState Settings Text → Prop}

theorem Keeps.tryCatch {good : Value → ProxyState Settings Text → Prop}
    {caught : ProxyState Settings Text → Prop}
    {script : ProxyScript Settings Text Value}
    {handler : ProxyException → ProxyScript Settings Text Value}
    {state : ProxyState Settings Text}
    (body : Keeps backend codec faults original good caught script state)
    (handled : ∀ {failure state}, faults → caught state →
      Keeps backend codec faults original good bad (handler failure)
        state) :
    Keeps backend codec faults original good bad
      (tryCatch script handler) state := by
  apply guarantees_tryCatch.mpr
  apply body.mono
  · exact id
  · intro result state ended
    cases result with
    | ok value => exact ended
    | error failure => exact handled ended.1 ended.2

theorem Keeps.mono {good better : Value → ProxyState Settings Text → Prop}
    {script : ProxyScript Settings Text Value}
    {state : ProxyState Settings Text}
    (kept : Keeps backend codec faults original better bad script state)
    (ends : ∀ {value state}, better value state → good value state) :
    Keeps backend codec faults original good bad script state := by
  apply Guarantees.mono kept
  · exact id
  · intro result state ended
    cases result with
    | ok value => exact ends ended
    | error failure => exact ended

end Rules

/-! ## Clearing and writing the backup -/

section Store

variable {Settings Text : Type} {faults : Prop}
  {backend : ProxyBackend Settings} {codec : SnapshotCodec Settings Text}
  {original settings : Settings} {files : BackupSlot → Option Text}
  {moment : Moment Settings}

end Store

/-! ## Commands of the backend -/

section Commands

variable {Settings Text : Type} {faults : Prop}
  {backend : ProxyBackend Settings} {codec : SnapshotCodec Settings Text}
  {original settings : Settings} {files : BackupSlot → Option Text}
  {moment : Moment Settings}

end Commands

/-! ## The operations -/

section Operations

variable {Settings Text : Type} [DecidableEq Settings] {faults : Prop}
  {backend : ProxyBackend Settings} {codec : SnapshotCodec Settings Text}
  {original settings : Settings} {files : BackupSlot → Option Text}
  {moment : Moment Settings}

end Operations

end Velum.Client
