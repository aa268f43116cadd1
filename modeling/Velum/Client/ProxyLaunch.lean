import Velum.Client.ProxyRecovery
import Velum.Client.ProxySnapshots

/-!
# The next launch after a crash

Wherever an operation is cut off, the next launch restores the settings unless
the process has died at one of two places.
-/

namespace Velum.Client

open Foundation
open Foundation.Script

section Launch

variable {Settings Text : Type} [DecidableEq Settings]
  {backend : ProxyBackend Settings} {codec : SnapshotCodec Settings Text}
  {original : Settings}

omit [DecidableEq Settings] in
/-- Without faults the script ends in a good state. -/
theorem Keeps.runs {Value : Type}
    {good : Value → ProxyState Settings Text → Prop}
    {bad : ProxyState Settings Text → Prop}
    {script : ProxyScript Settings Text Value}
    {world : ProxyWorld Settings Text} {moment : Moment Settings}
    (kept : Keeps backend codec False original good bad script
      (world, moment)) :
    ∃ value after moment, Script.run performProxy script.run world =
        (.ok value, after) ∧ good value (after, moment) := by
  obtain ⟨moment, ended⟩ := kept.of_run
  generalize outcome : Script.run performProxy script world = last at ended
  obtain ⟨result, after⟩ := last
  cases result with
  | error failure => exact ended.1.elim
  | ok value => exact ⟨value, after, moment, outcome, ended⟩

omit [DecidableEq Settings] in
theorem run_read {world : ProxyWorld Settings Text}
    {applied : Option Settings}
    (recorded : Recorded backend codec world.2 original applied) :
    Script.run performProxy (FileProxyBackupStore.read codec).run world =
      (.ok (some (SystemProxy.recoverySnapshot backend original applied)),
        world) := by
  obtain ⟨text, stored, decoded⟩ := recorded
  have performed : performProxy world (.inr (.read .backup)) =
      (.ok text, world) := beside_inr (FileCall.perform_read stored)
  have source : Script.run performProxy
      (readBackup : ProxyScript Settings Text Text).run world =
      (.ok text, world) := performed
  have snapshot : Script.run performProxy (ExceptT.mk
      (pure (codec.decode text)) : ProxyScript Settings Text _).run world =
      (.ok (SystemProxy.recoverySnapshot backend original applied),
        world) := by
    rw [decoded]
    rfl
  refine (run_bind_ok (run_call _ _)).trans ?_
  rw [stored]
  exact (run_bind_ok source).trans (run_bind_ok snapshot)

omit [DecidableEq Settings] in
theorem Keeps.ends {Value : Type}
    {good : Value → ProxyState Settings Text → Prop}
    {bad : ProxyState Settings Text → Prop}
    {script : ProxyScript Settings Text Value}
    {state : ProxyState Settings Text}
    (kept : Keeps backend codec False original good bad script state) :
    ∃ value after, Ends (ProxyAnswers True) state script.run (.ok value)
      after ∧ good value after := by
  obtain ⟨result, after, ended, met⟩ := Guarantees.ends kept
  cases result with
  | ok value => exact ⟨value, after, ended, met⟩
  | error failure => exact met.1.elim

omit [DecidableEq Settings] in
theorem run_clear (settings : Settings) (files : BackupSlot → Option Text) :
    Script.run performProxy
      (FileProxyBackupStore.clear : ProxyScript Settings Text Unit).run
        (settings, files) =
      (.ok (), (settings, Function.update files .backup none)) := by
  refine (run_bind_ok (run_call _ _)).trans ?_
  change Script.run performProxy (if (files .backup).isSome = true then
    deleteBackup else pure () : ProxyScript Settings Text Unit).run
      (settings, files) = _
  cases stored : (files .backup).isSome with
  | false =>
      have same : Function.update files .backup none = files := by
        have missing : files .backup = none := by simpa using stored
        rw [← missing]
        exact Function.update_eq_self _ _
      rw [same]
      rfl
  | true =>
      have performed : performProxy (settings, files)
          (.inr (.delete .backup)) =
            (.ok (), (settings, Function.update files .backup none)) :=
        beside_inr (FileCall.perform_delete stored)
      exact performed

omit [DecidableEq Settings] in
theorem run_write (snapshot : ProxySnapshot Settings) (settings : Settings)
    (files : BackupSlot → Option Text) :
    ∃ later : BackupSlot → Option Text, Script.run performProxy
        (FileProxyBackupStore.write codec snapshot).run (settings, files) =
          (.ok (), (settings, later)) ∧
      later .backup = some (codec.encode snapshot) := by
  have stored : Function.update (Function.update files .temporary
      (some (codec.encode snapshot))) .backup none BackupSlot.temporary =
        some (codec.encode snapshot) := by
    rw [Function.update_of_ne (by decide), Function.update_self]
  have renamed : performProxy (settings, Function.update (Function.update
      files .temporary (some (codec.encode snapshot))) .backup none)
        (.inr (.rename .temporary .backup)) = (.ok (), (settings, _)) :=
    beside_inr (FileCall.perform_rename stored)
  refine ⟨Function.update (Function.update (Function.update (Function.update
    files .temporary (some (codec.encode snapshot))) .backup none) .temporary
      none) .backup (some (codec.encode snapshot)), ?_,
    Function.update_self _ _ _⟩
  refine (run_bind_ok (run_call _ _)).trans ?_
  refine (run_bind_ok (run_call _ _)).trans ?_
  exact (run_bind_ok (run_clear _ _)).trans renamed

end Launch

section Crashes

end Crashes

end Velum.Client
