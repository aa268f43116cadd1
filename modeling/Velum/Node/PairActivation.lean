import Velum.Node.AcmeSteps

/-!
# Activation of a certificate pair

When an activation is all or nothing.  The destinations need temporary files
of their own, which a shared stem denies them; a failing step must not leave a
temporary file of its own; and the certificate must not be left in place where
the private key is taken back.
-/

namespace Velum.Node.Acme

open Foundation HostProgram

/-! ## Temporary files -/

/-- Neither destination is named like a temporary file of its own. -/
def ListenerConfig.Plain (listener : ListenerConfig) : Prop :=
  ∀ half, stagePath (listener.path half) ≠ listener.path half ∧
    backupPath (listener.path half) ≠ listener.path half

section Places

variable {Directory : Type}

/-- The entry of a directory that a path of the activation leads to. -/
def ListenerConfig.place (listener : ListenerConfig)
    (resolve : FilePath → Directory) (slot : Slot) : Directory × Text :=
  (listener.slotPath slot).entry resolve

/-- The two destinations have the same temporary files. -/
def ListenerConfig.Shared (listener : ListenerConfig)
    (resolve : FilePath → Directory) : Prop :=
  listener.place resolve (.certificate, .stage) =
    listener.place resolve (.privateKey, .stage)

def stageExtension : Text := "velum-acme-stage".toList

def backupExtension : Text := "velum-acme-backup".toList

variable {listener : ListenerConfig} {resolve : FilePath → Directory}

theorem ListenerConfig.Plain.named (plain : listener.Plain)
    (half : PairHalf) : (listener.path half).fileName.isSome :=
  FilePath.fileName_isSome_of_withExtension (plain half).1

theorem place_stage (plain : listener.Plain) (half : PairHalf) :
    listener.place resolve (half, .stage) = FilePath.changeExtension
      (listener.place resolve (half, .live)) stageExtension :=
  FilePath.entry_withExtension (plain.named half) (by decide)

theorem place_backup (plain : listener.Plain) (half : PairHalf) :
    listener.place resolve (half, .backup) = FilePath.changeExtension
      (listener.place resolve (half, .live)) backupExtension :=
  FilePath.entry_withExtension (plain.named half) (by decide)

/-- A temporary file has the temporary files of its destination. -/
theorem changeExtension_place (plain : listener.Plain) (half : PairHalf)
    {extension other : Text} (dotless : '.' ∉ extension) :
    FilePath.changeExtension (FilePath.changeExtension
        (listener.place resolve (half, .live)) extension) other =
      FilePath.changeExtension (listener.place resolve (half, .live)) other :=
  FilePath.changeExtension_changeExtension dotless
    (FilePath.entry_ne_nil (plain.named half))

theorem stage_ne_backup (plain : listener.Plain) (half other : PairHalf) :
    listener.place resolve (half, .stage) ≠
      listener.place resolve (other, .backup) := by
  rw [place_stage plain, place_backup plain]
  exact FilePath.changeExtension_ne (by decide) (by decide)
    (by decide : stageExtension ≠ backupExtension) rfl

/-- A destination that leads to a temporary file is named like its own. -/
theorem live_ne_changeExtension (plain : listener.Plain)
    (half other : PairHalf) {extension : Text} (filled : extension ≠ [])
    (dotless : '.' ∉ extension)
    (different : (listener.path half).withExtension extension ≠
      listener.path half) :
    listener.place resolve (half, .live) ≠ FilePath.changeExtension
      (listener.place resolve (other, .live)) extension := by
  intro same
  have again := congrArg
    (fun entry => FilePath.changeExtension entry extension) same
  simp only [changeExtension_place plain other dotless] at again
  rw [← same] at again
  exact different
    (FilePath.withExtension_of_entry (plain.named half) filled again)

theorem live_ne_stage (plain : listener.Plain) (half other : PairHalf) :
    listener.place resolve (half, .live) ≠
      listener.place resolve (other, .stage) := by
  rw [place_stage plain]
  exact live_ne_changeExtension plain half other (by decide) (by decide)
    (plain half).1

theorem live_ne_backup (plain : listener.Plain) (half other : PairHalf) :
    listener.place resolve (half, .live) ≠
      listener.place resolve (other, .backup) := by
  rw [place_backup plain]
  exact live_ne_changeExtension plain half other (by decide) (by decide)
    (plain half).2

theorem eq_of_stage (separate : ¬listener.Shared resolve)
    {half other : PairHalf}
    (same : listener.place resolve (half, .stage) =
      listener.place resolve (other, .stage)) : half = other := by
  cases half with
  | certificate =>
      cases other with
      | certificate => rfl
      | privateKey => exact absurd same separate
  | privateKey =>
      cases other with
      | certificate => exact absurd same.symm separate
      | privateKey => rfl

theorem place_injective (plain : listener.Plain)
    (separate : ¬listener.Shared resolve) :
    Function.Injective (listener.place resolve) := by
  rintro ⟨half, kind⟩ ⟨other, kind'⟩ same
  cases kind with
  | live =>
      cases kind' with
      | live =>
          have staged : listener.place resolve (half, .stage) =
              listener.place resolve (other, .stage) := by
            rw [place_stage plain, place_stage plain, same]
          rw [eq_of_stage separate staged]
      | stage => exact absurd same (live_ne_stage plain half other)
      | backup => exact absurd same (live_ne_backup plain half other)
  | stage =>
      cases kind' with
      | live => exact absurd same.symm (live_ne_stage plain other half)
      | stage => rw [eq_of_stage separate same]
      | backup => exact absurd same (stage_ne_backup plain half other)
  | backup =>
      cases kind' with
      | live => exact absurd same.symm (live_ne_backup plain other half)
      | stage => exact absurd same.symm (stage_ne_backup plain other half)
      | backup =>
          have staged : listener.place resolve (half, .stage) =
              listener.place resolve (other, .stage) := by
            have again := congrArg
              (fun entry => FilePath.changeExtension entry stageExtension)
              same
            simp only [place_backup plain, changeExtension_place plain _
              (by decide : '.' ∉ backupExtension)] at again
            rw [place_stage plain, place_stage plain, again]
          rw [eq_of_stage separate staged]

theorem generated_ne_stage (plain : listener.Plain) (half : PairHalf)
    (acme : AcmeConfig) (domain : Text) :
    (acme.generated domain .privateKey).entry resolve ≠
      listener.place resolve (half, .stage) := by
  rw [place_stage plain, AcmeConfig.generated, FilePath.entry_join]
  exact (FilePath.changeExtension_ne (by decide) (by decide)
    (by decide : stageExtension ≠ "key".toList) rfl).symm

end Places

/-! ## What an activation is to achieve -/

section Statement

variable {Directory Contents : Type}

/-- What Lego has produced for a half. -/
def AcmeConfig.issued (acme : AcmeConfig) (resolve : FilePath → Directory)
    (files : Directory × Text → Option Contents) (half : PairHalf) :
    Option Contents :=
  acme.domains.head?.bind fun domain =>
    files ((acme.generated domain half).entry resolve)

variable (resolve : FilePath → Directory)
  (checkPair : Contents → Contents → Except String Unit)
  (listener : ListenerConfig) (acme : AcmeConfig)
  (before : Directory × Text → Option Contents)

/-- Lego has produced a pair that a server can use. -/
def Produced : Prop :=
  ∃ chain key, acme.issued resolve before .certificate = some chain ∧
    acme.issued resolve before .privateKey = some key ∧
    checkPair chain key = .ok ()

structure AllOrNothing (result : Except String Unit)
    (final : AcmeState (Directory × Text) Contents) : Prop where
  activated : Produced resolve checkPair acme before → final.2 = [] →
    result = .ok () ∧ ∀ half, final.1 (listener.place resolve (half, .live)) =
      acme.issued resolve before half
  restored : ∀ failure, final.2 = [failure] →
    failure.step.undoes = false →
    ∀ half, final.1 (listener.place resolve (half, .live)) =
        before (listener.place resolve (half, .live)) ∧
      final.1 (listener.place resolve (half, .stage)) = none ∧
      final.1 (listener.place resolve (half, .backup)) = none
  /-- No new certificate beside an old key. -/
  paired : ¬(final.1 (listener.place resolve (.certificate, .live)) =
      acme.issued resolve before .certificate ∧
    final.1 (listener.place resolve (.certificate, .live)) ≠
      before (listener.place resolve (.certificate, .live)) ∧
    final.1 (listener.place resolve (.privateKey, .live)) =
      before (listener.place resolve (.privateKey, .live)) ∧
    final.1 (listener.place resolve (.privateKey, .live)) ≠
      acme.issued resolve before .privateKey)

/-- The condition on the destinations and on the operations that fail. -/
structure Orderly (failures : List (Failure AcmeStep Contents)) : Prop where
  plain : listener.Plain
  separate : Produced resolve checkPair acme before → failures = [] →
    ¬listener.Shared resolve
  clean : ∀ failure, failures = [failure] → failure.step.undoes = false →
    ∀ slot, ¬Soils failure slot
  restored :
    (∀ half, acme.issued resolve before half ≠
      before (listener.place resolve (half, .live))) →
    Unrestored failures .certificate → Unrestored failures .privateKey

end Statement

/-! ## The end of a run -/

section Runs

variable {Directory Contents : Type} {resolve : FilePath → Directory}
  {checkPair : Contents → Contents → Except String Unit}
  {listener : ListenerConfig} {acme : AcmeConfig}
  {before : Directory × Text → Option Contents}

variable (resolve listener acme before) in
/-- The activation was taken back after a failure. -/
structure Reverted (failure : Failure AcmeStep Contents)
    (final : AcmeState (Directory × Text) Contents) : Prop where
  recorded : ∃ undone, final.2 = failure :: undone
  kept : ∀ half, ¬Unrestored final.2 half →
    final.1 (listener.place resolve (half, .live)) =
      before (listener.place resolve (half, .live))
  unrestored : ∀ half, Unrestored final.2 half →
    final.1 (listener.place resolve (half, .live)) =
      acme.issued resolve before half
  cleared : final.2 = [failure] →
    ((∀ half, final.1 (listener.place resolve (half, .stage)) = none ∧
        final.1 (listener.place resolve (half, .backup)) = none) ↔
      ∀ slot, ¬Soils failure slot)

variable (resolve checkPair listener acme before) in
/-- The activation was refused: no step has failed, or only clearing up has. -/
structure Refused (final : AcmeState (Directory × Text) Contents) :
    Prop where
  live : ∀ half, final.1 (listener.place resolve (half, .live)) =
    before (listener.place resolve (half, .live))
  undone : ∀ failure ∈ final.2, failure.step.undoes = true ∧
    ∀ half, failure.step ≠ .restore half
  reason : Produced resolve checkPair acme before → listener.Shared resolve

variable (resolve checkPair listener acme before) in
inductive Settled :
    Except String Unit → AcmeState (Directory × Text) Contents → Prop where
  | activated {final : AcmeState (Directory × Text) Contents} :
      ¬listener.Shared resolve →
      Activated (listener.place resolve) (acme.issued resolve before) final →
      Settled (.ok ()) final
  | reverted {message : String} {failure : Failure AcmeStep Contents}
      {final : AcmeState (Directory × Text) Contents} :
      Reverted resolve listener acme before failure final →
      Settled (.error message) final
  | refused {message : String}
      {final : AcmeState (Directory × Text) Contents} :
      Refused resolve checkPair listener acme before final →
      Settled (.error message) final

theorem Unwound.reverted {failure : Failure AcmeStep Contents}
    {final : AcmeState (Directory × Text) Contents}
    (unwound : Unwound (listener.place resolve) before
      (acme.issued resolve before) failure [] final.1 final.2) :
    Reverted resolve listener acme before failure final where
  recorded := by
    obtain ⟨undone, log, _⟩ := unwound.recorded
    exact ⟨undone, log⟩
  kept half := unwound.restored half List.not_mem_nil
  unrestored := unwound.unrestored
  cleared single := by
    have cleared : ∀ half kind, kind ≠ .live →
        (final.1 (listener.place resolve (half, kind)) = none ↔
          ¬Soils failure (half, kind)) := by
      intro half kind temporary
      rw [← unwound.cleared single half kind temporary List.not_mem_nil]
      simp
    constructor
    · rintro absent ⟨half, kind⟩
      cases kind with
      | live => exact not_soils_live
      | stage => exact (cleared half .stage (by simp)).mp (absent half).1
      | backup => exact (cleared half .backup (by simp)).mp (absent half).2
    · intro clean half
      exact ⟨(cleared half .stage (by simp)).mpr (clean _),
        (cleared half .backup (by simp)).mpr (clean _)⟩

theorem not_unrestored_of_undone {failures : List (Failure AcmeStep Contents)}
    (undone : ∀ failure ∈ failures, failure.step.undoes = true ∧
      ∀ half, failure.step ≠ .restore half) (half : PairHalf) :
    ¬Unrestored failures half := by
  rintro ⟨failure, member, restoring⟩
  exact (undone failure member).2 half restoring

theorem not_forward_of_undone {failures : List (Failure AcmeStep Contents)}
    (undone : ∀ failure ∈ failures, failure.step.undoes = true ∧
      ∀ half, failure.step ≠ .restore half)
    {failure : Failure AcmeStep Contents} (single : failures = [failure]) :
    failure.step.undoes ≠ false := by
  have undoes := (undone failure (by simp [single])).1
  simp [undoes]

theorem Activated.allOrNothing_iff
    {final : AcmeState (Directory × Text) Contents}
    (done : Activated (listener.place resolve) (acme.issued resolve before)
      final)
    (plain : listener.Plain) (separate : ¬listener.Shared resolve) :
    AllOrNothing resolve checkPair listener acme before (.ok ()) final ↔
      Orderly resolve checkPair listener acme before final.2 := by
  constructor
  · intro _
    refine ⟨plain, fun _ _ => separate, ?_, ?_⟩
    · intro failure single forward
      exact absurd forward (not_forward_of_undone done.undone single)
    · intro _ unrestored
      exact absurd unrestored (not_unrestored_of_undone done.undone _)
  · intro _
    refine ⟨fun _ _ => ⟨rfl, done.live⟩, ?_, ?_⟩
    · intro failure single forward
      exact absurd forward (not_forward_of_undone done.undone single)
    · rintro ⟨_, _, _, stale⟩
      exact stale (done.live .privateKey)

theorem Refused.allOrNothing_iff {final : AcmeState (Directory × Text) Contents}
    (refused : Refused resolve checkPair listener acme before final)
    (plain : listener.Plain) (message : String) :
    AllOrNothing resolve checkPair listener acme before (.error message) final ↔
      Orderly resolve checkPair listener acme before final.2 := by
  constructor
  · intro whole
    refine ⟨plain, ?_, ?_, ?_⟩
    · intro produced none
      cases (whole.activated produced none).1
    · intro failure single forward
      exact absurd forward (not_forward_of_undone refused.undone single)
    · intro _ unrestored
      exact absurd unrestored (not_unrestored_of_undone refused.undone _)
  · intro orderly
    refine ⟨?_, ?_, ?_⟩
    · intro produced none
      exact absurd (refused.reason produced)
        (orderly.separate produced none)
    · intro failure single forward
      exact absurd forward (not_forward_of_undone refused.undone single)
    · rintro ⟨_, changed, _⟩
      exact changed (refused.live .certificate)

theorem Reverted.allOrNothing_iff {failure : Failure AcmeStep Contents}
    {final : AcmeState (Directory × Text) Contents}
    (reverted : Reverted resolve listener acme before failure final)
    (plain : listener.Plain) (message : String) :
    AllOrNothing resolve checkPair listener acme before (.error message) final ↔
      Orderly resolve checkPair listener acme before final.2 := by
  obtain ⟨undone, log⟩ := reverted.recorded
  constructor
  · intro whole
    refine ⟨plain, ?_, ?_, ?_⟩
    · intro _ none
      simp [log] at none
    · intro other single forward
      have same : failure = other := (List.cons.inj (log ▸ single)).1
      rw [← same] at single ⊢
      apply (reverted.cleared single).mp
      exact fun half => (whole.restored failure single (same ▸ forward) half).2
    · intro changed unrestored
      by_contra kept
      have certificate := reverted.unrestored .certificate unrestored
      have privateKey := reverted.kept .privateKey kept
      refine whole.paired ⟨certificate, ?_, privateKey, ?_⟩
      · intro same
        exact changed .certificate (certificate.symm.trans same)
      · intro same
        exact changed .privateKey (same.symm.trans privateKey)
  · intro orderly
    refine ⟨?_, ?_, ?_⟩
    · intro _ none
      simp [log] at none
    · intro other single forward half
      have same : failure = other := (List.cons.inj (log ▸ single)).1
      rw [← same] at single forward
      have kept : ¬Unrestored final.2 half := by
        rintro ⟨entry, member, restoring⟩
        rw [single, List.mem_singleton] at member
        rw [← member, restoring] at forward
        cases forward
      exact ⟨reverted.kept half kept, (reverted.cleared single).mpr
        (orderly.clean failure single forward) half⟩
    · rintro ⟨certificate, changed, privateKey, stale⟩
      have unrestored : Unrestored final.2 .certificate := by
        by_contra kept
        exact changed (reverted.kept .certificate kept)
      have different : ∀ half,
          acme.issued resolve before half ≠
            before (listener.place resolve (half, .live)) := by
        intro half same
        cases half with
        | certificate => exact changed (certificate.trans same)
        | privateKey => exact stale (privateKey.trans same.symm)
      exact stale (reverted.unrestored .privateKey
        (orderly.restored different unrestored))

theorem Settled.allOrNothing_iff {result : Except String Unit}
    {final : AcmeState (Directory × Text) Contents}
    (settled : Settled resolve checkPair listener acme before result final)
    (plain : listener.Plain) :
    AllOrNothing resolve checkPair listener acme before result final ↔
      Orderly resolve checkPair listener acme before final.2 := by
  cases settled with
  | activated separate done => exact done.allOrNothing_iff plain separate
  | reverted reverted => exact reverted.allOrNothing_iff plain _
  | refused refused => exact refused.allOrNothing_iff plain _

/-! ## Runs with shared temporary files -/

section Sharing

variable [DecidableEq Directory]

variable (resolve listener before) in
/-- The files with something at the one staging path. -/
def sharing (left : Option Contents) : Directory × Text → Option Contents :=
  Function.update before (listener.place resolve (.certificate, .stage)) left

theorem sharing_live (plain : listener.Plain) (left : Option Contents)
    (half : PairHalf) :
    sharing resolve listener before left
        (listener.place resolve (half, .live)) =
      before (listener.place resolve (half, .live)) :=
  Function.update_of_ne (live_ne_stage plain half .certificate) _ _

theorem sharing_stage (shared : listener.Shared resolve)
    (left : Option Contents) (half : PairHalf) :
    sharing resolve listener before left
      (listener.place resolve (half, .stage)) = left := by
  have path : listener.place resolve (half, .stage) =
      listener.place resolve (.certificate, .stage) := by
    cases half with
    | certificate => rfl
    | privateKey => exact shared.symm
  rw [sharing, path, Function.update_self]

theorem sharing_backup (plain : listener.Plain) (left : Option Contents)
    (half : PairHalf) :
    sharing resolve listener before left
        (listener.place resolve (half, .backup)) =
      before (listener.place resolve (half, .backup)) :=
  Function.update_of_ne (stage_ne_backup plain .certificate half).symm _ _

theorem settled_of_failure (plain : listener.Plain)
    (shared : listener.Shared resolve)
    (free : ∀ half, before (listener.place resolve (half, .backup)) = none)
    {left : Option Contents} {failure : Failure AcmeStep Contents}
    {undone : List (Failure AcmeStep Contents)} (message : String)
    (forward : failure.step.undoes = false)
    (others : ∀ entry ∈ undone, ∀ half, entry.step ≠ .restore half)
    (cleared : undone = [] → (left = none ↔ ∀ slot, ¬Soils failure slot)) :
    Settled resolve checkPair listener acme before (.error message)
      (sharing resolve listener before left, failure :: undone) := by
  have restored : ∀ half, ¬Unrestored (failure :: undone) half := by
    rintro half ⟨entry, member, restoring⟩
    rcases List.mem_cons.mp member with rfl | later
    · rw [restoring] at forward
      cases forward
    · exact others entry later half restoring
  refine .reverted ⟨⟨undone, rfl⟩, fun half _ => sharing_live plain left half,
    ?_, ?_⟩
  · intro half unrestored
    exact absurd unrestored (restored half)
  · intro single
    rw [← cleared (List.cons.inj single).2]
    constructor
    · intro absent
      exact (sharing_stage shared left .certificate).symm.trans
        (absent .certificate).1
    · rintro rfl half
      exact ⟨sharing_stage shared none half,
        (sharing_backup plain none half).trans (free half)⟩

theorem settled_of_sharing (plain : listener.Plain)
    (shared : listener.Shared resolve) {left : Option Contents}
    {undone : List (Failure AcmeStep Contents)} (message : String)
    (others : ∀ entry ∈ undone, entry.step.undoes = true ∧
      ∀ half, entry.step ≠ .restore half) :
    Settled resolve checkPair listener acme before (.error message)
      (sharing resolve listener before left, undone) :=
  .refused ⟨sharing_live plain left, others, fun _ => shared⟩

/-- The second staging finds the first one's file. -/
theorem ensures_install_shared (plain : listener.Plain)
    (shared : listener.Shared resolve)
    (free : ∀ half, before (listener.place resolve (half, .stage)) = none ∧
      before (listener.place resolve (half, .backup)) = none)
    {certificate privateKey : FilePath} {chain : Contents}
    (held : before (certificate.entry resolve) = some chain)
    (reloadRequired : Bool) :
    Ensures (onto (FilePath.entry resolve)
        (install listener certificate privateKey reloadRequired))
      (before, []) (fun _ _ => False)
      (fun message =>
        Settled resolve checkPair listener acme before (.error message)) := by
  have first : listener.certificate.parent.isSome :=
    FilePath.parent_isSome_of_fileName (plain.named .certificate)
  have second : listener.privateKey.parent.isSome :=
    FilePath.parent_isSome_of_fileName (plain.named .privateKey)
  have leads : (stagePath listener.certificate).entry resolve =
      listener.place resolve (.certificate, .stage) := rfl
  have backups : ∀ half,
      before (listener.place resolve (half, .backup)) = none :=
    fun half => (free half).2
  have staged : Function.update before
      (listener.place resolve (.certificate, .stage)) (some chain)
      ((stagePath listener.privateKey).entry resolve) = some chain :=
    sharing_stage shared (some chain) .privateKey
  have removed : Function.update
      (Function.update before (listener.place resolve (.certificate, .stage))
        (some chain))
      (listener.place resolve (.certificate, .stage)) none =
        sharing resolve listener before none :=
    Function.update_idem _ _ _
  simp only [install, onto_bind, onto_tryCatch, onto_throw, ensures_bind,
    ensures_tryCatch, ensures_throw]
  refine ensures_stagePrivateFile leads first (free .certificate).1 held
    ?_ ?_
  · refine ensures_stagePrivateFile_taken second (by rw [staged]; rfl)
      ?_ ?_
    · intro message
      simp only [cleanupPath, onto_discard, leads]
      apply ensures_discard
      · rw [removed]
        exact settled_of_sharing plain shared _ (by simp)
      · exact settled_of_sharing plain shared _ (by simp [AcmeStep.undoes])
    · intro message
      simp only [cleanupPath, onto_discard, leads]
      apply ensures_discard
      · rw [removed]
        exact settled_of_failure plain shared backups _ rfl (by simp)
          (by simp [Soils])
      · exact settled_of_failure plain shared backups _ rfl (by simp)
          (by simp)
  · intro message left failure faltering
    refine settled_of_failure plain shared backups _ faltering.forward
      (by simp) ?_
    simp only [faltering.soils, forall_const]
    cases left with
    | none => simp
    | some contents => simp

end Sharing

/-! ## Runs -/

theorem settled_of_unproduced
    (missing : ¬Produced resolve checkPair acme before) (message : String) :
    Settled resolve checkPair listener acme before (.error message)
      (before, []) := by
  refine .refused ⟨fun _ => rfl, by simp, ?_⟩
  intro produced
  exact absurd produced missing

theorem settled_of_unread
    (empty : ∀ half kind, kind ≠ .live →
      before (listener.place resolve (half, kind)) = none)
    (half : PairHalf) (message : String) :
    Settled resolve checkPair listener acme before (.error message)
      (before, [⟨.readGenerated half, none⟩]) := by
  have clean : ∀ slot, ¬Soils
      (⟨.readGenerated half, none⟩ : Failure AcmeStep Contents) slot := by
    simp [Soils]
  have initial : Progress (listener.place resolve) before
      (acme.issued resolve before) [] [] [] before := Progress.initial empty
  have unwound := initial.unwound (faltered_unchanged rfl clean) [] (by simp)
    (by simp) (by simp) (by simp) (by simp) (fun half _ => clean _)
  exact .reverted (Unwound.reverted unwound)

theorem ensures_activate [DecidableEq Directory]
    (distinct : listener.certificate ≠ listener.privateKey)
    (plain : listener.Plain)
    (free : ∀ half, before (listener.place resolve (half, .stage)) = none ∧
      before (listener.place resolve (half, .backup)) = none)
    (reloadRequired : Bool) :
    Ensures (onto (FilePath.entry resolve)
        (activate checkPair listener acme reloadRequired))
      (before, [])
      (fun _ => Settled resolve checkPair listener acme before (.ok ()))
      (fun message =>
        Settled resolve checkPair listener acme before (.error message)) := by
  have empty : ∀ half kind, kind ≠ .live →
      before (listener.place resolve (half, kind)) = none := by
    intro half kind temporary
    cases kind with
    | live => exact absurd rfl temporary
    | stage => exact (free half).1
    | backup => exact (free half).2
  rw [activate, if_neg distinct]
  split
  next absent =>
      apply settled_of_unproduced
      rintro ⟨chain, key, chainIssued, _⟩
      simp [AcmeConfig.issued, absent] at chainIssued
  next domain first =>
      have issued : ∀ half, acme.issued resolve before half =
          before ((acme.generated domain half).entry resolve) := by
        intro half
        rw [AcmeConfig.issued, first, Option.bind_some]
      simp only [onto_bind, onto_read, ensures_bind]
      refine ensures_read ?_ (settled_of_unread empty .certificate)
      intro chain chainHeld
      refine ensures_read ?_ (settled_of_unread empty .privateKey)
      intro key keyHeld
      have chainIssued := (issued .certificate).trans chainHeld
      have keyIssued := (issued .privateKey).trans keyHeld
      cases checked : checkPair chain key with
      | error error =>
          apply settled_of_unproduced
          rintro ⟨other, another, otherIssued, anotherIssued, produced⟩
          cases chainIssued.symm.trans otherIssued
          cases keyIssued.symm.trans anotherIssued
          cases checked.symm.trans produced
      | ok _ =>
          by_cases shared : listener.Shared resolve
          · exact (ensures_install_shared plain shared free chainHeld
              reloadRequired).mono (fun impossible => impossible.elim) id
          · have separate := place_injective plain shared
            have directory : ∀ half, (listener.path half).parent.isSome :=
              fun half => FilePath.parent_isSome_of_fileName (plain.named half)
            refine (ensures_install (fun _ => rfl) separate directory empty
              chainIssued keyIssued (issued .certificate).symm
              (issued .privateKey).symm
              (generated_ne_stage plain .certificate acme domain)
              reloadRequired).mono ?_ ?_
            · intro _ final done
              exact .activated shared done
            · rintro message final ⟨failure, unwound⟩
              exact .reverted (Unwound.reverted unwound)

end Runs

/-- A run is all or nothing where the failing operations are those that the
activation can take back; for plain destinations, in no other run. -/
theorem activation_all_or_nothing {Directory Contents : Type}
    [DecidableEq Directory] (resolve : FilePath → Directory)
    (checkPair : Contents → Contents → Except String Unit)
    (listener : ListenerConfig) (acme : AcmeConfig) (reloadRequired : Bool)
    (before : Directory × Text → Option Contents)
    (distinct : listener.certificate ≠ listener.privateKey)
    (free : ∀ half, before (listener.place resolve (half, .stage)) = none ∧
      before (listener.place resolve (half, .backup)) = none)
    (result : Except String Unit)
    (final : AcmeState (Directory × Text) Contents)
    (ended : Script.Ends (HostAnswers AcmeStep (Directory × Text) Contents)
      (before, []) (onto (FilePath.entry resolve)
        (activate checkPair listener acme reloadRequired)) result final) :
    (Orderly resolve checkPair listener acme before final.2 →
      AllOrNothing resolve checkPair listener acme before result final) ∧
    (listener.Plain →
      AllOrNothing resolve checkPair listener acme before result final →
      Orderly resolve checkPair listener acme before final.2) := by
  have settled : listener.Plain →
      Settled resolve checkPair listener acme before result final := by
    intro plain
    have ensured : Ensures (onto (FilePath.entry resolve)
          (activate checkPair listener acme reloadRequired))
        (before, [])
        (fun _ => Settled resolve checkPair listener acme before (.ok ()))
        (fun message =>
          Settled resolve checkPair listener acme before (.error message)) :=
      ensures_activate distinct plain free reloadRequired
    have ends := ensured.of_ends ended
    cases result with
    | ok value => exact ends.1 value rfl
    | error message => exact ends.2 message rfl
  constructor
  · intro orderly
    exact ((settled orderly.plain).allOrNothing_iff orderly.plain).mpr orderly
  · intro plain
    exact ((settled plain).allOrNothing_iff plain).mp

/-! ## Two configurations -/

def sampleAcme : AcmeConfig where
  domains := ["relay.example.com".toList]
  stateDir := ⟨[[], "var".toList, "acme".toList]⟩

def sampleListener (certificate privateKey : String) : ListenerConfig where
  certificate := ⟨[[], "etc".toList, certificate.toList]⟩
  privateKey := ⟨[[], "etc".toList, privateKey.toList]⟩

/-- The directory of a path on a host without links. -/
def withoutLinks (path : FilePath) : FilePath where
  components := path.components.foldl (fun kept name =>
    if name = ['.', '.'] then kept.dropLast else kept ++ [name]) []

/-- Lego has renewed the pair of a relay that has one. -/
def sampleFiles (listener : ListenerConfig) (entry : FilePath × Text) :
    Option String :=
  if entry = (sampleAcme.generated "relay.example.com".toList
      .certificate).entry withoutLinks then
    some "new certificate"
  else if entry = (sampleAcme.generated "relay.example.com".toList
      .privateKey).entry withoutLinks then
    some "new key"
  else if entry = listener.certificate.entry withoutLinks then
    some "old certificate"
  else if entry = listener.privateKey.entry withoutLinks then
    some "old key"
  else none

def samplePair (_ _ : String) : Except String Unit := .ok ()

def sampleActivation (listener : ListenerConfig) :
    Except String Unit × AcmeState (FilePath × Text) String :=
  runStopping (fun _ => none)
    (onto (FilePath.entry withoutLinks)
      (activate samplePair listener sampleAcme false)) (sampleFiles listener)

theorem ends_sampleActivation (listener : ListenerConfig) :
    Script.Ends (HostAnswers AcmeStep (FilePath × Text) String)
      (sampleFiles listener, [])
      (onto (FilePath.entry withoutLinks)
        (activate samplePair listener sampleAcme false))
      (sampleActivation listener).1 (sampleActivation listener).2 :=
  ends_runStopping _ _ _

theorem activation_all_or_nothing_of_stems :
    AllOrNothing withoutLinks samplePair (sampleListener "cert.pem" "key.pem")
      sampleAcme (sampleFiles (sampleListener "cert.pem" "key.pem"))
      (sampleActivation (sampleListener "cert.pem" "key.pem")).1
      (sampleActivation (sampleListener "cert.pem" "key.pem")).2 := by
  have silent : (sampleActivation (sampleListener "cert.pem" "key.pem")).2.2 =
      [] := by decide +kernel
  have distinct : (sampleListener "cert.pem" "key.pem").certificate ≠
      (sampleListener "cert.pem" "key.pem").privateKey := by decide
  have free : ∀ half, sampleFiles (sampleListener "cert.pem" "key.pem")
        ((sampleListener "cert.pem" "key.pem").place withoutLinks
          (half, .stage)) = none ∧
      sampleFiles (sampleListener "cert.pem" "key.pem")
        ((sampleListener "cert.pem" "key.pem").place withoutLinks
          (half, .backup)) = none := by
    intro half
    cases half with
    | certificate => exact ⟨rfl, rfl⟩
    | privateKey => exact ⟨rfl, rfl⟩
  have ended := ends_sampleActivation (sampleListener "cert.pem" "key.pem")
  apply (activation_all_or_nothing withoutLinks samplePair _ sampleAcme false
    _ distinct free _ _ ended).1
  refine ⟨?_, ?_, ?_, ?_⟩
  · intro half
    cases half with
    | certificate => decide
    | privateKey => decide
  · intro _ _
    unfold ListenerConfig.Shared
    decide
  · intro failure single
    cases silent.symm.trans single
  · rintro _ ⟨failure, member, _⟩
    rw [silent] at member
    cases member

/-- Where nothing fails, a pair in one directory and under one stem is not
activated: the staging of the key finds the certificate's. -/
theorem shared_stem_not_activated :
    ∃ (listener : ListenerConfig) (result : Except String Unit)
      (final : AcmeState (FilePath × Text) String),
      listener.certificate ≠ listener.privateKey ∧
      (∀ half,
        sampleFiles listener
          (listener.place withoutLinks (half, .stage)) = none ∧
        sampleFiles listener
          (listener.place withoutLinks (half, .backup)) = none) ∧
      Script.Ends (HostAnswers AcmeStep (FilePath × Text) String)
        (sampleFiles listener, [])
        (onto (FilePath.entry withoutLinks)
          (activate samplePair listener sampleAcme false)) result final ∧
      final.2 = [] ∧ result ≠ .ok () ∧
      ¬AllOrNothing withoutLinks samplePair listener sampleAcme
        (sampleFiles listener) result final := by
  have silent : (sampleActivation (sampleListener "tls.crt" "tls.key")).2.2 =
      [] := by decide +kernel
  have failed : (sampleActivation (sampleListener "tls.crt" "tls.key")).1 ≠
      .ok () := by
    intro done
    have stopped : (sampleActivation
        (sampleListener "tls.crt" "tls.key")).1.isOk = false := by
      decide +kernel
    rw [done] at stopped
    cases stopped
  have distinct : (sampleListener "tls.crt" "tls.key").certificate ≠
      (sampleListener "tls.crt" "tls.key").privateKey := by decide
  have ended := ends_sampleActivation (sampleListener "tls.crt" "tls.key")
  refine ⟨_, _, _, distinct, ?_, ended, silent, failed, ?_⟩
  · intro half
    cases half with
    | certificate => exact ⟨rfl, rfl⟩
    | privateKey => exact ⟨rfl, rfl⟩
  · intro whole
    exact failed (whole.activated ⟨_, _, rfl, rfl, rfl⟩ silent).1

end Velum.Node.Acme
