import Velum.Node.AcmeActivation

/-!
# Unwinding of an activation

Where a step of an activation fails, what was done before is taken back.
`Progress` describes the files while nothing has failed, `Unwound` describes
them afterwards: what is still to be taken back is a list, and each step of
the unwinding removes its first entry.
-/

namespace Velum.Node.Acme

open Foundation HostProgram

inductive FileKind where
  | live
  | stage
  | backup
  deriving DecidableEq, Repr

/-- The six files that an activation touches. -/
abbrev Slot := PairHalf × FileKind

def ListenerConfig.slotPath (listener : ListenerConfig) : Slot → FilePath
  | (half, .live) => listener.path half
  | (half, .stage) => stagePath (listener.path half)
  | (half, .backup) => backupPath (listener.path half)

abbrev AcmeState (File Contents : Type) := HostState AcmeStep File Contents

variable {File Contents : Type}

/-- The temporary file that a failing step leaves behind and that nothing
removes. -/
def Soils (failure : Failure AcmeStep Contents) (slot : Slot) : Prop :=
  match failure.step with
  | .copyStage half => slot = (half, .stage) ∧ failure.left.isSome
  | .restrictStage half => slot = (half, .stage)
  | .copyBackup half => slot = (half, .backup) ∧ failure.left.isSome
  | .restrictBackup half => slot = (half, .backup)
  | _ => False

/-- The file of this half could not be restored. -/
def Unrestored (failures : List (Failure AcmeStep Contents))
    (half : PairHalf) : Prop :=
  ∃ failure ∈ failures, failure.step = .restore half

theorem unrestored_append {failures : List (Failure AcmeStep Contents)}
    {failure : Failure AcmeStep Contents} {half : PairHalf} :
    Unrestored (failures ++ [failure]) half ↔
      Unrestored failures half ∨ failure.step = .restore half := by
  simp [Unrestored, or_and_right, exists_or]

section Files

variable (place : Slot → File) (before : File → Option Contents)
  (issued : PairHalf → Option Contents)

/-- The files while nothing has failed. -/
structure Progress (staged backed replaced : List PairHalf)
    (files : File → Option Contents) : Prop where
  live : ∀ half, files (place (half, .live)) =
    if half ∈ replaced then issued half
    else before (place (half, .live))
  stage : ∀ half, files (place (half, .stage)) =
    if half ∈ staged then issued half else none
  backup : ∀ half, files (place (half, .backup)) =
    if half ∈ backed then before (place (half, .live)) else none

/-- What a failing step does to the files. -/
structure Faltered (files after : File → Option Contents)
    (failure : Failure AcmeStep Contents) : Prop where
  forward : failure.step.undoes = false
  elsewhere : ∀ slot, ¬Soils failure slot →
    after (place slot) = files (place slot)
  soiled : ∀ slot, Soils failure slot →
    (after (place slot)).isSome

/-- The files after a failure, where the slots in `pending` are still to be
taken back. -/
structure Unwound (failure : Failure AcmeStep Contents) (pending : List Slot)
    (files : File → Option Contents)
    (failures : List (Failure AcmeStep Contents)) : Prop where
  forward : failure.step.undoes = false
  recorded : ∃ undone, failures = failure :: undone ∧
    ∀ later ∈ undone, later.step.undoes = true
  restored : ∀ half, (half, .live) ∉ pending →
    ¬Unrestored failures half →
    files (place (half, .live)) =
      before (place (half, .live))
  unrestored : ∀ half, Unrestored failures half →
    files (place (half, .live)) = issued half
  replaced : ∀ half, (half, .live) ∈ pending →
    ¬Unrestored failures half ∧
    files (place (half, .live)) = issued half ∧
    files (place (half, .backup)) =
      before (place (half, .live))
  cleared : failures = [failure] → ∀ half kind, kind ≠ .live →
    (half, kind) ∉ pending →
    ((files (place (half, kind))).isSome ↔
      Soils failure (half, kind))
  unsoiled : ∀ slot ∈ pending, ¬Soils failure slot
  unbacked : ∀ half, before (place (half, .live)) = none →
    files (place (half, .backup)) = none

/-- A failure has happened, and the slots in `pending` are still to be taken
back. -/
def Unwinding (pending : List Slot) (state : AcmeState File Contents) : Prop :=
  ∃ failure,
    Unwound place before issued failure pending state.1 state.2

end Files

variable {place : Slot → File} {before : File → Option Contents}
  {issued : PairHalf → Option Contents}
  {failure : Failure AcmeStep Contents}
  {files after : File → Option Contents}

theorem not_soils_live {half : PairHalf} : ¬Soils failure (half, .live) := by
  rw [Soils]
  split
  · simp
  · simp
  · simp
  · simp
  · exact not_false

/-! ## Before a failure -/

namespace Progress

variable {staged backed replaced : List PairHalf}

theorem unstaged
    (progress : Progress place before issued staged backed replaced files)
    {half : PairHalf} (outside : half ∉ staged) :
    files (place (half, .stage)) = none := by
  rw [progress.stage, if_neg outside]

theorem unbacked
    (progress : Progress place before issued staged backed replaced files)
    {half : PairHalf} (outside : half ∉ backed) :
    files (place (half, .backup)) = none := by
  rw [progress.backup, if_neg outside]

theorem unreplaced
    (progress : Progress place before issued staged backed replaced files)
    {half : PairHalf} (outside : half ∉ replaced) :
    files (place (half, .live)) =
      before (place (half, .live)) := by
  rw [progress.live, if_neg outside]

theorem held
    (progress : Progress place before issued staged backed replaced files)
    {half : PairHalf} (inside : half ∈ staged) :
    files (place (half, .stage)) = issued half := by
  rw [progress.stage, if_pos inside]

theorem initial
    (free : ∀ half kind, kind ≠ .live →
      before (place (half, kind)) = none) :
    Progress place before issued [] [] [] before where
  live half := by simp
  stage half := by simp [free half .stage]
  backup half := by simp [free half .backup]

theorem staging [DecidableEq File] (separate : Function.Injective place)
    (progress : Progress place before issued staged backed replaced files)
    (half : PairHalf) :
    Progress place before issued (half :: staged) backed replaced
      (Function.update files (place (half, .stage))
        (issued half)) where
  live other := by
    simpa [Function.update_apply, separate.eq_iff] using progress.live other
  stage other := by
    by_cases same : other = half
    · simp [same]
    · simpa [Function.update_apply, separate.eq_iff, same] using
        progress.stage other
  backup other := by
    simpa [Function.update_apply, separate.eq_iff] using progress.backup other

theorem backing [DecidableEq File] (separate : Function.Injective place)
    (progress : Progress place before issued staged backed replaced files)
    (half : PairHalf) :
    Progress place before issued staged (half :: backed) replaced
      (Function.update files (place (half, .backup))
        (before (place (half, .live)))) where
  live other := by
    simpa [Function.update_apply, separate.eq_iff] using progress.live other
  stage other := by
    simpa [Function.update_apply, separate.eq_iff] using progress.stage other
  backup other := by
    by_cases same : other = half
    · simp [same]
    · simpa [Function.update_apply, separate.eq_iff, same] using
        progress.backup other

theorem replacing [DecidableEq File] (separate : Function.Injective place)
    (progress : Progress place before issued staged backed replaced files)
    (half : PairHalf) (rest : List PairHalf)
    (unstaged : ∀ other, other ∈ rest ↔ other ∈ staged ∧ other ≠ half) :
    Progress place before issued rest backed (half :: replaced)
      (Function.update
        (Function.update files (place (half, .stage)) none)
        (place (half, .live)) (issued half)) where
  live other := by
    by_cases same : other = half
    · simp [same]
    · simpa [Function.update_apply, separate.eq_iff, same] using
        progress.live other
  stage other := by
    by_cases same : other = half
    · simp [separate.eq_iff, same, unstaged]
    · simpa [Function.update_apply, separate.eq_iff, same, unstaged] using
        progress.stage other
  backup other := by
    simpa [Function.update_apply, separate.eq_iff] using progress.backup other

/-- A failure starts the unwinding of what was done. -/
theorem unwound
    (progress : Progress place before issued staged backed replaced files)
    (faltered : Faltered place files after failure) (pending : List Slot)
    (lives : ∀ half, (half, .live) ∈ pending ↔ half ∈ replaced)
    (stages : ∀ half ∈ staged, (half, .stage) ∈ pending)
    (backups : ∀ half ∈ backed, (half, .backup) ∈ pending)
    (kept : ∀ half ∈ replaced, half ∈ backed)
    (unsoiled : ∀ slot ∈ pending, ¬Soils failure slot)
    (unbacked : ∀ half, before (place (half, .live)) = none →
      ¬Soils failure (half, .backup)) :
    Unwound place before issued failure pending after [failure] := by
  have forward : ∀ half, ¬Unrestored [failure] half := by
    rintro half ⟨other, member, restoring⟩
    cases List.mem_singleton.mp member
    have undoes := faltered.forward
    rw [restoring] at undoes
    cases undoes
  have live : ∀ half, after (place (half, .live)) =
      if half ∈ replaced then issued half
      else before (place (half, .live)) := by
    intro half
    rw [faltered.elsewhere _ not_soils_live, progress.live]
  refine ⟨faltered.forward, ⟨[], rfl, by simp⟩, ?_, ?_, ?_, ?_, unsoiled, ?_⟩
  · intro half outside _
    rw [lives] at outside
    simpa [outside] using live half
  · intro half unrestored
    exact absurd unrestored (forward half)
  · intro half inside
    rw [lives] at inside
    have held := kept half inside
    have backup : after (place (half, .backup)) =
        before (place (half, .live)) := by
      rw [faltered.elsewhere _ (unsoiled _ (backups half held)),
        progress.backup, if_pos held]
    exact ⟨forward half, by simpa [inside] using live half, backup⟩
  · intro _ half kind temporary outside
    constructor
    · intro present
      by_contra clean
      rw [faltered.elsewhere _ clean] at present
      cases kind with
      | live => exact temporary rfl
      | stage =>
          rw [progress.stage] at present
          split at present
          next held => exact outside (stages half held)
          next => cases present
      | backup =>
          rw [progress.backup] at present
          split at present
          next held => exact outside (backups half held)
          next => cases present
    · exact faltered.soiled _
  · intro half absent
    have unchanged := faltered.elsewhere _ (unbacked half absent)
    rw [progress.backup, absent, ite_self] at unchanged
    exact unchanged

end Progress

/-! ## After a failure -/

namespace Unwound

variable {pending : List Slot}
  {failures : List (Failure AcmeStep Contents)}

/-- A step of the unwinding that fails leaves its slots as they are. -/
theorem failing (slots : List Slot) {step : AcmeStep}
    (unwound : Unwound place before issued failure (slots ++ pending)
      files failures)
    (undoes : step.undoes = true)
    (restores : ∀ half, step = .restore half ↔ (half, .live) ∈ slots)
    (others : ∀ half, (half, .live) ∈ slots → (half, .live) ∉ pending) :
    Unwound place before issued failure pending files
      (failures ++ [⟨step, none⟩]) := by
  obtain ⟨undone, log, later⟩ := unwound.recorded
  refine ⟨unwound.forward, ⟨undone ++ [⟨step, none⟩], by simp [log], ?_⟩,
    ?_, ?_, ?_, ?_, ?_, unwound.unbacked⟩
  · intro entry member
    rcases List.mem_append.mp member with earlier | last
    · exact later entry earlier
    · cases List.mem_singleton.mp last
      exact undoes
  · intro half outside restored
    rw [unrestored_append, not_or] at restored
    refine unwound.restored half ?_ restored.1
    rw [List.mem_append, not_or, ← restores]
    exact ⟨restored.2, outside⟩
  · intro half unrestored
    rcases unrestored_append.mp unrestored with earlier | last
    · exact unwound.unrestored half earlier
    · have inside := (restores half).mp last
      exact (unwound.replaced half (List.mem_append_left _ inside)).2.1
  · intro half inside
    obtain ⟨restored, live, backup⟩ :=
      unwound.replaced half (List.mem_append_right _ inside)
    refine ⟨?_, live, backup⟩
    rw [unrestored_append, not_or, restores]
    exact ⟨restored, fun held => others half held inside⟩
  · intro single
    simp [log] at single
  · intro slot inside
    exact unwound.unsoiled slot (List.mem_append_right _ inside)

theorem removing [DecidableEq File] (separate : Function.Injective place)
    {slot : Slot}
    (unwound : Unwound place before issued failure (slot :: pending)
      files failures)
    (temporary : slot.2 ≠ .live)
    (settled : ∀ half, (half, .live) ∉ pending) :
    Unwound place before issued failure pending
      (Function.update files (place slot) none) failures := by
  have kept : ∀ half, Function.update files (place slot) none
      (place (half, .live)) =
        files (place (half, .live)) := by
    intro half
    apply Function.update_of_ne
    intro same
    exact temporary (congrArg Prod.snd (separate same)).symm
  refine ⟨unwound.forward, unwound.recorded, ?_, ?_, ?_, ?_, ?_, ?_⟩
  · intro half outside restored
    rw [kept]
    refine unwound.restored half ?_ restored
    rw [List.mem_cons, not_or]
    exact ⟨fun same => temporary (congrArg Prod.snd same).symm, outside⟩
  · intro half unrestored
    rw [kept]
    exact unwound.unrestored half unrestored
  · intro half inside
    exact absurd inside (settled half)
  · intro single half kind other outside
    by_cases same : (half, kind) = slot
    · have clean := unwound.unsoiled slot List.mem_cons_self
      simp [same, clean]
    · rw [Function.update_of_ne (separate.ne same)]
      refine unwound.cleared single half kind other ?_
      rw [List.mem_cons, not_or]
      exact ⟨same, outside⟩
  · intro other inside
    exact unwound.unsoiled other (List.mem_cons_of_mem _ inside)
  · intro half absent
    rw [Function.update_apply]
    split
    next => rfl
    next => exact unwound.unbacked half absent

/-- The previous file of a half is back, and its backup is gone. -/
theorem restoring [DecidableEq File] (separate : Function.Injective place)
    {half : PairHalf}
    (unwound : Unwound place before issued failure
      ((half, .live) :: (half, .backup) :: pending) files failures)
    (others : (half, .live) ∉ pending)
    (final : File → Option Contents)
    (written : final = Function.update
      (Function.update files (place (half, .backup)) none)
      (place (half, .live))
      (before (place (half, .live)))) :
    Unwound place before issued failure pending final failures := by
  obtain ⟨restored, _, _⟩ := unwound.replaced half List.mem_cons_self
  have elsewhere : ∀ slot, slot ≠ (half, .live) → slot ≠ (half, .backup) →
      final (place slot) = files (place slot) := by
    intro slot live backup
    simp [written, separate.eq_iff, live, backup]
  have back : final (place (half, .live)) =
      before (place (half, .live)) := by simp [written]
  have gone : final (place (half, .backup)) = none := by
    simp [written, separate.eq_iff]
  refine ⟨unwound.forward, unwound.recorded, ?_, ?_, ?_, ?_, ?_, ?_⟩
  · intro other outside kept
    by_cases same : other = half
    · rw [same, back]
    · rw [elsewhere _ (by simp [same]) (by simp)]
      exact unwound.restored other (by simp [same, outside]) kept
  · intro other unrestored
    have different : other ≠ half := by
      rintro rfl
      exact restored unrestored
    rw [elsewhere _ (by simp [different]) (by simp)]
    exact unwound.unrestored other unrestored
  · intro other inside
    have different : other ≠ half := by
      rintro rfl
      exact others inside
    rw [elsewhere _ (by simp [different]) (by simp),
      elsewhere _ (by simp) (by simp [different])]
    exact unwound.replaced other (by simp [inside])
  · intro single other kind temporary outside
    by_cases same : (other, kind) = (half, .backup)
    · have clean := unwound.unsoiled (half, .backup) (by simp)
      simp [same, clean, gone]
    · have live : (other, kind) ≠ (half, .live) := by
        rintro same
        exact temporary (congrArg Prod.snd same)
      rw [elsewhere _ live same]
      refine unwound.cleared single other kind temporary ?_
      simp only [List.mem_cons, not_or]
      exact ⟨live, same, outside⟩
  · intro slot inside
    exact unwound.unsoiled slot (by simp [inside])
  · intro other absent
    by_cases same : other = half
    · rw [same, gone]
    · rw [elsewhere _ (by simp) (by simp [same])]
      exact unwound.unbacked other absent

end Unwound

end Velum.Node.Acme
