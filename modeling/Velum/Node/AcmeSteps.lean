import Velum.Node.AcmeUnwinding

/-!
# The functions of an activation

What each function ensures of the files: it does its part of the progress, or
it leaves an unwinding that its callers carry on.
-/

namespace Velum.Node.Acme

open Foundation HostProgram

variable {File Contents : Type} {place : Slot → File}
  {before : File → Option Contents} {issued : PairHalf → Option Contents}
  {failure : Failure AcmeStep Contents} {pending : List Slot}
  {files : File → Option Contents}
  {failures : List (Failure AcmeStep Contents)} {half : PairHalf}

/-! ## Failing steps -/

theorem faltered_unchanged (forward : failure.step.undoes = false)
    (clean : ∀ slot, ¬Soils failure slot) :
    Faltered place files files failure where
  forward := forward
  elsewhere _ _ := rfl
  soiled slot soils := absurd soils (clean slot)

variable [DecidableEq File]

/-- A step that fails may have left something in a free slot. -/
structure Faltering (failure : Failure AcmeStep Contents) (slot : Slot)
    (left : Option Contents) : Prop where
  forward : failure.step.undoes = false
  soils : ∀ other, Soils failure other ↔ other = slot ∧ left.isSome

theorem Faltering.faltered (separate : Function.Injective place)
    {slot : Slot} {left : Option Contents}
    (faltering : Faltering failure slot left)
    (free : files (place slot) = none) :
    Faltered place files
      (Function.update files (place slot) left) failure where
  forward := faltering.forward
  elsewhere other clean := by
    rw [faltering.soils, not_and] at clean
    by_cases same : other = slot
    · have nothing := clean same
      rw [Bool.not_eq_true, Option.isSome_eq_false_iff,
        Option.isNone_iff_eq_none] at nothing
      rw [same, free, nothing, Function.update_self]
    · exact Function.update_of_ne (separate.ne same) _ _
  soiled other soiled := by
    obtain ⟨rfl, present⟩ := (faltering.soils other).mp soiled
    simpa using present

theorem Progress.faltering (separate : Function.Injective place)
    {staged backed replaced : List PairHalf}
    (progress : Progress place before issued staged backed replaced files)
    {slot : Slot} {left : Option Contents}
    (faltering : Faltering failure slot left)
    (free : files (place slot) = none)
    (existing : slot.2 = .backup →
      before (place (slot.1, .live)) ≠ none)
    (pending : List Slot) (outside : slot ∉ pending)
    (lives : ∀ half, (half, .live) ∈ pending ↔ half ∈ replaced)
    (stages : ∀ half ∈ staged, (half, .stage) ∈ pending)
    (backups : ∀ half ∈ backed, (half, .backup) ∈ pending)
    (kept : ∀ half ∈ replaced, half ∈ backed) :
    Unwound place before issued failure pending
      (Function.update files (place slot) left) [failure] := by
  apply progress.unwound (faltering.faltered separate free) pending lives
    stages backups kept
  · intro other inside soiled
    exact outside (((faltering.soils other).mp soiled).1 ▸ inside)
  · intro half absent soiled
    obtain ⟨rfl, _⟩ := (faltering.soils _).mp soiled
    exact existing rfl absent

/-! ## Staging and backing up -/

/-- The path under which a half is backed up, where there was a file. -/
def backupOf (listener : ListenerConfig) (place : Slot → File)
    (before : File → Option Contents) (half : PairHalf) : Option FilePath :=
  (before (place (half, .live))).map fun _ =>
    listener.slotPath (half, .backup)

variable {listener : ListenerConfig} {locate : FilePath → File}

theorem ensures_stagePrivateFile {destination source : FilePath}
    {staging : File} {contents : Contents}
    (leads : locate (stagePath destination) = staging)
    (directory : destination.parent.isSome) (free : files staging = none)
    (held : files (locate source) = some contents)
    {returns : FilePath → AcmeState File Contents → Prop}
    {raises : String → AcmeState File Contents → Prop}
    (staged : returns (stagePath destination)
      (Function.update files staging (some contents), failures))
    (failed : ∀ message left failure,
      Faltering failure (half, .stage) left →
      raises message
        (Function.update files staging left, failures ++ [failure])) :
    Ensures (onto locate (stagePrivateFile half source destination))
      (files, failures) returns raises := by
  obtain ⟨parent, known⟩ := Option.isSome_iff_exists.mp directory
  simp only [stagePrivateFile, known, onto_bind, ensures_bind]
  refine ensures_attempt_unchanged rfl id
    (fun _ impossible => by cases impossible) ?_ ?_
  · simp only [onto_look, leads, ensures_look, free, Option.isSome_none,
      Bool.false_eq_true, if_false, onto_bind, onto_attempt,
      FileOperation.map, ensures_bind]
    apply ensures_copy held
    · refine ensures_attempt_unchanged rfl id
        (fun _ impossible => by cases impossible) staged ?_
      intro message
      exact failed _ _ _ ⟨rfl, by simp [Soils]⟩
    · intro message left
      exact failed _ _ _ ⟨rfl, by simp [Soils]⟩
  · intro message
    have unchanged : Function.update files staging none = files := by
      rw [← free, Function.update_eq_self]
    have nothing := failed message none ⟨.createDirectory half, none⟩
      ⟨rfl, by simp [Soils]⟩
    rwa [unchanged] at nothing

/-- A staging file that is already there is not touched. -/
theorem ensures_stagePrivateFile_taken {destination source : FilePath}
    (directory : destination.parent.isSome)
    (taken : (files (locate (stagePath destination))).isSome)
    {returns : FilePath → AcmeState File Contents → Prop}
    {raises : String → AcmeState File Contents → Prop}
    (refused : ∀ message, raises message (files, failures))
    (failed : ∀ message, raises message
      (files, failures ++ [⟨.createDirectory half, none⟩])) :
    Ensures (onto locate (stagePrivateFile half source destination))
      (files, failures) returns raises := by
  obtain ⟨parent, known⟩ := Option.isSome_iff_exists.mp directory
  simp only [stagePrivateFile, known, onto_bind, ensures_bind]
  refine ensures_attempt_unchanged rfl id
    (fun _ impossible => by cases impossible) ?_ failed
  simp only [onto_look, ensures_look, taken, if_true, onto_throw,
    ensures_throw]
  exact refused _

theorem ensures_backupFile
    (leads : ∀ slot, locate (listener.slotPath slot) = place slot)
    (free : files (place (half, .backup)) = none)
    (live : files (place (half, .live)) = before (place (half, .live)))
    {returns : Option FilePath → AcmeState File Contents → Prop}
    {raises : String → AcmeState File Contents → Prop}
    (backed : returns (backupOf listener place before half)
      (Function.update files (place (half, .backup))
        (before (place (half, .live))), failures))
    (failed : ∀ message left failure,
      Faltering failure (half, .backup) left →
      before (place (half, .live)) ≠ none →
      raises message
        (Function.update files (place (half, .backup)) left,
          failures ++ [failure])) :
    Ensures (onto locate (backupFile half (listener.path half)))
      (files, failures) returns raises := by
  have path : locate (listener.path half) = place (half, .live) :=
    leads (half, .live)
  have backup : locate (backupPath (listener.path half)) =
      place (half, .backup) := leads (half, .backup)
  simp only [backupFile, onto_bind, onto_look, ensures_bind, ensures_look,
    path, live]
  cases known : before (place (half, .live)) with
  | none =>
      simp only [Option.isSome_none, Bool.false_eq_true, if_false, onto_pure,
        ensures_pure]
      rw [backupOf, known, Option.map_none] at backed
      rw [← free, Function.update_eq_self] at backed
      exact backed
  | some contents =>
      have existing : before (place (half, .live)) ≠ none := by
        simp [known]
      simp only [Option.isSome_some, if_true, onto_bind, onto_look,
        onto_attempt, onto_pure, restrictFile, FileOperation.map,
        ensures_bind, ensures_look, path, backup, free, Option.isSome_none,
        Bool.false_eq_true, if_false]
      rw [backupOf, known, Option.map_some] at backed
      rw [known] at live
      apply ensures_copy live
      · refine ensures_attempt_unchanged rfl id (by simp) backed ?_
        intro message
        exact failed _ _ _ ⟨rfl, by simp [Soils]⟩ existing
      · intro message left
        exact failed _ _ _ ⟨rfl, by simp [Soils]⟩ existing

theorem ensures_replaceFile {contents : Contents}
    (leads : ∀ slot, locate (listener.slotPath slot) = place slot)
    (staged : files (place (half, .stage)) = some contents)
    {returns : Unit → AcmeState File Contents → Prop}
    {raises : String → AcmeState File Contents → Prop}
    (replaced : returns ()
      (Function.update
        (Function.update files (place (half, .stage)) none)
        (place (half, .live)) (some contents), failures))
    (failed : ∀ message (failure : Failure AcmeStep Contents),
      Faltered place files files failure → (∀ slot, ¬Soils failure slot) →
      raises message (files, failures ++ [failure])) :
    Ensures (onto locate (replaceFile half
        (listener.slotPath (half, .stage)) (listener.path half)))
      (files, failures) returns raises := by
  have path : locate (listener.path half) = place (half, .live) :=
    leads (half, .live)
  simp only [replaceFile, onto_attempt, FileOperation.map, leads, path]
  apply ensures_rename staged replaced
  intro message
  refine failed _ _ (faltered_unchanged rfl ?_) ?_
  · simp [Soils]
  · simp [Soils]

/-! ## Taking back -/

section Unwinding

variable {returns : Unit → AcmeState File Contents → Prop}
  {raises : String → AcmeState File Contents → Prop}

theorem ensures_cleanupPath
    (leads : ∀ slot, locate (listener.slotPath slot) = place slot)
    (separate : Function.Injective place)
    {slot : Slot} {step : AcmeStep}
    (unwinding : Unwinding place before issued (slot :: pending)
      (files, failures))
    (temporary : slot.2 ≠ .live)
    (settled : ∀ half, (half, .live) ∉ pending)
    (undoes : step.undoes = true) (removes : ∀ half, step ≠ .restore half)
    (next : ∀ after, Unwinding place before issued pending after →
      returns () after) :
    Ensures (onto locate (cleanupPath step (listener.slotPath slot)))
      (files, failures) returns raises := by
  obtain ⟨failure, unwound⟩ := unwinding
  simp only [cleanupPath, onto_discard, leads]
  apply ensures_discard
  · exact next _ ⟨failure, unwound.removing separate temporary settled⟩
  · refine next _ ⟨failure, unwound.failing [slot] undoes ?_ ?_⟩
    · intro half
      simp [removes half, Prod.ext_iff, Ne.symm temporary]
    · intro half inside
      cases List.mem_singleton.mp inside
      exact absurd rfl temporary

theorem ensures_cleanup
    (leads : ∀ slot, locate (listener.slotPath slot) = place slot)
    (separate : Function.Injective place)
    (unwinding : Unwinding place before issued
      ((half, .backup) :: pending) (files, failures))
    (settled : ∀ half, (half, .live) ∉ pending)
    (next : ∀ after, Unwinding place before issued pending after →
      returns () after) :
    Ensures (onto locate (cleanup (.removeBackup half)
        (backupOf listener place before half)))
      (files, failures) returns raises := by
  rw [backupOf]
  cases known : before (place (half, .live)) with
  | some contents =>
      exact ensures_cleanupPath leads separate unwinding (by simp) settled rfl
        (by simp) next
  | none =>
      obtain ⟨failure, unwound⟩ := unwinding
      have removed := unwound.removing separate (by simp) settled
      rw [← unwound.unbacked half known, Function.update_eq_self] at removed
      exact next _ ⟨failure, removed⟩

theorem ensures_restoreFile
    (leads : ∀ slot, locate (listener.slotPath slot) = place slot)
    (separate : Function.Injective place)
    (unwinding : Unwinding place before issued
      ((half, .live) :: (half, .backup) :: pending) (files, failures))
    (others : (half, .live) ∉ pending)
    (next : ∀ after, Unwinding place before issued pending after →
      returns () after)
    (raised : ∀ message after,
      Unwinding place before issued pending after → raises message after) :
    Ensures (onto locate (restoreFile half (listener.path half)
        (backupOf listener place before half)))
      (files, failures) returns raises := by
  obtain ⟨failure, unwound⟩ := unwinding
  have kept : ∀ message,
      raises message (files, failures ++ [⟨.restore half, none⟩]) := by
    intro message
    refine raised message _ ⟨failure, unwound.failing
      [(half, .live), (half, .backup)] rfl ?_ ?_⟩
    · intro other
      simp [eq_comm]
    · intro other inside
      simp only [List.mem_cons, Prod.mk.injEq, and_true, reduceCtorEq,
        and_false, List.not_mem_nil, or_false] at inside
      exact inside ▸ others
  obtain ⟨_, live, backup⟩ := unwound.replaced half List.mem_cons_self
  have path : locate (listener.path half) = place (half, .live) :=
    leads (half, .live)
  rw [backupOf]
  cases known : before (place (half, .live)) with
  | some contents =>
      rw [known] at backup
      simp only [Option.map_some, restoreFile, onto_attempt,
        FileOperation.map, leads, path]
      refine ensures_rename backup (next _ ⟨failure, ?_⟩) kept
      exact unwound.restoring separate others _ (by rw [known])
  | none =>
      rw [known] at backup
      have removed : ∀ final, final =
          Function.update files (place (half, .live)) none →
          returns () (final, failures) := by
        rintro final rfl
        refine next _ ⟨failure, unwound.restoring separate others _ ?_⟩
        rw [← backup, Function.update_eq_self, backup, known]
      simp only [Option.map_none, restoreFile, onto_bind, onto_look,
        ensures_bind, ensures_look, path]
      split
      next present =>
          simp only [onto_attempt, FileOperation.map, path]
          exact ensures_remove present (removed _ rfl) kept
      next missing =>
          refine removed _ ?_
          have gone : files (place (half, .live)) = none := by
            simpa using missing
          rw [← gone, Function.update_eq_self]

end Unwinding

/-! ## The pair -/

/-- The pair as the program records it. -/
def activated (listener : ListenerConfig) (place : Slot → File)
    (before : File → Option Contents) : ActivatedPair where
  certificate := listener.certificate
  privateKey := listener.privateKey
  certificateBackup := backupOf listener place before .certificate
  privateKeyBackup := backupOf listener place before .privateKey

theorem ensures_activatePair
    (leads : ∀ slot, locate (listener.slotPath slot) = place slot)
    (separate : Function.Injective place)
    (present : ∀ half, (issued half).isSome)
    (progress : Progress place before issued [.privateKey, .certificate]
      [] [] files) :
    Ensures
      (onto locate (activatePair (listener.slotPath (.certificate, .stage))
        (listener.slotPath (.privateKey, .stage)) listener.certificate
        listener.privateKey))
      (files, [])
      (fun pair after =>
        pair = activated listener place before ∧ after.2 = [] ∧
        Progress place before issued [] [.privateKey, .certificate]
          [.privateKey, .certificate] after.1)
      (fun _ => Unwinding place before issued
        [(.certificate, .stage), (.privateKey, .stage)]) := by
  have certificate : listener.certificate = listener.path .certificate := rfl
  have privateKey : listener.privateKey = listener.path .privateKey := rfl
  obtain ⟨chain, chainIssued⟩ :=
    Option.isSome_iff_exists.mp (present .certificate)
  obtain ⟨key, keyIssued⟩ :=
    Option.isSome_iff_exists.mp (present .privateKey)
  simp only [activatePair, certificate, privateKey, onto_bind, onto_tryCatch,
    onto_throw, onto_pure, ensures_bind, ensures_tryCatch, ensures_throw,
    ensures_pure]
  refine ensures_backupFile leads (progress.unbacked (by simp))
    (progress.unreplaced (by simp)) ?_ ?_
  · have first := progress.backing separate .certificate
    refine ensures_backupFile leads (first.unbacked (by simp))
      (first.unreplaced (by simp)) ?_ ?_
    · have second := first.backing separate .privateKey
      refine ensures_replaceFile leads
        ((second.held (by simp)).trans chainIssued) ?_ ?_
      · rw [← chainIssued]
        have third := second.replacing separate .certificate [.privateKey]
          (by intro other; cases other <;> simp)
        refine ensures_replaceFile leads
          ((third.held (by simp)).trans keyIssued) ?_ ?_
        · rw [← keyIssued]
          have fourth := third.replacing separate .privateKey []
            (by intro other; cases other <;> simp)
          exact ⟨rfl, rfl, fourth⟩
        · intro message failure faltered clean
          have unwound := third.unwound faltered [
            (.certificate, .live), (.certificate, .backup),
            (.privateKey, .backup), (.certificate, .stage),
            (.privateKey, .stage)] (by simp) (by simp) (by simp) (by simp)
            (fun slot _ => clean slot) (fun half _ => clean _)
          simp only [onto_outcome, ensures_outcome]
          refine ensures_restoreFile leads separate ⟨failure, unwound⟩ (by simp)
            ?_ ?_
          · rintro ⟨files, failures⟩ unwinding
            exact ensures_cleanup leads separate unwinding (by simp)
              fun _ unwinding => unwinding
          · rintro message ⟨files, failures⟩ unwinding
            exact ensures_cleanup leads separate unwinding (by simp)
              fun _ unwinding => unwinding
      · intro message failure faltered clean
        have unwound := second.unwound faltered [
          (.certificate, .backup), (.privateKey, .backup),
          (.certificate, .stage), (.privateKey, .stage)] (by simp) (by simp)
          (by simp) (by simp) (fun slot _ => clean slot)
          (fun half _ => clean _)
        refine ensures_cleanup leads separate ⟨failure, unwound⟩ (by simp) ?_
        rintro ⟨files, failures⟩ unwinding
        exact ensures_cleanup leads separate unwinding (by simp)
          fun _ unwinding => unwinding
    · intro message left failure faltering existing
      have unwound := first.faltering separate faltering
        (first.unbacked (by simp)) (fun _ => existing) [
          (.certificate, .backup), (.certificate, .stage),
          (.privateKey, .stage)] (by simp) (by simp) (by simp) (by simp)
        (by simp)
      exact ensures_cleanup leads separate ⟨failure, unwound⟩ (by simp)
        fun _ unwinding => unwinding
  · intro message left failure faltering existing
    exact ⟨failure, progress.faltering separate faltering
      (progress.unbacked (by simp)) (fun _ => existing) _ (by simp) (by simp)
      (by simp) (by simp) (by simp)⟩

/-! ## The end of an activation -/

variable (place issued) in
/-- Both halves are in place, and only clearing up has failed. -/
structure Activated (state : AcmeState File Contents) : Prop where
  live : ∀ half, state.1 (place (half, .live)) = issued half
  undone : ∀ failure ∈ state.2, failure.step.undoes = true ∧
    ∀ half, failure.step ≠ .restore half

theorem Activated.ensures_cleanup
    (leads : ∀ slot, locate (listener.slotPath slot) = place slot)
    (separate : Function.Injective place)
    (done : Activated place issued (files, failures))
    {returns : Unit → AcmeState File Contents → Prop}
    {raises : String → AcmeState File Contents → Prop}
    (next : ∀ after, Activated place issued after → returns () after) :
    Ensures (onto locate (cleanup (.removeBackup half)
        (backupOf listener place before half)))
      (files, failures) returns raises := by
  rw [backupOf]
  cases before (place (half, .live)) with
  | none => exact next _ done
  | some contents =>
      simp only [Option.map_some, cleanup, cleanupPath, onto_discard, leads]
      apply ensures_discard
      · refine next _ ⟨?_, done.undone⟩
        intro other
        have different : place (other, .live) ≠
            place (half, .backup) := separate.ne (by simp)
        exact (Function.update_of_ne different _ _).trans (done.live other)
      · refine next _ ⟨done.live, ?_⟩
        intro entry member
        rcases List.mem_append.mp member with earlier | last
        · exact done.undone entry earlier
        · cases List.mem_singleton.mp last
          exact ⟨rfl, by simp⟩

theorem ensures_commit
    (leads : ∀ slot, locate (listener.slotPath slot) = place slot)
    (separate : Function.Injective place)
    (done : Activated place issued (files, failures))
    {raises : String → AcmeState File Contents → Prop} :
    Ensures (onto locate (activated listener place before).commit)
      (files, failures) (fun _ => Activated place issued) raises := by
  simp only [ActivatedPair.commit, onto_bind, ensures_bind]
  refine done.ensures_cleanup leads separate ?_
  rintro ⟨files, failures⟩ done
  exact done.ensures_cleanup leads separate fun _ done => done

theorem ensures_rollback
    (leads : ∀ slot, locate (listener.slotPath slot) = place slot)
    (separate : Function.Injective place)
    (unwinding : Unwinding place before issued [
      (.privateKey, .live), (.privateKey, .backup), (.certificate, .live),
      (.certificate, .backup)] (files, failures)) :
    Ensures (onto locate (activated listener place before).rollback)
      (files, failures) (fun _ => Unwinding place before issued [])
      (fun _ => Unwinding place before issued []) := by
  simp only [ActivatedPair.rollback, onto_bind, onto_outcome, ensures_bind,
    ensures_outcome]
  refine ensures_restoreFile leads separate unwinding (by simp) ?_ ?_
  · rintro ⟨files, failures⟩ unwinding
    exact ensures_restoreFile leads separate unwinding (by simp)
      (fun _ unwinding => unwinding) (fun _ _ unwinding => unwinding)
  · rintro message ⟨files, failures⟩ unwinding
    exact ensures_restoreFile leads separate unwinding (by simp)
      (fun _ unwinding => unwinding) (fun _ _ unwinding => unwinding)

theorem ensures_finish
    (leads : ∀ slot, locate (listener.slotPath slot) = place slot)
    (separate : Function.Injective place)
    (progress : Progress place before issued []
      [.privateKey, .certificate] [.privateKey, .certificate] files)
    (reloadRequired : Bool) :
    Ensures
      (onto locate (finish reloadRequired (activated listener place before)))
      (files, [])
      (fun _ => Activated place issued)
      (fun _ => Unwinding place before issued []) := by
  have done : Activated place issued (files, []) := by
    refine ⟨?_, by simp⟩
    intro half
    have live := progress.live half
    rwa [if_pos (by cases half <;> simp)] at live
  rw [finish]
  split
  next =>
      simp only [onto_bind, onto_outcome, ensures_bind, ensures_outcome]
      refine ensures_attempt_unchanged rfl id
        (fun _ impossible => by cases impossible)
        (ensures_commit leads separate done) ?_
      intro message
      have clean : ∀ slot, ¬Soils (⟨.reload, none⟩ : Failure AcmeStep Contents)
          slot := by simp [Soils]
      have unwound := progress.unwound (faltered_unchanged rfl clean) [
        (.privateKey, .live), (.privateKey, .backup), (.certificate, .live),
        (.certificate, .backup)] (by simp) (by simp) (by simp) (by simp)
        (fun slot _ => clean slot) (fun half _ => clean _)
      exact (ensures_rollback leads separate ⟨_, unwound⟩).mono id id
  next => exact ensures_commit leads separate done

theorem ensures_install
    (leads : ∀ slot, locate (listener.slotPath slot) = place slot)
    (separate : Function.Injective place)
    (directory : ∀ half, (listener.path half).parent.isSome)
    (free : ∀ half kind, kind ≠ .live →
      before (place (half, kind)) = none)
    {certificate privateKey : FilePath} {chain key : Contents}
    (chainIssued : issued .certificate = some chain)
    (keyIssued : issued .privateKey = some key)
    (certificateHeld : before (locate certificate) = issued .certificate)
    (privateKeyHeld : before (locate privateKey) = issued .privateKey)
    (apart : locate privateKey ≠ place (.certificate, .stage))
    (reloadRequired : Bool) :
    Ensures
      (onto locate (install listener certificate privateKey reloadRequired))
      (before, []) (fun _ => Activated place issued)
      (fun _ => Unwinding place before issued []) := by
  have initial : Progress place before issued [] [] [] before :=
    Progress.initial free
  simp only [install, onto_bind, onto_tryCatch, onto_throw, ensures_bind,
    ensures_tryCatch, ensures_throw]
  refine ensures_stagePrivateFile (leads (.certificate, .stage))
    (directory .certificate) (free .certificate .stage (by simp))
    (certificateHeld.trans chainIssued) ?_ ?_
  · rw [← chainIssued]
    have first := initial.staging separate .certificate
    have source := (Function.update_of_ne apart (issued .certificate)
      before).trans (privateKeyHeld.trans keyIssued)
    refine ensures_stagePrivateFile (leads (.privateKey, .stage))
      (directory .privateKey) (first.unstaged (by simp)) source ?_ ?_
    · rw [← keyIssued]
      have second := first.staging separate .privateKey
      refine (ensures_activatePair leads separate ?_ second).mono ?_ ?_
      · intro half
        cases half with
        | certificate => simp [chainIssued]
        | privateKey => simp [keyIssued]
      · rintro pair ⟨files, failures⟩ ⟨rfl, rfl, progress⟩
        exact ensures_finish leads separate progress reloadRequired
      · rintro message ⟨files, failures⟩ unwinding
        refine ensures_cleanupPath leads separate unwinding (by simp)
          (by simp) rfl (by simp) ?_
        rintro ⟨files, failures⟩ unwinding
        exact ensures_cleanupPath leads separate unwinding (by simp)
          (by simp) rfl (by simp) fun _ unwinding => unwinding
    · intro message left failure faltering
      have unwound := first.faltering separate faltering
        (first.unstaged (by simp)) (by simp) [(.certificate, .stage)]
        (by simp) (by simp) (by simp) (by simp) (by simp)
      exact ensures_cleanupPath leads separate ⟨failure, unwound⟩ (by simp)
        (by simp) rfl (by simp) fun _ unwinding => unwinding
  · intro message left failure faltering
    exact ⟨failure, initial.faltering separate faltering
      (initial.unstaged (by simp)) (by simp) [] (by simp) (by simp) (by simp)
      (by simp) (by simp)⟩

end Velum.Node.Acme
