import Velum.Client.TrafficMode

/-!
# Honesty of the traffic mode controller

As long as no deactivation fails in a reconciliation, and the active adapter
does not end by itself, the active mode is that of the adapter that is
installed.  Both exceptions forget the adapter although it is installed.
-/

namespace Velum.Client.TrafficModeController

open Foundation

/-- The active mode is remembered, and not while the phase is inactive. -/
structure Remembers (controller : TrafficModeController) : Prop where
  installed_active : ∀ mode, controller.installed mode = true →
    controller.activeMode = mode ∧ mode ≠ .off
  inactive_off : controller.phase = .inactive → controller.activeMode = .off

/-- What is known where an operation is suspended. -/
def StageKnown (controller : TrafficModeController) :
    Option TrafficStage → Prop
  | none => True
  | some (.recovering _ _ reconciling) =>
      reconciling = true → controller.phase ≠ .inactive
  | some (.recovered _) => controller.phase ≠ .inactive
  | some (.deactivating mode target) => controller.activeMode = mode ∧
      (target.isSome = true → controller.phase ≠ .inactive)
  | some (.deactivated result _) => result = .ok () ∧
      controller.activeMode = .off ∧ controller.phase ≠ .inactive
  | some (.activating target) => controller.activeMode = .off ∧
      controller.phase ≠ .inactive ∧ target ≠ .off

structure Known (controller : TrafficModeController) : Prop
    extends Remembers controller where
  stage_known : StageKnown controller controller.stage

variable {adapters : TrafficAdapters}
  {controller after : TrafficModeController}

theorem Remembers.none_installed (remembers : Remembers controller)
    (off : controller.activeMode = .off) (mode : TrafficMode) :
    controller.installed mode = false := by
  apply Bool.eq_false_iff.mpr
  intro installed
  obtain ⟨active, proper⟩ := remembers.installed_active mode installed
  exact proper (active.symm.trans off)

theorem Remembers.honest (remembers : Remembers controller) :
    Honest controller := by
  constructor
  · intro shown
    apply remembers.none_installed
    rcases shown with inactive | ⟨off, _⟩
    · exact remembers.inactive_off inactive
    · exact off
  · intro first second firstInstalled secondInstalled
    have one := (remembers.installed_active first firstInstalled).1
    have other := (remembers.installed_active second secondInstalled).1
    exact one.symm.trans other

/-! ## The parts of an operation -/

/-- Fields that nothing is known about do not matter. -/
theorem Remembers.congr (remembers : Remembers controller)
    (installed : after.installed = controller.installed)
    (active : after.activeMode = controller.activeMode)
    (phase : after.phase = controller.phase) : Remembers after := by
  constructor
  · rw [installed, active]
    exact remembers.installed_active
  · rw [phase, active]
    exact remembers.inactive_off

theorem Remembers.setPhase {value : TrafficModePhase}
    (remembers : Remembers controller)
    (allowed : value = .inactive → controller.activeMode = .off) :
    Remembers (controller.setPhase value) := by
  refine ⟨remembers.installed_active, ?_⟩
  intro shown
  have chosen : (if controller.disposed then controller.phase else value) =
      .inactive := shown
  split at chosen
  · exact remembers.inactive_off chosen
  · exact allowed chosen

theorem setPhase_ne_inactive {value : TrafficModePhase}
    (shown : value ≠ .inactive)
    (before : controller.disposed = false ∨ controller.phase ≠ .inactive) :
    (controller.setPhase value).phase ≠ .inactive := by
  have either : (controller.setPhase value).phase =
      if controller.disposed then controller.phase else value := rfl
  rw [either]
  rcases before with live | busy
  · rw [live]
    exact shown
  · split
    · exact busy
    · exact shown

theorem Remembers.finish (remembers : Remembers controller) :
    Known controller.finish :=
  { toRemembers := remembers.congr rfl rfl rfl
    stage_known := trivial }

theorem Remembers.uninstall (remembers : Remembers controller)
    (mode : TrafficMode) : Remembers (controller.uninstall mode) := by
  refine ⟨?_, remembers.inactive_off⟩
  intro other installed
  by_cases same : other = mode
  · have gone : Function.update controller.installed mode false other =
        true := installed
    rw [same, Function.update_self] at gone
    cases gone
  · have kept : Function.update controller.installed mode false other =
        true := installed
    rw [Function.update_of_ne same] at kept
    exact remembers.installed_active other kept

theorem deactivateDone_known {target : Option TrafficMode}
    (remembers : Remembers controller)
    (off : controller.activeMode = .off)
    (busy : target.isSome = true → controller.phase ≠ .inactive) :
    Known (controller.deactivateDone target) := by
  have cleared : Remembers { controller with error := none } :=
    remembers.congr rfl rfl rfl
  cases target with
  | none => exact (cleared.setPhase fun _ => off).finish
  | some target =>
      exact { toRemembers := remembers.congr rfl rfl rfl
              stage_known := ⟨rfl, off, busy rfl⟩ }

theorem deactivateCurrent_known {target : Option TrafficMode}
    (remembers : Remembers controller)
    (busy : target.isSome = true → controller.phase ≠ .inactive) :
    Known (controller.deactivateCurrent target) := by
  have counted : Remembers { controller with
      activationEpoch := controller.activationEpoch + 1 } :=
    remembers.congr rfl rfl rfl
  unfold deactivateCurrent
  dsimp only
  split
  · exact { toRemembers := remembers.congr rfl rfl rfl
            stage_known := ⟨rfl, busy⟩ }
  · rename_i off
    exact deactivateDone_known counted (not_not.mp off) busy

theorem settledPhase_eq_inactive {target : TrafficMode}
    (shown : settledPhase target = .inactive) : target = .off := by
  cases target with
  | off => rfl
  | systemProxy => cases shown
  | tun => cases shown

theorem reconcileDone_known {target : TrafficMode}
    (remembers : Remembers controller)
    (settled : controller.activeMode = target) :
    Known (controller.reconcileDone target) := by
  have cleared : Remembers { controller with error := none } :=
    remembers.congr rfl rfl rfl
  apply (cleared.setPhase ?_).finish
  intro shown
  exact settled.trans (settledPhase_eq_inactive shown)

/-- The handler of a failure forgets the active mode. -/
theorem reconcileFailed_known {failure : AdapterFailure}
    (remembers : Remembers controller)
    (off : controller.activeMode = .off) :
    Known (controller.reconcileFailed failure) := by
  have forgotten : Remembers { controller with
      activeMode := .off
      error := some (controller.messageFor failure) } :=
    remembers.congr rfl off.symm rfl
  exact (forgotten.setPhase fun shown => by cases shown).finish

theorem reconcileTarget_known (remembers : Remembers controller)
    (shown : controller.disposed = false ∨ controller.phase ≠ .inactive) :
    Known controller.reconcileTarget := by
  unfold reconcileTarget
  split
  · rename_i settled
    apply (remembers.setPhase ?_).finish
    intro inactive
    exact settled.1.trans (settledPhase_eq_inactive inactive)
  · apply deactivateCurrent_known
    · exact remembers.setPhase fun inactive => by cases inactive
    · intro _
      exact setPhase_ne_inactive (by simp) shown

theorem recoverRest_known {reconciling : Bool} {rest : List TrafficMode}
    (remembers : Remembers controller)
    (busy : reconciling = true → controller.phase ≠ .inactive) :
    Known (controller.recoverRest reconciling rest) := by
  cases rest with
  | cons mode rest =>
      exact { toRemembers := remembers.congr rfl rfl rfl
              stage_known := busy }
  | nil =>
      refine { toRemembers := remembers.congr rfl rfl rfl
               stage_known := ?_ }
      cases reconciling with
      | false => trivial
      | true => exact busy rfl

theorem start_known {operation : TrafficOperation}
    (remembers : Remembers controller) :
    Known (controller.start adapters operation) := by
  cases operation with
  | recover => exact recoverRest_known remembers (by simp)
  | suspend => exact deactivateCurrent_known remembers (by simp)
  | reconcile =>
      unfold start
      dsimp only
      split
      · exact remembers.finish
      · rename_i live
        have shown : controller.disposed = false := by simpa using live
        split
        · apply recoverRest_known
          · exact remembers.setPhase fun inactive => by cases inactive
          · intro _
            exact setPhase_ne_inactive (by simp) (.inl shown)
        · exact reconcileTarget_known remembers (.inl shown)

/-! ## The outcomes of a call -/

theorem activated {target : TrafficMode} (remembers : Remembers controller)
    (off : controller.activeMode = .off) (proper : target ≠ .off)
    (busy : controller.phase ≠ .inactive)
    (installed : after.installed =
      Function.update controller.installed target true)
    (active : after.activeMode = target)
    (phase : after.phase = controller.phase) : Remembers after := by
  constructor
  · intro mode present
    rw [installed] at present
    by_cases same : mode = target
    · rw [same]
      exact ⟨active, proper⟩
    · rw [Function.update_of_ne same,
        remembers.none_installed off mode] at present
      cases present
  · intro shown
    exact absurd (phase.symm.trans shown) busy

/-- Once the active adapter is gone, nothing is installed. -/
theorem deactivated_remembers (remembers : Remembers controller) :
    Remembers { controller.uninstall controller.activeMode with
      activeMode := .off } := by
  constructor
  · intro mode present
    have kept : Function.update controller.installed controller.activeMode
        false mode = true := present
    by_cases same : mode = controller.activeMode
    · rw [same, Function.update_self] at kept
      cases kept
    · rw [Function.update_of_ne same] at kept
      have active := (remembers.installed_active mode kept).1
      exact absurd active.symm same
  · intro _
    rfl

theorem succeed_known {stage : TrafficStage}
    (remembers : Remembers controller)
    (known : StageKnown controller (some stage))
    (made : controller.succeed adapters stage = some after) :
    Known after := by
  cases stage with
  | recovering mode rest reconciling =>
      cases made
      exact recoverRest_known (remembers.uninstall mode) known
  | recovered result => cases made
  | deactivating mode target =>
      cases made
      obtain ⟨rfl, busy⟩ := known
      exact deactivateDone_known (deactivated_remembers remembers) rfl busy
  | deactivated result target => cases made
  | activating target =>
      cases made
      obtain ⟨off, busy, proper⟩ := known
      apply reconcileDone_known
      · exact activated remembers off proper busy rfl rfl rfl
      · rfl

theorem fail_known {stage : TrafficStage} {failure : AdapterFailure}
    (remembers : Remembers controller)
    (known : StageKnown controller (some stage))
    (tame : ∀ mode target, stage ≠ .deactivating mode (some target))
    (made : controller.fail failure stage = some after) : Known after := by
  cases stage with
  | recovering mode rest reconciling =>
      cases reconciling with
      | false =>
          cases made
          exact { toRemembers := remembers.congr rfl rfl rfl
                  stage_known := trivial }
      | true =>
          cases made
          exact { toRemembers := remembers.congr rfl rfl rfl
                  stage_known := known rfl }
  | recovered result => cases made
  | deactivating mode target =>
      cases target with
      | none =>
          cases made
          exact remembers.finish
      | some target => exact absurd rfl (tame mode target)
  | deactivated result target => cases made
  | activating target =>
      cases made
      exact reconcileFailed_known remembers known.1

theorem resume_known {stage : TrafficStage}
    (remembers : Remembers controller)
    (known : StageKnown controller (some stage))
    (made : controller.resume stage = some after) : Known after := by
  cases stage with
  | recovering mode rest reconciling => cases made
  | recovered result =>
      cases result with
      | ok value =>
          cases made
          exact reconcileTarget_known remembers (.inr known)
      | error failure =>
          cases made
          have reported : Remembers { controller with
              error := some recoveryMessage } := remembers.congr rfl rfl rfl
          exact (reported.setPhase fun inactive => by cases inactive).finish
  | deactivating mode target => cases made
  | deactivated result target =>
      obtain ⟨rfl, off, busy⟩ := known
      unfold resume at made
      dsimp only at made
      split at made
      · rename_i proper
        cases made
        exact { toRemembers := remembers.congr rfl rfl rfl
                stage_known := ⟨off, busy, proper⟩ }
      · rename_i settled
        cases made
        have same : target = .off := not_not.mp settled
        exact reconcileDone_known remembers (off.trans same.symm)
  | activating target => cases made

/-! ## Whole runs -/

/-- An event that leaves the running operation alone: nothing is installed or
forgotten by it, and the phase does not become inactive. -/
theorem Known.aside (known : Known controller)
    (installed : ∀ mode, after.installed mode = true →
      controller.installed mode = true)
    (active : after.activeMode = controller.activeMode)
    (phase : after.phase = .inactive → controller.phase = .inactive)
    (stage : after.stage = controller.stage) : Known after := by
  have busy (before : controller.phase ≠ .inactive) :
      after.phase ≠ .inactive := fun shown => before (phase shown)
  refine ⟨⟨?_, ?_⟩, ?_⟩
  · intro mode present
    rw [active]
    exact known.installed_active mode (installed mode present)
  · intro shown
    exact active.trans (known.inactive_off (phase shown))
  · have before := known.stage_known
    rw [stage]
    cases suspended : controller.stage with
    | none => trivial
    | some stage =>
        rw [suspended] at before
        cases stage with
        | recovering mode rest reconciling =>
            exact fun reconciled => busy (before reconciled)
        | recovered result => exact busy before
        | deactivating mode target =>
            exact ⟨active.trans before.1, fun some => busy (before.2 some)⟩
        | deactivated result target =>
            exact ⟨before.1, active.trans before.2.1, busy before.2.2⟩
        | activating target =>
            exact ⟨active.trans before.1, busy before.2.1, before.2.2⟩

theorem Known.reportRecovery (known : Known controller) :
    Known controller.reportRecovery := by
  unfold TrafficModeController.reportRecovery
  split
  · exact known
  · rename_i live
    refine known.aside (fun _ => id) rfl ?_ rfl
    intro shown
    have chosen : (if controller.disposed then controller.phase
        else .failed) = .inactive := shown
    rw [if_neg live] at chosen
    cases chosen

/-- A completion that is not that of the active adapter. -/
theorem Known.ignored {mode : TrafficMode} {epoch : Int64}
    (known : Known controller)
    (tame : controller.Tame (.completed mode epoch)) :
    Known (controller.completed mode epoch) := by
  have unchanged : controller.completed mode epoch = controller :=
    if_pos tame
  rw [unchanged]
  exact known

theorem Known.dispose (known : Known controller) :
    Known (controller.dispose adapters) := by
  unfold TrafficModeController.dispose
  split
  · exact known
  · exact known.aside (fun _ => id) rfl id rfl

theorem known_of_step {event : TrafficEvent} (known : Known controller)
    (step : TameStep adapters controller event after) : Known after := by
  obtain ⟨made, tame⟩ := step
  cases event with
  | select mode =>
      obtain ⟨_, made⟩ := Option.ite_none_right_eq_some.mp made
      cases made
      exact known.aside (fun _ => id) rfl id rfl
  | suspend =>
      cases made
      exact known.aside (fun _ => id) rfl id rfl
  | runtimeChanged online =>
      cases made
      exact known.aside (fun _ => id) rfl id rfl
  | start =>
      unfold step at made
      dsimp only at made
      split at made
      · cases made
        exact start_known (known.toRemembers.congr rfl rfl rfl)
      · cases made
  | succeeded =>
      obtain ⟨stage, suspended, made⟩ := Option.bind_eq_some_iff.mp made
      have stageKnown := known.stage_known
      rw [suspended] at stageKnown
      exact succeed_known known.toRemembers stageKnown made
  | threw failure =>
      obtain ⟨stage, suspended, made⟩ := Option.bind_eq_some_iff.mp made
      have stageKnown := known.stage_known
      rw [suspended] at stageKnown
      apply fail_known known.toRemembers stageKnown _ made
      rintro mode target rfl
      exact tame mode target suspended
  | resumed =>
      obtain ⟨stage, suspended, made⟩ := Option.bind_eq_some_iff.mp made
      have stageKnown := known.stage_known
      rw [suspended] at stageKnown
      exact resume_known known.toRemembers stageKnown made
  | completed mode epoch =>
      obtain ⟨_, made⟩ := Option.ite_none_right_eq_some.mp made
      cases made
      refine Known.ignored ?_ tame
      exact known.aside (fun _ => id) rfl id rfl
  | recoveryReported =>
      obtain ⟨_, made⟩ := Option.ite_none_right_eq_some.mp made
      cases made
      apply Known.reportRecovery
      exact known.aside (fun _ => id) rfl id rfl
  | dispose =>
      cases made
      exact known.dispose
  | released mode succeeded =>
      obtain ⟨_, made⟩ := Option.ite_none_right_eq_some.mp made
      cases made
      cases succeeded with
      | false => exact known.aside (fun _ => id) rfl id rfl
      | true =>
          refine known.aside ?_ rfl id rfl
          intro other present
          have kept : Function.update controller.installed mode false other =
              true := present
          by_cases same : other = mode
          · rw [same, Function.update_self] at kept
            cases kept
          · rw [Function.update_of_ne same] at kept
            exact kept

theorem known_created (online : Bool) : Known (created online) := by
  refine ⟨⟨?_, ?_⟩, trivial⟩
  · intro mode installed
    cases installed
  · intro _
    rfl

/-- In every state that the controller reaches by tame steps it is honest
about the adapters. -/
theorem honest_of_tame_run {online : Bool} {trace : List TrafficEvent}
    (run : Run (TameStep adapters) (created online) trace controller) :
    Honest controller := by
  apply Remembers.honest
  have known : Known controller :=
    run.invariant (known_created online) known_of_step
  exact known.toRemembers

section Desktop

/-- A desktop with both adapters. -/
def desktop : TrafficAdapters where
  modes := [.systemProxy, .tun]
  completes _ := false

/-- The system proxy is activated, and its deactivation fails. -/
def failedDeactivation : List TrafficEvent :=
  [.start, .succeeded, .succeeded, .select .systemProxy, .start, .resumed,
    .succeeded, .select .off, .start, .threw .other, .resumed]

theorem honest_after_activation : ∃ controller : TrafficModeController,
    Run (TameStep desktop) (created true)
        (failedDeactivation.take 7) controller ∧
      controller.installed .systemProxy = true ∧ Honest controller := by
  obtain ⟨controller, run, installed⟩ : ∃ controller,
      Run (TameStep desktop) (created true) (failedDeactivation.take 7)
        controller ∧ controller.installed .systemProxy = true := by
    refine Run.exists_cons ⟨rfl, trivial⟩ ?_
    refine Run.exists_cons ⟨rfl, trivial⟩ ?_
    refine Run.exists_cons ⟨rfl, trivial⟩ ?_
    refine Run.exists_cons ⟨rfl, trivial⟩ ?_
    refine Run.exists_cons ⟨rfl, trivial⟩ ?_
    refine Run.exists_cons ⟨rfl, trivial⟩ ?_
    refine Run.exists_cons ⟨rfl, trivial⟩ ?_
    exact ⟨_, .nil, rfl⟩
  exact ⟨controller, run, installed, honest_of_tame_run run⟩

/-- A suspension shows that nothing is installed, and another mode is
activated beside the first. -/
theorem not_honest_after_failed_deactivation :
    (∃ controller : TrafficModeController,
      Run (fun controller event after =>
          controller.step desktop event = some after) (created true)
        (failedDeactivation ++ [.suspend, .start]) controller ∧
      controller.phase = .inactive ∧
      controller.installed .systemProxy = true ∧ ¬ Honest controller) ∧
    ∃ controller : TrafficModeController,
      Run (fun controller event after =>
          controller.step desktop event = some after) (created true)
        (failedDeactivation ++ [.select .tun, .start, .resumed, .succeeded])
        controller ∧
      controller.installed .systemProxy = true ∧
      controller.installed .tun = true ∧ ¬ Honest controller := by
  constructor
  · refine ⟨_, Run.of_foldlM rfl, rfl, rfl, ?_⟩
    intro honest
    have nothing := honest.none_installed (.inl rfl) .systemProxy
    cases nothing
  · refine ⟨_, Run.of_foldlM rfl, rfl, rfl, ?_⟩
    intro honest
    have same := honest.one_installed .systemProxy .tun rfl rfl
    cases same

end Desktop

end Velum.Client.TrafficModeController
