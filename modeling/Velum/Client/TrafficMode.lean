import Velum.Foundation.TransitionSystem
import Mathlib.Logic.Function.Basic

/-!
# The traffic mode controller

The controller installs at most one adapter, according to the selected mode
and the phase of the runtime.  Its operations run one after the other; between
the awaits of the running one, modes are selected, operations are queued, the
runtime changes, and an adapter that was watched may come to its end.

Which adapters are installed is kept beside the fields of the controller: from
a successful activation to the next successful deactivation or recovery.
-/

namespace Velum.Client

open Foundation

inductive TrafficMode where
  | off
  | systemProxy
  | tun
  deriving DecidableEq, Repr

inductive TrafficModePhase where
  | inactive
  | applying
  | active
  | failed
  deriving DecidableEq, Repr

/-- What an adapter throws, as far as its message is shown. -/
inductive AdapterFailure where
  | state (message : String)
  | unsupported (message : Option String)
  | other
  deriving DecidableEq, Repr

/-- The adapters of the platform, and those with a completion to watch. -/
structure TrafficAdapters where
  modes : List TrafficMode
  completes : TrafficMode → Bool

inductive TrafficOperation where
  | recover
  | reconcile
  | suspend
  deriving DecidableEq, Repr

/-- Where the running operation is suspended.  A deactivation without a target
is that of a suspension. -/
inductive TrafficStage where
  | recovering (mode : TrafficMode) (rest : List TrafficMode)
      (reconciling : Bool)
  | recovered (result : Except AdapterFailure Unit)
  | deactivating (mode : TrafficMode) (target : Option TrafficMode)
  | deactivated (result : Except AdapterFailure Unit) (target : TrafficMode)
  | activating (target : TrafficMode)

structure TrafficModeController where
  runtimeOnline : Bool
  selectedMode : TrafficMode := .off
  activeMode : TrafficMode := .off
  phase : TrafficModePhase := .inactive
  error : Option String := none
  disposed : Bool := false
  recoveryFailed : Bool := false
  -- A Dart integer, which wraps.
  activationEpoch : Int64 := 0
  pending : List TrafficOperation := [.recover]
  stage : Option TrafficStage := none
  -- The first recovery has failed and its handler has not run yet.
  recoveryUnreported : Bool := false
  watched : List (TrafficMode × Int64) := []
  -- The deactivations that `dispose` has started.
  releasing : List TrafficMode := []
  installed : TrafficMode → Bool := fun _ => false

namespace TrafficModeController

def recoveryMessage : String :=
  "Previous traffic routing settings could not be restored."

/-- A disposed controller keeps its phase. -/
def setPhase (controller : TrafficModeController)
    (value : TrafficModePhase) : TrafficModeController :=
  { controller with
    phase := if controller.disposed then controller.phase else value }

def finish (controller : TrafficModeController) : TrafficModeController :=
  { controller with stage := none }

def uninstall (controller : TrafficModeController) (mode : TrafficMode) :
    TrafficModeController :=
  { controller with
    installed := Function.update controller.installed mode false }

def messageFor (controller : TrafficModeController) :
    AdapterFailure → String
  | .state message => message
  | .unsupported (some message) => message
  | .unsupported none | .other =>
      match controller.selectedMode with
      | .systemProxy => "The system proxy could not be installed."
      | .tun => "The TUN VPN could not be started."
      | .off => "Traffic routing could not be disabled."

/-- The phase of a settled mode. -/
def settledPhase : TrafficMode → TrafficModePhase
  | .off => .inactive
  | _ => .active

/-! ## The parts of a reconciliation -/

/-- The rest of `_deactivateCurrent` once nothing is active. -/
def deactivateDone (controller : TrafficModeController) :
    Option TrafficMode → TrafficModeController
  | none =>
      ({ controller with error := none }.setPhase .inactive).finish
  | some target =>
      { controller with
        error := none, stage := some (.deactivated (.ok ()) target) }

def deactivateCurrent (controller : TrafficModeController)
    (target : Option TrafficMode) : TrafficModeController :=
  let controller := { controller with
    activationEpoch := controller.activationEpoch + 1 }
  if controller.activeMode ≠ .off then
    { controller with
      stage := some (.deactivating controller.activeMode target) }
  else controller.deactivateDone target

def reconcileDone (controller : TrafficModeController)
    (target : TrafficMode) : TrafficModeController :=
  ({ controller with error := none }.setPhase (settledPhase target)).finish

def reconcileFailed (controller : TrafficModeController)
    (failure : AdapterFailure) : TrafficModeController :=
  ({ controller with
    activeMode := .off
    error := some (controller.messageFor failure) }.setPhase .failed).finish

def target (controller : TrafficModeController) : TrafficMode :=
  if controller.runtimeOnline then controller.selectedMode else .off

/-- From the computation of the target on. -/
def reconcileTarget (controller : TrafficModeController) :
    TrafficModeController :=
  if controller.activeMode = controller.target ∧
      controller.phase ≠ .failed then
    (controller.setPhase (settledPhase controller.target)).finish
  else
    (controller.setPhase .applying).deactivateCurrent
      (some controller.target)

/-- The loop of `_recover`. -/
def recoverRest (controller : TrafficModeController) (reconciling : Bool) :
    List TrafficMode → TrafficModeController
  | mode :: rest =>
      { controller with stage := some (.recovering mode rest reconciling) }
  | [] =>
      { controller with
        recoveryFailed := false
        error := none
        stage := if reconciling then some (.recovered (.ok ())) else none }

/-- An operation up to its first await. -/
def start (adapters : TrafficAdapters) (controller : TrafficModeController) :
    TrafficOperation → TrafficModeController
  | .recover => controller.recoverRest false adapters.modes
  | .suspend => controller.deactivateCurrent none
  | .reconcile =>
      if controller.disposed then controller.finish
      else if controller.recoveryFailed then
        (controller.setPhase .applying).recoverRest true adapters.modes
      else controller.reconcileTarget

/-- The awaited call of the adapter has succeeded. -/
def succeed (adapters : TrafficAdapters) (controller : TrafficModeController) :
    TrafficStage → Option TrafficModeController
  | .recovering mode rest reconciling =>
      some ((controller.uninstall mode).recoverRest reconciling rest)
  | .deactivating mode target =>
      some ({ controller.uninstall mode with
        activeMode := .off }.deactivateDone target)
  | .activating target =>
      let epoch := controller.activationEpoch + 1
      some ({ controller with
        installed := Function.update controller.installed target true
        activeMode := target
        activationEpoch := epoch
        watched := if adapters.completes target then
            (target, epoch) :: controller.watched
          else controller.watched }.reconcileDone target)
  | _ => none

/-- The awaited call of the adapter has thrown. -/
def fail (controller : TrafficModeController) (failure : AdapterFailure) :
    TrafficStage → Option TrafficModeController
  | .recovering _ _ true =>
      some { controller with stage := some (.recovered (.error failure)) }
  | .recovering _ _ false =>
      some { controller with stage := none, recoveryUnreported := true }
  | .deactivating _ none => some controller.finish
  | .deactivating _ (some target) =>
      some { controller with
        stage := some (.deactivated (.error failure) target) }
  | .activating _ => some (controller.reconcileFailed failure)
  | _ => none

/-- A reconciliation goes on after a call of its own. -/
def resume (controller : TrafficModeController) :
    TrafficStage → Option TrafficModeController
  | .recovered (.ok _) => some controller.reconcileTarget
  | .recovered (.error _) =>
      some ({ controller with
        error := some recoveryMessage }.setPhase .failed).finish
  | .deactivated (.ok _) target =>
      if target ≠ .off then
        some { controller with stage := some (.activating target) }
      else some (controller.reconcileDone target)
  | .deactivated (.error failure) _ =>
      some (controller.reconcileFailed failure)
  | _ => none

/-! ## Callbacks -/

def completed (controller : TrafficModeController) (mode : TrafficMode)
    (epoch : Int64) : TrafficModeController :=
  if controller.disposed ∨ epoch ≠ controller.activationEpoch ∨
      controller.activeMode ≠ mode then controller
  else
    { controller with
      activeMode := .off
      error := some (if mode = TrafficMode.tun then
          "The TUN VPN stopped unexpectedly."
        else "Traffic routing stopped unexpectedly.") }.setPhase .failed

def reportRecovery (controller : TrafficModeController) :
    TrafficModeController :=
  if controller.disposed then controller
  else
    { controller with
      recoveryFailed := true
      error := some recoveryMessage }.setPhase .failed

def dispose (adapters : TrafficAdapters)
    (controller : TrafficModeController) : TrafficModeController :=
  if controller.disposed then controller
  else
    { controller with
      disposed := true
      activationEpoch := controller.activationEpoch + 1
      releasing := adapters.modes }

end TrafficModeController

inductive TrafficEvent where
  | select (mode : TrafficMode)
  | suspend
  | runtimeChanged (online : Bool)
  | start
  | succeeded
  | threw (failure : AdapterFailure)
  | resumed
  | completed (mode : TrafficMode) (epoch : Int64)
  | recoveryReported
  | dispose
  | released (mode : TrafficMode) (succeeded : Bool)
  deriving DecidableEq, Repr

namespace TrafficModeController

def step (adapters : TrafficAdapters) (controller : TrafficModeController) :
    TrafficEvent → Option TrafficModeController
  | .select mode =>
      if mode = .off ∨ mode ∈ adapters.modes then
        some { controller with
          selectedMode := mode
          error := none
          pending := controller.pending ++ [.reconcile] }
      else none
  | .suspend =>
      some { controller with pending := controller.pending ++ [.suspend] }
  | .runtimeChanged online =>
      some { controller with
        runtimeOnline := online
        pending := if controller.disposed then controller.pending
          else controller.pending ++ [.reconcile] }
  | .start =>
      match controller.stage, controller.pending with
      | none, operation :: rest =>
          some ({ controller with pending := rest }.start adapters operation)
      | _, _ => none
  | .succeeded => controller.stage.bind (controller.succeed adapters)
  | .threw failure => controller.stage.bind (controller.fail failure)
  | .resumed => controller.stage.bind controller.resume
  | .completed mode epoch =>
      if (mode, epoch) ∈ controller.watched then
        some ({ controller with
          watched := controller.watched.erase (mode, epoch) }.completed mode
            epoch)
      else none
  | .recoveryReported =>
      if controller.recoveryUnreported then
        some { controller with recoveryUnreported := false }.reportRecovery
      else none
  | .dispose => some (controller.dispose adapters)
  | .released mode succeeded =>
      if mode ∈ controller.releasing then
        let controller := { controller with
          releasing := controller.releasing.erase mode }
        some (if succeeded then controller.uninstall mode else controller)
      else none

/-- The controller that has just been made. -/
def created (online : Bool) : TrafficModeController :=
  { runtimeOnline := online }

/-! ## Honesty -/

/-- What the controller shows about the adapters that are installed. -/
structure Honest (controller : TrafficModeController) : Prop where
  none_installed : controller.phase = .inactive ∨
      controller.activeMode = .off ∧
        ¬ (controller.phase = .failed ∧ controller.error.isSome) →
    ∀ mode, controller.installed mode = false
  one_installed : ∀ first second, controller.installed first = true →
    controller.installed second = true → first = second

/-- The condition on a step: it is not the failure of a deactivation in a
reconciliation, and not the end of the adapter that is active. -/
def Tame (controller : TrafficModeController) : TrafficEvent → Prop
  | .threw _ => ∀ mode target,
      controller.stage ≠ some (.deactivating mode (some target))
  | .completed mode epoch => controller.disposed = true ∨
      epoch ≠ controller.activationEpoch ∨ controller.activeMode ≠ mode
  | _ => True

def TameStep (adapters : TrafficAdapters)
    (controller : TrafficModeController) (event : TrafficEvent)
    (after : TrafficModeController) : Prop :=
  controller.step adapters event = some after ∧ controller.Tame event

end TrafficModeController

end Velum.Client
