import Velum.Foundation.TransitionSystem
import Velum.Runtime.Lifecycle

/-!
# Automatic reconnection

After a retryable failure the client controller waits for a timer, then for a
configuration, and starts the runtime again.  Starts, stops, snapshots, timers
and configurations come in any order, and every call of the runtime may throw.

The log of a controller lists, newest first, the explicit starts, the online
snapshots it has adopted and the starts it has made by itself.
-/

namespace Velum.Client

open Foundation
open Velum.Runtime

inductive ClientReconnectPhase where
  | inactive
  | waiting
  | reconnecting
  | exhausted
  deriving DecidableEq, Repr

structure ClientReconnectStatus where
  phase : ClientReconnectPhase := .inactive
  attempt : Nat := 0
  maxAttempts : Int := 0
  deriving DecidableEq, Repr

inductive StartMark where
  | explicitStart
  | adoptedOnline
  | automaticStart
  deriving DecidableEq, Repr

/-- What the runtime answers to a start: whether the library could be opened
if it had to be, the generation, and the snapshot that is read afterwards.
Nothing stands for an exception. -/
structure StartAnswers where
  path : String
  opened : Bool
  generation : Option UInt64
  reading : Option RuntimeSnapshot
  deriving DecidableEq, Repr

structure ClientController where
  -- The library of the runtime, if there is one.
  runtime : Option String := none
  snapshot : RuntimeSnapshot := {}
  acceptedRevision : Option UInt64 := none
  minimumGeneration : UInt64 := 0
  disposed : Bool := false
  configured : Bool := false
  reconnectStatus : ClientReconnectStatus := {}
  -- A Dart integer, which would wrap after 2 ^ 64 advances.
  reconnectEpoch : Nat := 0
  -- The epoch of the timer that is running.
  reconnectTimer : Option Nat := none
  -- The epochs of the retries that wait for their configuration.
  resolving : List Nat := []
  log : List StartMark := []
  deriving DecidableEq, Repr

namespace ClientController

def isRetryable : Option RuntimeFailure → Bool
  | some .connectTimeout => true
  | some .connection => true
  | some .transport => true
  | _ => false

def syncReconnect (maxReconnectAttempts : Int)
    (controller : ClientController) (next : RuntimeSnapshot) :
    ClientController :=
  if next.phase = .online then { controller with reconnectStatus := {} }
  else if next.phase ≠ .failed ∨ isRetryable next.failure = false then
    controller
  else if controller.configured = false ∨
      controller.reconnectTimer.isSome = true then controller
  else
    let nextAttempt := controller.reconnectStatus.attempt + 1
    if nextAttempt > maxReconnectAttempts then
      { controller with
        reconnectStatus :=
          { phase := .exhausted
            attempt := controller.reconnectStatus.attempt
            maxAttempts := maxReconnectAttempts } }
    else
      { controller with
        reconnectStatus :=
          { phase := .waiting
            attempt := nextAttempt
            maxAttempts := maxReconnectAttempts }
        reconnectEpoch := controller.reconnectEpoch + 1
        reconnectTimer := some (controller.reconnectEpoch + 1) }

/-- The snapshot is not stale. -/
def adopts (controller : ClientController) (next : RuntimeSnapshot) : Bool :=
  controller.acceptedRevision.all (fun revision => revision < next.revision) &&
    decide (controller.minimumGeneration ≤ next.generation) &&
    decide (controller.snapshot.generation ≤ next.generation)

/-- Whether the call returns, and the controller after it. -/
def refresh (maxReconnectAttempts : Int) (controller : ClientController)
    (reading : Option RuntimeSnapshot) : Bool × ClientController :=
  if controller.disposed then (false, controller)
  else if controller.runtime.isNone then (true, controller)
  else
    match reading with
    | none => (false, controller)
    | some next =>
        if controller.adopts next then
          (true, syncReconnect maxReconnectAttempts
            { controller with
              acceptedRevision := some next.revision
              snapshot := next
              log := if next.phase = .online then
                  .adoptedOnline :: controller.log
                else controller.log } next)
        else (true, controller)

def cancelReconnect (controller : ClientController) : ClientController :=
  { controller with
    reconnectEpoch := controller.reconnectEpoch + 1
    reconnectTimer := none
    reconnectStatus := {} }

/-- Nothing stands for an exception; the controller may then have lost its
runtime. -/
def runtimeFor (controller : ClientController) (answers : StartAnswers) :
    Bool × ClientController :=
  if controller.runtime = some answers.path then (true, controller)
  else if controller.runtime.isSome ∧ controller.snapshot.phase ≠ .stopped ∧
      controller.snapshot.phase ≠ .failed then (false, controller)
  else if answers.opened then
    (true, { controller with
      runtime := some answers.path
      acceptedRevision := none
      minimumGeneration := 0
      snapshot := {} })
  else (false, { controller with runtime := none })

def raiseGeneration (controller : ClientController) (generation : UInt64) :
    ClientController :=
  { controller with
    minimumGeneration :=
      if controller.minimumGeneration < generation then generation
      else controller.minimumGeneration }

/-- `_start`, the part that explicit and automatic starts share. -/
def startRuntime (maxReconnectAttempts : Int) (controller : ClientController)
    (answers : StartAnswers) : Bool × ClientController :=
  match controller.runtimeFor answers with
  | (false, controller) => (false, controller)
  | (true, controller) =>
      match answers.generation with
      | none => (false, controller)
      | some generation =>
          (controller.raiseGeneration generation).refresh
            maxReconnectAttempts answers.reading

def start (maxReconnectAttempts : Int) (controller : ClientController)
    (configured : Bool) (answers : StartAnswers) : ClientController :=
  (startRuntime maxReconnectAttempts
    { controller.cancelReconnect with
      configured
      log := .explicitStart :: controller.log } answers).2

def stop (maxReconnectAttempts : Int) (controller : ClientController)
    (generation : Option UInt64) (reading : Option RuntimeSnapshot) :
    ClientController :=
  let controller := { controller.cancelReconnect with configured := false }
  if controller.runtime.isNone then controller
  else
    match generation with
    | none => controller
    | some generation =>
        ((controller.raiseGeneration generation).refresh maxReconnectAttempts
          reading).2

def dispose (controller : ClientController) : ClientController :=
  { controller.cancelReconnect with
    disposed := true, configured := false, runtime := none }

/-- A retry up to the await of its configuration. -/
def retry (maxReconnectAttempts : Int) (controller : ClientController)
    (epoch : Nat) : ClientController :=
  if controller.disposed = true ∨ epoch ≠ controller.reconnectEpoch then
    controller
  else if controller.configured = false ∨
      controller.snapshot.phase ≠ .failed then controller
  else
    { controller with
      reconnectStatus :=
        { phase := .reconnecting
          attempt := controller.reconnectStatus.attempt
          maxAttempts := maxReconnectAttempts }
      resolving := epoch :: controller.resolving }

/-- The handler of a retry that has thrown. -/
def retryFailed (maxReconnectAttempts : Int) (controller : ClientController)
    (epoch : Nat) : ClientController :=
  if controller.disposed = false ∧ epoch = controller.reconnectEpoch then
    controller.syncReconnect maxReconnectAttempts controller.snapshot
  else controller

/-- The configuration of a retry has been resolved. -/
def retryResolved (maxReconnectAttempts : Int)
    (controller : ClientController) (epoch : Nat) (answers : StartAnswers) :
    ClientController :=
  if controller.disposed = true ∨ epoch ≠ controller.reconnectEpoch ∨
      controller.snapshot.phase ≠ .failed ∨
      controller.configured = false then controller
  else
    match startRuntime maxReconnectAttempts
      { controller with log := .automaticStart :: controller.log }
      answers with
    | (true, controller) => controller
    | (false, controller) =>
        controller.retryFailed maxReconnectAttempts epoch

end ClientController

inductive ControllerEvent where
  | start (configured : Bool) (answers : StartAnswers)
  | stop (generation : Option UInt64) (reading : Option RuntimeSnapshot)
  | dispose
  | refresh (reading : Option RuntimeSnapshot)
  | timerFired
  | configurationResolved (epoch : Nat) (answers : StartAnswers)
  | configurationFailed (epoch : Nat)
  deriving DecidableEq, Repr

namespace ControllerEvent

def isStart : ControllerEvent → Bool
  | .start _ _ => true
  | _ => false

/-- A stop or a disposal. -/
def ends : ControllerEvent → Bool
  | .stop _ _ => true
  | .dispose => true
  | _ => false

end ControllerEvent

namespace ClientController

def step (maxReconnectAttempts : Int) (controller : ClientController) :
    ControllerEvent → Option ClientController
  | .start configured answers =>
      if controller.disposed then none
      else some (controller.start maxReconnectAttempts configured answers)
  | .stop generation reading =>
      if controller.disposed then none
      else some (controller.stop maxReconnectAttempts generation reading)
  | .dispose =>
      some (if controller.disposed then controller else controller.dispose)
  | .refresh reading =>
      some (controller.refresh maxReconnectAttempts reading).2
  | .timerFired =>
      controller.reconnectTimer.map fun epoch =>
        { controller with reconnectTimer := none }.retry maxReconnectAttempts
          epoch
  | .configurationResolved epoch answers =>
      if epoch ∈ controller.resolving then
        some ({ controller with
          resolving := controller.resolving.erase epoch }.retryResolved
            maxReconnectAttempts epoch answers)
      else none
  | .configurationFailed epoch =>
      if epoch ∈ controller.resolving then
        some ({ controller with
          resolving := controller.resolving.erase epoch }.retryFailed
            maxReconnectAttempts epoch)
      else none

def Step (maxReconnectAttempts : Int) (controller : ClientController)
    (event : ControllerEvent) (after : ClientController) : Prop :=
  controller.step maxReconnectAttempts event = some after

/-- Between two marks of another kind there are not more automatic starts than
the bound. -/
def Bounded (maxReconnectAttempts : Int) (controller : ClientController) :
    Prop :=
  ∀ count, List.replicate count .automaticStart <:+: controller.log →
    count ≤ maxReconnectAttempts.toNat

/-- No automatic start is on its way. -/
def Settled (controller : ClientController) : Prop :=
  controller.reconnectTimer = none ∧
    controller.reconnectEpoch ∉ controller.resolving

/-- The condition on a step: no online snapshot is adopted by a refresh while
an automatic start is on its way. -/
def Tame (controller : ClientController) : ControllerEvent → Prop
  | .refresh (some next) => controller.adopts next = true →
      next.phase = .online → controller.Settled
  | _ => True

def TameStep (maxReconnectAttempts : Int) (controller : ClientController)
    (event : ControllerEvent) (after : ClientController) : Prop :=
  Step maxReconnectAttempts controller event after ∧ controller.Tame event

end ClientController

end Velum.Client
