import Velum.Foundation.TransitionSystem
import Velum.Runtime.References

/-!
# The controller of the multi-node engine

The controller owns one engine at a time and publishes the snapshot of the
default node.  Every activation starts a new runtime for that node, whose
revision and generation begin again, and a refresh drops a snapshot with an
earlier revision or generation than the one that is held.
-/

namespace Velum.Client

open Foundation
open Velum.Runtime

/-- What happens to a runtime after its start. -/
inductive RuntimeMove where
  | connected
  | connectFailed (failure : RuntimeFailure)
  | lost (failure : RuntimeFailure)
  deriving DecidableEq, Repr

def RuntimeMove.call (lifecycle : Lifecycle) (move : RuntimeMove) :
    LifecycleCall (Bool × Lifecycle) :=
  let generation := lifecycle.snapshot.generation
  match move with
  | .connected => lifecycle.completeConnect generation (.ok ())
  | .connectFailed failure =>
      lifecycle.completeConnect generation (.error failure)
  | .lost failure => lifecycle.failOnline generation failure

def RuntimeMove.apply (lifecycle : Lifecycle) (move : RuntimeMove) :
    Lifecycle :=
  match move.call lifecycle with
  | .ok (_, next) => next
  | _ => lifecycle

/-- The runtime that `ClientRuntimeFactory::start` returns. -/
def startedRuntime : Lifecycle :=
  match ({} : Lifecycle).beginConnect with
  | .ok (_, lifecycle) => lifecycle
  | _ => {}

/-- The part of the native engine that the controller sees.  The runtimes are
those behind the addresses of the entries. -/
structure ClientEngine where
  destroyed : Bool := false
  state : PoolState Unit := {}
  runtimes : Nat → Option Lifecycle := fun _ => none
  nextAddress : Nat := 0
  nextGeneration : UInt64 := 1

namespace ClientEngine

/-- The nodes and the default reference that the interface takes. -/
def acceptsNodes (nodes : List (ResolvedNode Unit)) (defaultNode : String) :
    Bool :=
  decide (nodes.length ≤ 128) && acceptsText defaultNode &&
    nodes.all fun node => acceptsText node.id && acceptsText node.nodeAlias

/-- A successful activation.  The runtime of the default node may have moved
on before the call returns. -/
def activate (engine : ClientEngine) (nodes : List (ResolvedNode Unit))
    (defaultNode : String) (early : List RuntimeMove) :
    Option ClientEngine :=
  if engine.destroyed ∨ acceptsNodes nodes defaultNode = false then none
  else
    match PoolState.prepare engine.nextAddress nodes defaultNode with
    | .error _ => none
    | .ok (prepared, nextAddress) =>
        match prepared.nodes.get? prepared.defaultNode with
        | none => none
        | some entry =>
            some { engine with
              state := { prepared with generation := engine.nextGeneration }
              runtimes := Function.update engine.runtimes entry.address
                (some (early.foldl RuntimeMove.apply startedRuntime))
              nextAddress
              nextGeneration := engine.nextGeneration + 1 }

/-- The snapshot of a node that has not been started is that of a runtime that
has not been started. -/
def snapshotOf (engine : ClientEngine) (entry : NodeEntry Unit) :
    RuntimeSnapshot :=
  ((engine.runtimes entry.address).getD {}).snapshot

def nodeSnapshot (engine : ClientEngine) (reference : String) :
    Option RuntimeSnapshot :=
  if engine.destroyed then none
  else (engine.state.nodeSnapshot reference).map engine.snapshotOf

def stop (engine : ClientEngine) : Option ClientEngine :=
  if engine.destroyed then none
  else
    some { engine with
      state := { generation := engine.nextGeneration }
      nextGeneration := engine.nextGeneration + 1 }

def changeRuntime (engine : ClientEngine) (address : Nat)
    (change : Option Lifecycle → Option Lifecycle) : ClientEngine :=
  { engine with
    runtimes := Function.update engine.runtimes address
      (change (engine.runtimes address)) }

/-- The current snapshot of the default node of the active profile. -/
def defaultSnapshot (engine : ClientEngine) : Option RuntimeSnapshot :=
  if engine.destroyed then none
  else (engine.state.nodes.get? engine.state.defaultNode).map
    engine.snapshotOf

end ClientEngine

structure ClientEngineController where
  engine : Option ClientEngine := none
  libraryPath : Option String := none
  defaultNode : Option String := none
  polling : Bool := false
  snapshot : RuntimeSnapshot := {}
  disposed : Bool := false

namespace ClientEngineController

def syncPolling (controller : ClientEngineController) :
    ClientEngineController :=
  if controller.disposed then controller
  else
    { controller with
      polling := controller.snapshot.phase = .connecting ∨
        controller.snapshot.phase = .online }

/-- Without a result the call throws. -/
def refresh (controller : ClientEngineController) :
    Option Bool × ClientEngineController :=
  if controller.disposed then (none, controller)
  else
    match controller.engine, controller.defaultNode with
    | some engine, some reference =>
        match engine.nodeSnapshot reference with
        | none => (none, controller)
        | some next =>
            if next.revision < controller.snapshot.revision ∨
                next.generation < controller.snapshot.generation then
              (some false, controller)
            else
              (some true, { controller with snapshot := next }.syncPolling)
    | _, _ => (some false, controller)

/-- The engine is used again for the same library. -/
def reuses (controller : ClientEngineController) (path : String) : Bool :=
  controller.engine.isSome && decide (controller.libraryPath = some path)

def engineFor (controller : ClientEngineController) (path : String) :
    ClientEngineController :=
  if controller.reuses path then controller
  else
    { controller with
      engine := some {}
      libraryPath := some path
      defaultNode := none
      snapshot := {} }

def activate (controller : ClientEngineController) (path : String)
    (nodes : List (ResolvedNode Unit)) (defaultNode : String)
    (early : List RuntimeMove) : Option ClientEngineController :=
  let controller := controller.engineFor path
  (controller.engine.bind fun engine =>
    engine.activate nodes defaultNode early).map fun engine =>
      ({ controller with
        engine := some engine
        defaultNode := some defaultNode }.refresh.2).syncPolling

def stop (controller : ClientEngineController) : ClientEngineController :=
  let controller := { controller with polling := false }
  match controller.engine with
  | none => controller
  | some engine =>
      match engine.stop with
      | none => controller
      | some engine => { controller with engine := some engine, snapshot := {} }

end ClientEngineController

inductive EngineEvent where
  | activated (path : String) (nodes : List (ResolvedNode Unit))
      (defaultNode : String) (early : List RuntimeMove)
  -- The engine throws, or the new library cannot be opened.
  | activateRefused (path : String)
  | openFailed (path : String)
  | refresh
  | poll
  | stop
  | dispose
  | runtimeMoved (address : Nat) (move : RuntimeMove)
  -- A route has selected a node that is not the default one.
  | nodeStarted (address : Nat)

namespace ClientEngineController

/-- Changes the engine behind the controller. -/
def withEngine (controller : ClientEngineController)
    (change : ClientEngine → ClientEngine) : ClientEngineController :=
  { controller with engine := controller.engine.map change }

def step (controller : ClientEngineController) :
    EngineEvent → Option ClientEngineController
  | .activated path nodes defaultNode early =>
      if controller.disposed then none
      else controller.activate path nodes defaultNode early
  | .activateRefused path =>
      if controller.disposed then none else some (controller.engineFor path)
  | .openFailed path =>
      -- The old engine is destroyed first, and it is kept.
      if controller.disposed ∨ controller.reuses path then none
      else some (controller.withEngine fun engine =>
        { engine with destroyed := true })
  | .refresh => some controller.refresh.2
  | .poll => if controller.polling then some controller.refresh.2 else none
  | .stop => if controller.disposed then none else some controller.stop
  | .dispose =>
      if controller.disposed then some controller
      else some ({ controller with
        disposed := true, polling := false }.withEngine fun engine =>
          { engine with destroyed := true })
  | .runtimeMoved address move =>
      some (controller.withEngine fun engine =>
        engine.changeRuntime address fun runtime =>
          runtime.map fun lifecycle => move.apply lifecycle)
  | .nodeStarted address =>
      some (controller.withEngine fun engine =>
        engine.changeRuntime address fun runtime =>
          some (runtime.getD startedRuntime))

/-- The controller shows the current snapshot of the default node. -/
def Adopted (controller : ClientEngineController) : Prop :=
  ∀ engine snapshot, controller.engine = some engine →
    engine.defaultSnapshot = some snapshot → controller.snapshot = snapshot

/-- The condition on a step: when an activation uses the engine again, the
snapshot that is held has no later revision than the new runtime, and the
default reference, if it is an id, is not the alias of a node that comes
before. -/
def Tame (controller : ClientEngineController) : EngineEvent → Prop
  | .activated path nodes defaultNode early =>
      (controller.reuses path →
        controller.snapshot.revision ≤
          (early.foldl RuntimeMove.apply startedRuntime).snapshot.revision) ∧
      ∀ first ∈ nodes, ∀ second ∈ nodes, first.nodeAlias = defaultNode →
        second.id = defaultNode → second.id ≤ first.id
  | _ => True

def TameStep (controller : ClientEngineController) (event : EngineEvent)
    (after : ClientEngineController) : Prop :=
  controller.step event = some after ∧ controller.Tame event

end ClientEngineController

/-- The events that end with a refresh. -/
def EngineEvent.refreshes : EngineEvent → Bool
  | .activated _ _ _ _ => true
  | .refresh => true
  | .poll => true
  | _ => false

end Velum.Client
