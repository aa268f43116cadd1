import Velum.Foundation.OrderedMap
import Velum.Foundation.TransitionSystem
import Velum.Runtime.Lifecycle
import Mathlib.Data.String.Basic
import Mathlib.Logic.Function.Basic

/-!
# The pool of node runtimes

Any number of calls on one pool, interleaved at their locks and awaits.  The
lock of the pool is never held across an await, so each section under it is
one step.  The lock of an entry is held across the start and the stop of its
runtime; a call holds it by the stage it is in.
-/

namespace Velum.Runtime

open Foundation

/-- One resolved node of a profile. -/
structure ResolvedNode (Configuration : Type) where
  id : String
  nodeAlias : String
  configuration : Configuration

/-- The part of an entry that does not change.  The address stands for the
lock with the runtime behind it. -/
structure NodeEntry (Configuration : Type) where
  address : Nat
  nodeAlias : String
  configuration : Configuration

structure PoolState (Configuration : Type) where
  generation : UInt64 := 0
  defaultNode : String := ""
  nodes : OrderedMap String (NodeEntry Configuration) := .empty
  aliases : OrderedMap String String := .empty

inductive NodePoolError where
  | empty
  | duplicateNode
  | missingDefault
  | unknownNode
  | superseded
  | connectionFailed
  | runtime (error : RuntimeError)
  deriving DecidableEq, Repr

namespace PoolState

variable {Configuration : Type}

/-- The locks of the entries, in the order in which they are drained. -/
def addresses (state : PoolState Configuration) : List Nat :=
  state.nodes.entries.map fun entry => entry.2.address

/-- The loop of `prepare`, with the address of the next entry. -/
def prepareNodes (ids : List String) (aliases : OrderedMap String String)
    (entries : OrderedMap String (NodeEntry Configuration))
    (address : Nat) : List (ResolvedNode Configuration) →
    Except NodePoolError (OrderedMap String String ×
      OrderedMap String (NodeEntry Configuration) × Nat)
  | [] => .ok (aliases, entries, address)
  | node :: rest =>
      if node.id.isEmpty ∨ node.nodeAlias.isEmpty ∨ node.id ∈ ids ∨
          aliases.contains node.nodeAlias then .error .duplicateNode
      else
        prepareNodes (node.id :: ids) (aliases.insert node.nodeAlias node.id)
          (entries.insert node.id
            { address, nodeAlias := node.nodeAlias
              configuration := node.configuration })
          (address + 1) rest

def prepare (address : Nat) (nodes : List (ResolvedNode Configuration))
    (defaultNode : String) :
    Except NodePoolError (PoolState Configuration × Nat) :=
  if nodes.isEmpty then .error .empty
  else
    match prepareNodes [] .empty .empty address nodes with
    | .error failure => .error failure
    | .ok (aliases, entries, next) =>
        if entries.contains defaultNode then
          .ok ({ defaultNode, nodes := entries, aliases }, next)
        else
          match aliases.get? defaultNode with
          | none => .error .missingDefault
          | some resolved =>
              .ok ({ defaultNode := resolved, nodes := entries, aliases },
                next)

/-- The entry that a reference selects. -/
def select (state : PoolState Configuration) (reference : String) :
    Except NodePoolError (NodeEntry Configuration) :=
  let id :=
    if reference = "PROXY" then some state.defaultNode
    else if state.nodes.contains reference then some reference
    else state.aliases.get? reference
  match id.bind state.nodes.get? with
  | none => .error .unknownNode
  | some entry => .ok entry

end PoolState

/-- What a call does with the runtime of an entry. -/
inductive Purpose where
  | runtimeFor
  | openStream
  deriving DecidableEq, Repr

/-- The call that drains a replaced state. -/
inductive Drainer where
  | activate
  | stop
  deriving DecidableEq, Repr

/-- Where a call is suspended. -/
inductive Stage (Configuration : Type) where
  | activateStart (prepared : PoolState Configuration) (address : Nat)
  | activateStore (prepared : PoolState Configuration) (address runtime : Nat)
  | activateDraw (prepared : PoolState Configuration)
  | activateInstall (prepared : PoolState Configuration) (generation : UInt64)
  | drain (remaining : List Nat) (drainer : Drainer)
  | drainStop (address runtime : Nat) (remaining : List Nat)
      (drainer : Drainer)
  | resolve (reference : String) (generation : UInt64) (purpose : Purpose)
  | lock (generation : UInt64) (address : Nat) (purpose : Purpose)
  | start (generation : UInt64) (address : Nat) (purpose : Purpose)
  | recheck (generation : UInt64) (address runtime : Nat) (purpose : Purpose)
  | store (generation : UInt64) (address runtime : Nat) (purpose : Purpose)
  | discard (address runtime : Nat)
  | openStream (generation : UInt64) (runtime : Nat)
  | openRecheck (generation : UInt64)

/-- The lock of an entry that is held across the await of a stage. -/
def Stage.holds {Configuration : Type} : Stage Configuration → Option Nat
  | .drainStop address _ _ _ => some address
  | .start _ address _ => some address
  | .recheck _ address _ _ => some address
  | .store _ address _ _ => some address
  | .discard address _ => some address
  | _ => none

/-- The pool, the runtimes behind the locks of all entries, the calls in
progress, and which runtimes were started for which entry and stopped. -/
structure NodePool (Configuration : Type) where
  state : PoolState Configuration := {}
  nextGeneration : UInt64 := 1
  slot : Nat → Option Nat := fun _ => none
  calls : Nat → Option (Stage Configuration) := fun _ => none
  nextAddress : Nat := 0
  nextRuntime : Nat := 0
  home : Nat → Nat := fun _ => 0
  stopped : List Nat := []
  superseded : List (PoolState Configuration) := []

namespace NodePool

variable {Configuration : Type}

def setCall (pool : NodePool Configuration) (call : Nat)
    (stage : Option (Stage Configuration)) : NodePool Configuration :=
  { pool with calls := Function.update pool.calls call stage }

def setSlot (pool : NodePool Configuration) (address : Nat)
    (runtime : Option Nat) : NodePool Configuration :=
  { pool with slot := Function.update pool.slot address runtime }

/-- `RuntimeFactory::start` returned a runtime for an entry. -/
def startRuntime (pool : NodePool Configuration) (address : Nat) :
    NodePool Configuration :=
  { pool with
    nextRuntime := pool.nextRuntime + 1
    home := Function.update pool.home pool.nextRuntime address }

def stopRuntime (pool : NodePool Configuration) (runtime : Nat) :
    NodePool Configuration :=
  { pool with stopped := runtime :: pool.stopped }

/-- Replaces the state under the write lock. -/
def replace (pool : NodePool Configuration)
    (state : PoolState Configuration) : NodePool Configuration :=
  { pool with state, superseded := pool.state :: pool.superseded }

/-- No call holds the lock of the entry. -/
def Free (pool : NodePool Configuration) (address : Nat) : Prop :=
  ∀ call stage, pool.calls call = some stage → stage.holds ≠ some address

theorem calls_setCall_self (pool : NodePool Configuration) (call : Nat)
    (stage : Option (Stage Configuration)) :
    (pool.setCall call stage).calls call = stage := by
  change Function.update pool.calls call stage call = _
  rw [Function.update_self]

theorem calls_setCall_of_ne (pool : NodePool Configuration)
    {call other : Nat} (stage : Option (Stage Configuration))
    (different : other ≠ call) :
    (pool.setCall call stage).calls other = pool.calls other := by
  change Function.update pool.calls call stage other = _
  rw [Function.update_of_ne different]

theorem free_setCall {pool : NodePool Configuration} {address : Nat}
    (free : pool.Free address) (call : Nat)
    {stage : Option (Stage Configuration)}
    (unheld : stage.bind Stage.holds ≠ some address) :
    (pool.setCall call stage).Free address := by
  intro other found present
  change Function.update pool.calls call stage other = _ at present
  by_cases same : other = call
  · rw [same, Function.update_self] at present
    rw [present] at unheld
    exact unheld
  · rw [Function.update_of_ne same] at present
    exact free other found present

/-- What is seen of a step: a generation that is read, drawn from the counter,
or installed. -/
inductive Event where
  | quiet
  | read (generation : UInt64)
  | draw (generation : UInt64)
  | install (generation : UInt64)
  | drawAndInstall (generation : UInt64)
  deriving DecidableEq, Repr

/-- The stage after a runtime was obtained. -/
def Purpose.next (generation : UInt64) (runtime : Nat) :
    Purpose → Option (Stage Configuration)
  | .runtimeFor => none
  | .openStream => some (.openStream generation runtime)

inductive Step :
    NodePool Configuration → Event → NodePool Configuration → Prop where
  -- generation
  | generation {pool : NodePool Configuration} :
      Step pool (.read pool.state.generation) pool
  -- activate
  | activateRefused {pool : NodePool Configuration}
      {nodes : List (ResolvedNode Configuration)} {defaultNode : String}
      {failure : NodePoolError}
      (refused : PoolState.prepare pool.nextAddress nodes defaultNode =
        .error failure) :
      Step pool .quiet pool
  | activate {pool : NodePool Configuration} {call nextAddress : Nat}
      {nodes : List (ResolvedNode Configuration)} {defaultNode : String}
      {prepared : PoolState Configuration} {entry : NodeEntry Configuration}
      (idle : pool.calls call = none)
      (accepted : PoolState.prepare pool.nextAddress nodes defaultNode =
        .ok (prepared, nextAddress))
      (found : prepared.nodes.get? prepared.defaultNode = some entry) :
      Step pool .quiet
        ({ pool with nextAddress }.setCall call
          (some (.activateStart prepared entry.address)))
  | activateStartFailed {pool : NodePool Configuration}
      {call address : Nat} {prepared : PoolState Configuration}
      (stage : pool.calls call = some (.activateStart prepared address)) :
      Step pool .quiet (pool.setCall call none)
  | activateStarted {pool : NodePool Configuration} {call address : Nat}
      {prepared : PoolState Configuration}
      (stage : pool.calls call = some (.activateStart prepared address)) :
      Step pool .quiet
        ((pool.startRuntime address).setCall call
          (some (.activateStore prepared address pool.nextRuntime)))
  | activateStored {pool : NodePool Configuration}
      {call address runtime : Nat} {prepared : PoolState Configuration}
      (stage : pool.calls call =
        some (.activateStore prepared address runtime))
      (free : pool.Free address) :
      Step pool .quiet
        ((pool.setSlot address (some runtime)).setCall call
          (some (.activateDraw prepared)))
  | activateDrawn {pool : NodePool Configuration} {call : Nat}
      {prepared : PoolState Configuration}
      (stage : pool.calls call = some (.activateDraw prepared)) :
      Step pool (.draw pool.nextGeneration)
        ({ pool with nextGeneration := pool.nextGeneration + 1 }.setCall call
          (some (.activateInstall prepared pool.nextGeneration)))
  | activateInstalled {pool : NodePool Configuration}
      {call : Nat} {generation : UInt64} {prepared : PoolState Configuration}
      (stage : pool.calls call =
        some (.activateInstall prepared generation)) :
      Step pool (.install generation)
        ((pool.replace { prepared with generation }).setCall call
          (some (.drain pool.state.addresses .activate)))
  | activateDone {pool : NodePool Configuration} {call : Nat}
      (stage : pool.calls call = some (.drain [] .activate)) :
      Step pool .quiet (pool.setCall call none)
  -- stop
  | stop {pool : NodePool Configuration} {call : Nat}
      (idle : pool.calls call = none) :
      Step pool (.drawAndInstall pool.nextGeneration)
        (({ pool with nextGeneration := pool.nextGeneration + 1 }.replace
            { generation := pool.nextGeneration }).setCall call
          (some (.drain pool.state.addresses .stop)))
  | stopDone {pool : NodePool Configuration} {call : Nat}
      (stage : pool.calls call = some (.drain [] .stop)) :
      Step pool (.read pool.state.generation) (pool.setCall call none)
  -- stop_state
  | drainEmpty {pool : NodePool Configuration} {call address : Nat}
      {remaining : List Nat} {drainer : Drainer}
      (stage : pool.calls call = some (.drain (address :: remaining) drainer))
      (free : pool.Free address) (empty : pool.slot address = none) :
      Step pool .quiet
        (pool.setCall call (some (.drain remaining drainer)))
  | drainTaken {pool : NodePool Configuration}
      {call address runtime : Nat} {remaining : List Nat}
      {drainer : Drainer}
      (stage : pool.calls call = some (.drain (address :: remaining) drainer))
      (free : pool.Free address) (taken : pool.slot address = some runtime) :
      Step pool .quiet
        ((pool.setSlot address none).setCall call
          (some (.drainStop address runtime remaining drainer)))
  | drainStopped {pool : NodePool Configuration}
      {call address runtime : Nat} {remaining : List Nat}
      {drainer : Drainer}
      (stage : pool.calls call =
        some (.drainStop address runtime remaining drainer)) :
      Step pool .quiet
        ((pool.stopRuntime runtime).setCall call
          (some (.drain remaining drainer)))
  -- runtime_for and open_stream
  | runtimeFor {pool : NodePool Configuration} {call : Nat}
      {reference : String} {purpose : Purpose}
      (idle : pool.calls call = none) :
      Step pool (.read pool.state.generation)
        (pool.setCall call
          (some (.resolve reference pool.state.generation purpose)))
  | resolveRefused {pool : NodePool Configuration} {call : Nat}
      {generation : UInt64} {reference : String} {purpose : Purpose}
      {failure : NodePoolError}
      (stage : pool.calls call =
        some (.resolve reference generation purpose))
      (refused : pool.state.generation ≠ generation ∨
        pool.state.select reference = .error failure) :
      Step pool .quiet (pool.setCall call none)
  | resolved {pool : NodePool Configuration} {call : Nat} {generation : UInt64}
      {reference : String} {purpose : Purpose}
      {entry : NodeEntry Configuration}
      (stage : pool.calls call =
        some (.resolve reference generation purpose))
      (current : pool.state.generation = generation)
      (selected : pool.state.select reference = .ok entry) :
      Step pool .quiet
        (pool.setCall call (some (.lock generation entry.address purpose)))
  | lockedStarted {pool : NodePool Configuration}
      {call address runtime : Nat} {generation : UInt64} {purpose : Purpose}
      (stage : pool.calls call = some (.lock generation address purpose))
      (free : pool.Free address) (present : pool.slot address = some runtime) :
      Step pool .quiet
        (pool.setCall call (Purpose.next generation runtime purpose))
  | lockedEmpty {pool : NodePool Configuration}
      {call address : Nat} {generation : UInt64} {purpose : Purpose}
      (stage : pool.calls call = some (.lock generation address purpose))
      (free : pool.Free address) (empty : pool.slot address = none) :
      Step pool .quiet
        (pool.setCall call (some (.start generation address purpose)))
  | startFailed {pool : NodePool Configuration}
      {call address : Nat} {generation : UInt64} {purpose : Purpose}
      (stage : pool.calls call = some (.start generation address purpose)) :
      Step pool .quiet (pool.setCall call none)
  | started {pool : NodePool Configuration}
      {call address : Nat} {generation : UInt64} {purpose : Purpose}
      (stage : pool.calls call = some (.start generation address purpose)) :
      Step pool .quiet
        ((pool.startRuntime address).setCall call
          (some (.recheck generation address pool.nextRuntime purpose)))
  | recheckPassed {pool : NodePool Configuration}
      {call address runtime : Nat} {generation : UInt64} {purpose : Purpose}
      (stage : pool.calls call =
        some (.recheck generation address runtime purpose))
      (current : pool.state.generation = generation) :
      Step pool (.read pool.state.generation)
        (pool.setCall call (some (.store generation address runtime purpose)))
  | recheckFailed {pool : NodePool Configuration}
      {call address runtime : Nat} {generation : UInt64} {purpose : Purpose}
      (stage : pool.calls call =
        some (.recheck generation address runtime purpose))
      (superseded : pool.state.generation ≠ generation) :
      Step pool (.read pool.state.generation)
        (pool.setCall call (some (.discard address runtime)))
  | stored {pool : NodePool Configuration}
      {call address runtime : Nat} {generation : UInt64} {purpose : Purpose}
      (stage : pool.calls call =
        some (.store generation address runtime purpose)) :
      Step pool .quiet
        ((pool.setSlot address (some runtime)).setCall call
          (Purpose.next generation runtime purpose))
  | discarded {pool : NodePool Configuration} {call address runtime : Nat}
      (stage : pool.calls call = some (.discard address runtime)) :
      Step pool .quiet ((pool.stopRuntime runtime).setCall call none)
  | openFailed {pool : NodePool Configuration}
      {call runtime : Nat} {generation : UInt64}
      (stage : pool.calls call = some (.openStream generation runtime)) :
      Step pool .quiet (pool.setCall call none)
  | opened {pool : NodePool Configuration} {call runtime : Nat}
      {generation : UInt64}
      (stage : pool.calls call = some (.openStream generation runtime)) :
      Step pool .quiet (pool.setCall call (some (.openRecheck generation)))
  | openDone {pool : NodePool Configuration} {call : Nat} {generation : UInt64}
      (stage : pool.calls call = some (.openRecheck generation)) :
      Step pool (.read pool.state.generation) (pool.setCall call none)

end NodePool

end Velum.Runtime
