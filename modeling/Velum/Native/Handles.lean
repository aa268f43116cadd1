import Velum.Runtime.ClientRuntime
import Mathlib.Logic.Function.Basic

/-!
# Native handles

Any number of calls of the native library, interleaved at its locks.  The
table of handles is locked for one step at a time.  The command lock of a
client is held across steps; a call holds it by the stage it is in.  The
runtimes move on by themselves between the steps.

A panic ends the process, so no lock is ever poisoned and a call that panics
has no step.
-/

namespace Velum.Native

open Foundation
open Velum.Runtime

/-! ## The table -/

/-- A stream with the generation that it was opened in. -/
structure StreamEntry where
  clientHandle : UInt64
  generation : UInt64
  deriving DecidableEq, Repr

/-- The addresses stand for the shared entries. -/
structure HandleTable where
  nextHandle : UInt64 := 0
  clients : UInt64 → Option Nat := fun _ => none
  streams : UInt64 → Option StreamEntry := fun _ => none
  engines : UInt64 → Option Nat := fun _ => none

namespace HandleTable

def next (table : HandleTable) : Option (UInt64 × HandleTable) :=
  (checkedAdd table.nextHandle 1).map fun handle =>
    (handle, { table with nextHandle := handle })

def insertClient (table : HandleTable) (client : Nat) :
    Option (UInt64 × HandleTable) :=
  table.next.map fun (handle, table) =>
    (handle, { table with
      clients := Function.update table.clients handle (some client) })

def insertStream (table : HandleTable) (clientHandle : UInt64)
    (generation : UInt64) : Option (UInt64 × HandleTable) :=
  table.next.map fun (handle, table) =>
    (handle, { table with
      streams := Function.update table.streams handle
        (some { clientHandle, generation }) })

def insertEngine (table : HandleTable) (engine : Nat) :
    Option (UInt64 × HandleTable) :=
  table.next.map fun (handle, table) =>
    (handle, { table with
      engines := Function.update table.engines handle (some engine) })

def invalidateStreams (table : HandleTable) (clientHandle : UInt64) :
    HandleTable :=
  { table with
    streams := fun handle => (table.streams handle).filter fun stream =>
      stream.clientHandle != clientHandle }

def removeClient (table : HandleTable) (handle : UInt64) : HandleTable :=
  { table with clients := Function.update table.clients handle none }

def removeStream (table : HandleTable) (handle : UInt64) : HandleTable :=
  { table with streams := Function.update table.streams handle none }

def removeEngine (table : HandleTable) (handle : UInt64) : HandleTable :=
  { table with engines := Function.update table.engines handle none }

end HandleTable

/-! ## Calls -/

/-- The calls on one client. -/
inductive Command where
  | openStream
  | runtimeStart
  | runtimeStop
  | retire
  deriving DecidableEq, Repr

inductive Request where
  | client (command : Command) (handle : UInt64)
  | runtimeCreate
  | connect
  | engineCreate
  | engineDestroy (handle : UInt64)
  | streamClose (handle : UInt64)
  deriving DecidableEq, Repr

/-- The statuses of the two kinds of calls. -/
inductive Status where
  | ok
  | invalidHandle
  | busy
  | internal
  | certificate
  | connectTimeout
  | connection
  | controlTooLarge
  | datagramTooLarge
  | datagramUnavailable
  | protocol
  | transport
  deriving DecidableEq, Repr

def statusForClient : ClientError → Status
  | .certificate => .certificate
  | .connectTimeout => .connectTimeout
  | .connection => .connection
  | .controlTooLarge => .controlTooLarge
  | .datagramTooLarge => .datagramTooLarge
  | .datagramUnavailable => .datagramUnavailable
  | .protocol => .protocol
  | .transport => .transport

def statusForRuntime : RuntimeError → Status
  | .client error => statusForClient error
  | _ => .transport

def statusForFailure : RuntimeFailure → Status
  | .certificate => .certificate
  | .connectTimeout => .connectTimeout
  | .connection => .connection
  | .controlTooLarge => .controlTooLarge
  | .datagramTooLarge => .datagramTooLarge
  | .datagramUnavailable => .datagramUnavailable
  | .protocol => .protocol
  | .transport => .transport

/-- The answer of a start. -/
def statusForStart : Except RuntimeError UInt64 → Status
  | .ok _ => .ok
  | .error .busy => .busy
  | .error _ => .internal

structure ClientEntry where
  runtime : System := {}
  -- The flag behind the command lock.
  destroyed : Bool := false

/-- Where a call is suspended. -/
inductive Stage where
  -- The entry of the client has been cloned.
  | found (command : Command) (client : UInt64) (address : Nat)
  | active (client : UInt64) (address : Nat) (generation : UInt64)
  | opened (client : UInt64) (address : Nat) (generation : UInt64)
  | connecting (address : Nat)
  -- The stages from here on hold the command lock of the entry.
  | locked (command : Command) (client : UInt64) (address : Nat)
  | publishing (client : UInt64) (address : Nat) (generation : UInt64)
  | checked (client : UInt64) (address : Nat) (generation : UInt64)
  | invalidated (client : UInt64) (address : Nat)
  | leaving (command : Command) (client : UInt64) (address : Nat)
      (status : Status)
  deriving DecidableEq, Repr

namespace Stage

/-- The entry whose command lock is held. -/
def holds : Stage → Option Nat
  | .locked _ _ address => some address
  | .publishing _ address _ => some address
  | .checked _ address _ => some address
  | .invalidated _ address => some address
  | .leaving _ _ address _ => some address
  | _ => none

/-- The stage after the command lock of an entry has been taken. -/
def acquires : Stage → Option (Nat × Stage)
  | .opened client address generation =>
      some (address, .publishing client address generation)
  | .found .openStream _ _ => none
  | .found command client address =>
      some (address, .locked command client address)
  | _ => none

end Stage

/-- The library with the entries of all clients, the registered ones and the
others. -/
structure Library where
  table : HandleTable := {}
  entries : Nat → ClientEntry := fun _ => {}
  nextAddress : Nat := 0
  calls : Nat → Option Stage := fun _ => none

/-- What is seen of a step. -/
inductive Event where
  | quiet
  | issued (handle : UInt64)
  | answered (request : Request) (status : Status)
  deriving DecidableEq, Repr

/-- The handles in the order in which they were issued. -/
def issued (trace : List Event) : List UInt64 :=
  trace.filterMap fun event =>
    match event with
    | .issued handle => some handle
    | _ => none

/-- Starts and stops are calls; everything else a runtime does by itself. -/
def isCall : System.Label → Bool
  | .start _ => true
  | .stop _ => true
  | _ => false

namespace Library

def setCall (library : Library) (call : Nat) (stage : Option Stage) :
    Library :=
  { library with calls := Function.update library.calls call stage }

def setEntry (library : Library) (address : Nat) (entry : ClientEntry) :
    Library :=
  { library with entries := Function.update library.entries address entry }

def setRuntime (library : Library) (address : Nat) (runtime : System) :
    Library :=
  library.setEntry address { library.entries address with runtime }

/-- A new entry with a runtime. -/
def allocate (library : Library) (runtime : System) : Library :=
  { library.setEntry library.nextAddress { runtime } with
    nextAddress := library.nextAddress + 1 }

/-- No call holds the command lock of the entry. -/
def Free (library : Library) (address : Nat) : Prop :=
  ∀ call stage, library.calls call = some stage →
    stage.holds ≠ some address

def snapshot (library : Library) (address : Nat) : RuntimeSnapshot :=
  (library.entries address).runtime.runtime.snapshots

def isGenerationOnline (library : Library) (address : Nat)
    (generation : UInt64) : Prop :=
  (library.snapshot address).generation = generation ∧
    (library.snapshot address).phase = .online

/-- The generation of the client through which a stream is opened. -/
def activeClient (library : Library) (address : Nat) : Option UInt64 :=
  let inner := (library.entries address).runtime.runtime.inner
  if inner.lifecycle.snapshot.phase ≠ .online then none
  else inner.client.map fun _ => inner.lifecycle.snapshot.generation

/-- The steps of the native library. -/
inductive Step : Library → Event → Library → Prop where
  -- velum_client_runtime_create
  | created {library : Library} {handle : UInt64} {table : HandleTable}
      (inserted : library.table.insertClient library.nextAddress =
        some (handle, table)) :
      Step library (.issued handle) { library.allocate {} with table }
  | createRefused {library : Library}
      (exhausted : library.table.insertClient library.nextAddress = none) :
      Step library (.answered .runtimeCreate .internal) library
  -- velum_client_connect
  | connectStarted {library : Library} {call : Nat} {generation : UInt64}
      {runtime : System} (idle : library.calls call = none)
      (started : System.Step {} (.start (.ok generation)) runtime) :
      Step library .quiet
        ((library.allocate runtime).setCall call
          (some (.connecting library.nextAddress)))
  | connectRefused {library : Library} {error : RuntimeError}
      {runtime : System}
      (refused : System.Step {} (.start (.error error)) runtime) :
      Step library (.answered .connect (statusForRuntime error)) library
  | connected {library : Library} {call address : Nat} {handle : UInt64}
      {table : HandleTable}
      (stage : library.calls call = some (.connecting address))
      (online : (library.snapshot address).phase = .online)
      (inserted : library.table.insertClient address = some (handle, table)) :
      Step library (.issued handle)
        ({ library with table }.setCall call none)
  | connectFailed {library : Library} {call address : Nat}
      (stage : library.calls call = some (.connecting address))
      (failed : (library.snapshot address).phase = .failed) :
      Step library (.answered .connect (statusForFailure
          ((library.snapshot address).failure.getD .transport)))
        (library.setCall call none)
  | connectSuperseded {library : Library} {call address : Nat}
      (stage : library.calls call = some (.connecting address))
      (stopped : (library.snapshot address).phase = .stopped ∨
        (library.snapshot address).phase = .stopping) :
      Step library (.answered .connect .transport)
        (library.setCall call none)
  | connectExhausted {library : Library} {call address : Nat}
      (stage : library.calls call = some (.connecting address))
      (online : (library.snapshot address).phase = .online)
      (exhausted : library.table.insertClient address = none) :
      Step library (.answered .connect .transport)
        (library.setCall call none)
  -- Every call on a client first clones its entry.
  | found {library : Library} {call address : Nat} {command : Command}
      {client : UInt64} (idle : library.calls call = none)
      (other : command ≠ .retire)
      (registered : library.table.clients client = some address) :
      Step library .quiet
        (library.setCall call (some (.found command client address)))
  | unknown {library : Library} {command : Command} {client : UInt64}
      (other : command ≠ .retire)
      (absent : library.table.clients client = none) :
      Step library (.answered (.client command client) .invalidHandle) library
  | acquired {library : Library} {call address : Nat} {before after : Stage}
      (stage : library.calls call = some before)
      (acquires : before.acquires = some (address, after))
      (free : library.Free address) :
      Step library .quiet (library.setCall call (some after))
  | destroyed {library : Library} {call address : Nat} {command : Command}
      {client : UInt64}
      (stage : library.calls call = some (.locked command client address))
      (other : command ≠ .retire)
      (gone : (library.entries address).destroyed = true) :
      Step library .quiet
        (library.setCall call
          (some (.leaving command client address .invalidHandle)))
  | left {library : Library} {call address : Nat} {command : Command}
      {client : UInt64} {status : Status}
      (stage : library.calls call =
        some (.leaving command client address status)) :
      Step library (.answered (.client command client) status)
        (library.setCall call none)
  -- velum_client_open_stream
  | openActive {library : Library} {call address : Nat}
      {client generation : UInt64}
      (stage : library.calls call = some (.found .openStream client address))
      (active : library.activeClient address = some generation) :
      Step library .quiet
        (library.setCall call (some (.active client address generation)))
  | openInactive {library : Library} {call address : Nat} {client : UInt64}
      (stage : library.calls call = some (.found .openStream client address))
      (inactive : library.activeClient address = none) :
      Step library
        (.answered (.client .openStream client) (statusForRuntime .notOnline))
        (library.setCall call none)
  | opened {library : Library} {call address : Nat}
      {client generation : UInt64}
      (stage : library.calls call =
        some (.active client address generation))
      (online : library.isGenerationOnline address generation) :
      Step library .quiet
        (library.setCall call (some (.opened client address generation)))
  | openFailed {library : Library} {call address : Nat}
      {client generation : UInt64} {error : ClientError}
      (stage : library.calls call =
        some (.active client address generation)) :
      Step library (.answered (.client .openStream client)
          (statusForRuntime (.client error)))
        (library.setCall call none)
  | openSuperseded {library : Library} {call address : Nat}
      {client generation : UInt64}
      (stage : library.calls call =
        some (.active client address generation))
      (offline : ¬ library.isGenerationOnline address generation) :
      Step library (.answered (.client .openStream client)
          (statusForRuntime .superseded))
        (library.setCall call none)
  | publishRefused {library : Library} {call address : Nat}
      {client generation : UInt64}
      (stage : library.calls call =
        some (.publishing client address generation))
      (refused : (library.entries address).destroyed = true ∨
        ¬ library.isGenerationOnline address generation) :
      Step library .quiet
        (library.setCall call
          (some (.leaving .openStream client address .transport)))
  | publishChecked {library : Library} {call address : Nat}
      {client generation : UInt64}
      (stage : library.calls call =
        some (.publishing client address generation))
      (alive : (library.entries address).destroyed = false)
      (online : library.isGenerationOnline address generation) :
      Step library .quiet
        (library.setCall call (some (.checked client address generation)))
  | publishUnregistered {library : Library} {call address : Nat}
      {client generation : UInt64}
      (stage : library.calls call =
        some (.checked client address generation))
      (other : library.table.clients client ≠ some address) :
      Step library .quiet
        (library.setCall call
          (some (.leaving .openStream client address .invalidHandle)))
  | published {library : Library} {call address : Nat}
      {client generation handle : UInt64} {table : HandleTable}
      (stage : library.calls call =
        some (.checked client address generation))
      (same : library.table.clients client = some address)
      (inserted : library.table.insertStream client generation =
        some (handle, table)) :
      Step library (.issued handle)
        ({ library with table }.setCall call
          (some (.leaving .openStream client address .ok)))
  | publishExhausted {library : Library} {call address : Nat}
      {client generation : UInt64}
      (stage : library.calls call =
        some (.checked client address generation))
      (same : library.table.clients client = some address)
      (exhausted : library.table.insertStream client generation = none) :
      Step library .quiet
        (library.setCall call
          (some (.leaving .openStream client address .transport)))
  -- velum_client_runtime_start_v1
  | started {library : Library} {call address : Nat} {client : UInt64}
      {runtime : System} {answer : Except RuntimeError UInt64}
      (stage : library.calls call =
        some (.locked .runtimeStart client address))
      (alive : (library.entries address).destroyed = false)
      (answered : System.Step (library.entries address).runtime
        (.start answer) runtime) :
      Step library .quiet
        ((library.setRuntime address runtime).setCall call
          (some (.leaving .runtimeStart client address
            (statusForStart answer))))
  -- velum_client_runtime_stop
  | invalidated {library : Library} {call address : Nat} {client : UInt64}
      (stage : library.calls call =
        some (.locked .runtimeStop client address))
      (alive : (library.entries address).destroyed = false) :
      Step library .quiet
        ({ library with
            table := library.table.invalidateStreams client }.setCall call
          (some (.invalidated client address)))
  | stopped {library : Library} {call address : Nat}
      {client generation : UInt64} {runtime : System}
      (stage : library.calls call = some (.invalidated client address))
      (returned : System.Step (library.entries address).runtime
        (.stop generation) runtime) :
      Step library .quiet
        ((library.setRuntime address runtime).setCall call
          (some (.leaving .runtimeStop client address .ok)))
  -- velum_client_close, velum_client_runtime_destroy
  | retiring {library : Library} {call address : Nat} {client : UInt64}
      (idle : library.calls call = none)
      (registered : library.table.clients client = some address) :
      Step library .quiet
        ({ library with
            table := (library.table.invalidateStreams client).removeClient
              client }.setCall call
          (some (.found .retire client address)))
  | retireUnknown {library : Library} {client : UInt64}
      (absent : library.table.clients client = none) :
      Step library (.answered (.client .retire client) .invalidHandle)
        { library with table := library.table.invalidateStreams client }
  | retired {library : Library} {call address : Nat}
      {client generation : UInt64} {runtime : System}
      (stage : library.calls call = some (.locked .retire client address))
      (returned : System.Step (library.entries address).runtime
        (.stop generation) runtime) :
      Step library .quiet
        ((library.setEntry address { runtime, destroyed := true }).setCall
          call (some (.leaving .retire client address .ok)))
  -- Engines and streams.  The rest of the destruction of an engine is behind
  -- the lock of its own entry.
  | engineCreated {library : Library} {engine : Nat} {handle : UInt64}
      {table : HandleTable}
      (inserted : library.table.insertEngine engine = some (handle, table)) :
      Step library (.issued handle) { library with table }
  | engineRefused {library : Library} {engine : Nat}
      (exhausted : library.table.insertEngine engine = none) :
      Step library (.answered .engineCreate .internal) library
  | engineDestroyed {library : Library} {handle : UInt64} :
      Step library (.answered (.engineDestroy handle)
          (if (library.table.engines handle).isSome then .ok
            else .invalidHandle))
        { library with table := library.table.removeEngine handle }
  | streamClosed {library : Library} {handle : UInt64} :
      Step library (.answered (.streamClose handle)
          (if (library.table.streams handle).isSome then .ok
            else .invalidHandle))
        { library with table := library.table.removeStream handle }
  -- A connection task, or the network.
  | runtimeMoved {library : Library} {address : Nat} {runtime : System}
      {label : System.Label} (uncalled : isCall label = false)
      (moved : System.Step (library.entries address).runtime label
        runtime) :
      Step library .quiet (library.setRuntime address runtime)

end Library

end Velum.Native
