import Velum.Native.Handles

/-!
# Safety of native handles

A stream is inserted only while its client is registered and while the
inserting call holds the command lock of the entry, and a stop of the client
holds that lock from before the invalidation of its streams until the runtime
has left the generation.
-/

namespace Velum.Native

open Foundation
open Velum.Runtime

/-! ## Generations that are over -/

/-- A runtime that neither is online nor can become so in its generation. -/
def Steady (snapshot : RuntimeSnapshot) : Prop :=
  snapshot.phase ≠ .connecting ∧ snapshot.phase ≠ .online

def Over (generation : UInt64) (snapshot : RuntimeSnapshot) : Prop :=
  generation < snapshot.generation ∨
    generation = snapshot.generation ∧ Steady snapshot

/-- What a step of a runtime does to its snapshot. -/
theorem moved_of_step {system next : System} {label : System.Label}
    (consistent : system.Consistent)
    (step : System.Step system label next) :
    next.runtime.snapshots = system.runtime.snapshots ∨
      system.runtime.snapshots.generation ≤
          next.runtime.snapshots.generation ∧
        (isCall label = true ∧ system.runtime.snapshots.generation <
            next.runtime.snapshots.generation ∨
          ¬ Steady system.runtime.snapshots) := by
  rw [consistent.published]
  cases step with
  | start returned =>
      unfold ClientRuntime.startWith at returned
      split at returned
      · cases returned
      · cases returned
      rename_i opened lifecycle begun
      cases returned
      obtain ⟨_, follows, newer, current, _⟩ :=
        Lifecycle.beginConnect_ok begun
      refine .inr ⟨follows.2, .inl ⟨rfl, ?_⟩⟩
      change _ < lifecycle.snapshot.generation
      rw [current]
      exact newer
  | startRefused refused => exact .inl consistent.published
  | completed running own returned =>
      rcases System.completeConnect_connected returned with
        rfl | ⟨_, phase, lifecycle, follows, _, _, rfl⟩
      · exact .inl consistent.published
      · refine .inr ⟨follows.2, .inr ?_⟩
        intro steady
        exact steady.1 phase
  | connectFailed running returned =>
      rcases System.completeConnect_failed returned with
        rfl | ⟨_, phase, lifecycle, follows, _, rfl⟩
      · exact .inl consistent.published
      · refine .inr ⟨follows.2, .inr ?_⟩
        intro steady
        exact steady.1 phase
  | closedByPeer alive => exact .inl consistent.published
  | closureCompleted watching ended returned =>
      unfold ClientRuntime.completeConnectionClosed at returned
      split at returned
      · cases returned
      · cases returned
      · cases returned
        exact .inl consistent.published
      · rename_i lifecycle failed
        cases returned
        obtain ⟨impossible, _⟩ | ⟨_, _, online, follows, _⟩ :=
          Lifecycle.failOnline_ok failed
        · cases impossible
        · refine .inr ⟨follows.2, .inr ?_⟩
          intro steady
          exact steady.2 online
  | stop returned =>
      unfold ClientRuntime.stop at returned
      split at returned
      · cases returned
      · cases returned
      · cases returned
        exact .inl consistent.published
      · rename_i opened stopping begun
        obtain ⟨_, impossible, _⟩ |
            ⟨generation, same, _, newer, current, phase⟩ :=
          Lifecycle.beginStop_ok begun
        · cases impossible
        cases same
        split at returned
        · cases returned
        · cases returned
        rename_i completed lifecycle ended
        cases returned
        obtain ⟨_, later, _⟩ := Lifecycle.completeStop_ok ⟨current, phase⟩ ended
        have grown := later.2
        rw [current] at grown
        have above := UInt64.lt_of_lt_of_le newer grown
        exact .inr ⟨UInt64.le_of_lt above, .inl ⟨rfl, above⟩⟩
  | dropped cancelled => exact .inl consistent.published
  | droppedConnected cancelled running => exact .inl consistent.published

theorem steady_of_stop {system next : System} {generation : UInt64}
    (consistent : system.Consistent)
    (step : System.Step system (.stop generation) next) :
    Steady next.runtime.snapshots := by
  cases step with
  | stop returned =>
      unfold ClientRuntime.stop at returned
      split at returned
      · cases returned
      · cases returned
      · rename_i unchanged begun
        cases returned
        obtain ⟨stopped, _, _⟩ | ⟨generation, impossible, _⟩ :=
          Lifecycle.beginStop_ok begun
        · unfold Steady
          change system.runtime.snapshots.phase ≠ _ ∧
            system.runtime.snapshots.phase ≠ _
          rw [consistent.published, stopped]
          decide
        · cases impossible
      · rename_i opened stopping begun
        obtain ⟨_, impossible, _⟩ |
            ⟨generation, same, _, _, current, phase⟩ :=
          Lifecycle.beginStop_ok begun
        · cases impossible
        cases same
        split at returned
        · cases returned
        · cases returned
        rename_i completed lifecycle ended
        cases returned
        obtain ⟨_, _, stopped⟩ :=
          Lifecycle.completeStop_ok ⟨current, phase⟩ ended
        unfold Steady
        change lifecycle.snapshot.phase ≠ _ ∧ lifecycle.snapshot.phase ≠ _
        rw [stopped]
        decide

theorem generation_le_of_step {system next : System} {label : System.Label}
    (consistent : system.Consistent)
    (step : System.Step system label next) :
    system.runtime.snapshots.generation ≤
      next.runtime.snapshots.generation := by
  rcases moved_of_step consistent step with same | ⟨grown, _⟩
  · rw [same]
    exact UInt64.le_refl _
  · exact grown

theorem over_of_step {system next : System} {label : System.Label}
    {generation : UInt64} (consistent : system.Consistent)
    (finished : Over generation system.runtime.snapshots)
    (step : System.Step system label next) :
    Over generation next.runtime.snapshots := by
  rcases moved_of_step consistent step with same | ⟨grown, moved⟩
  · rw [same]
    exact finished
  · rcases finished with earlier | ⟨rfl, steady⟩
    · exact .inl (UInt64.lt_of_lt_of_le earlier grown)
    · rcases moved with ⟨_, newer⟩ | unsteady
      · exact .inl newer
      · exact absurd steady unsteady

theorem steady_of_own {system next : System} {label : System.Label}
    (consistent : system.Consistent)
    (steady : Steady system.runtime.snapshots)
    (uncalled : isCall label = false)
    (step : System.Step system label next) :
    Steady next.runtime.snapshots := by
  rcases moved_of_step consistent step with same | ⟨_, ⟨called, _⟩ | unsteady⟩
  · rw [same]
    exact steady
  · rw [uncalled] at called
    cases called
  · exact absurd steady unsteady

/-! ## The table -/

/-- The handle stands for the entry, or for none any more. -/
def Bound (table : HandleTable) (client : UInt64) (address : Nat) : Prop :=
  client ≤ table.nextHandle ∧
    ∀ other, table.clients client = some other → other = address

def Gone (table : HandleTable) (client : UInt64) : Prop :=
  client ≤ table.nextHandle ∧ table.clients client = none

def Streamless (table : HandleTable) (client : UInt64) : Prop :=
  ∀ handle stream, table.streams handle = some stream →
    stream.clientHandle ≠ client

/-- Every stream belongs to a registered client, and no handle is above the
counter. -/
structure Tidy (table : HandleTable) : Prop where
  below : ∀ client address, table.clients client = some address →
    client ≤ table.nextHandle
  registered : ∀ handle stream, table.streams handle = some stream →
    (table.clients stream.clientHandle).isSome = true

/-- Handles that have been issued are at most removed. -/
structure Grows (table next : HandleTable) : Prop where
  counter : table.nextHandle ≤ next.nextHandle
  clients : ∀ client address, client ≤ table.nextHandle →
    next.clients client = some address →
      table.clients client = some address

namespace Grows

variable {table next : HandleTable} {client : UInt64}

theorem bound {address : Nat} (grows : Grows table next)
    (bound : Bound table client address) : Bound next client address := by
  refine ⟨UInt64.le_trans bound.1 grows.counter, ?_⟩
  intro other present
  exact bound.2 other (grows.clients client other bound.1 present)

theorem gone (grows : Grows table next) (gone : Gone table client) :
    Gone next client := by
  refine ⟨UInt64.le_trans gone.1 grows.counter, ?_⟩
  cases present : next.clients client with
  | none => rfl
  | some address =>
      have earlier := grows.clients client address gone.1 present
      rw [gone.2] at earlier
      cases earlier

theorem trans {last : HandleTable} (grows : Grows table next)
    (later : Grows next last) : Grows table last := by
  refine ⟨UInt64.le_trans grows.counter later.counter, ?_⟩
  intro client address below present
  have kept := later.clients client address
    (UInt64.le_trans below grows.counter) present
  exact grows.clients client address below kept

theorem sameClients (counter : table.nextHandle ≤ next.nextHandle)
    (clients : next.clients = table.clients) : Grows table next := by
  refine ⟨counter, ?_⟩
  intro client address _ present
  rw [clients] at present
  exact present

end Grows

namespace HandleTable

variable {table next : HandleTable} {handle : UInt64}

theorem next_spec (drawn : table.next = some (handle, next)) :
    table.nextHandle < handle ∧
      next = { table with nextHandle := handle } := by
  obtain ⟨drawn, added, same⟩ := Option.map_eq_some_iff.mp drawn
  cases same
  exact ⟨Lifecycle.lt_of_checkedAdd added, rfl⟩

theorem insertClient_spec {address : Nat}
    (inserted : table.insertClient address = some (handle, next)) :
    table.nextHandle < handle ∧
      next = { table with
        nextHandle := handle
        clients := Function.update table.clients handle (some address) } := by
  obtain ⟨⟨drawn, grown⟩, made, same⟩ := Option.map_eq_some_iff.mp inserted
  obtain ⟨newer, rfl⟩ := next_spec made
  cases same
  exact ⟨newer, rfl⟩

theorem grows_insertClient {address : Nat}
    (inserted : table.insertClient address = some (handle, next)) :
    Grows table next := by
  obtain ⟨newer, rfl⟩ := insertClient_spec inserted
  refine ⟨UInt64.le_of_lt newer, ?_⟩
  intro client owner below present
  have updated : Function.update table.clients handle (some address) client =
      some owner := present
  rw [Function.update_of_ne] at updated
  · exact updated
  · rintro rfl
    exact absurd newer (UInt64.not_lt.mpr below)

theorem insertStream_spec {client generation : UInt64}
    (inserted : table.insertStream client generation =
      some (handle, next)) :
    table.nextHandle < handle ∧
      next = { table with
        nextHandle := handle
        streams := Function.update table.streams handle
          (some ⟨client, generation⟩) } := by
  obtain ⟨⟨drawn, grown⟩, made, same⟩ := Option.map_eq_some_iff.mp inserted
  obtain ⟨newer, rfl⟩ := next_spec made
  cases same
  exact ⟨newer, rfl⟩

theorem insertEngine_spec {engine : Nat}
    (inserted : table.insertEngine engine = some (handle, next)) :
    table.nextHandle < handle ∧
      next = { table with
        nextHandle := handle
        engines := Function.update table.engines handle (some engine) } := by
  obtain ⟨⟨drawn, grown⟩, made, same⟩ := Option.map_eq_some_iff.mp inserted
  obtain ⟨newer, rfl⟩ := next_spec made
  cases same
  exact ⟨newer, rfl⟩

theorem invalidateStreams_kept {client : UInt64} {stream : StreamEntry}
    (present : (table.invalidateStreams client).streams handle =
      some stream) :
    table.streams handle = some stream ∧ stream.clientHandle ≠ client := by
  have kept := Option.filter_eq_some_iff.mp present
  exact ⟨kept.1, by simpa using kept.2⟩

theorem streamless_invalidateStreams (table : HandleTable)
    (client : UInt64) :
    Streamless (table.invalidateStreams client) client := by
  intro handle stream present
  exact (invalidateStreams_kept present).2

theorem removeStream_kept {removed : UInt64} {stream : StreamEntry}
    (present : (table.removeStream removed).streams handle = some stream) :
    table.streams handle = some stream := by
  have updated : Function.update table.streams removed none handle =
      some stream := present
  by_cases same : handle = removed
  · rw [same, Function.update_self] at updated
    cases updated
  · rw [Function.update_of_ne same] at updated
    exact updated

theorem removeClient_kept {removed client : UInt64} {address : Nat}
    (present : (table.removeClient removed).clients client = some address) :
    client ≠ removed ∧ table.clients client = some address := by
  have updated : Function.update table.clients removed none client =
      some address := present
  by_cases same : client = removed
  · rw [same, Function.update_self] at updated
    cases updated
  · rw [Function.update_of_ne same] at updated
    exact ⟨same, updated⟩

theorem grows_retire (table : HandleTable) (client : UInt64) :
    Grows table ((table.invalidateStreams client).removeClient client) := by
  refine ⟨UInt64.le_refl _, ?_⟩
  intro other owner _ present
  exact (removeClient_kept present).2

end HandleTable

namespace Library

variable (library : Library)

theorem snapshot_setEntry_self (address : Nat) (entry : ClientEntry) :
    (library.setEntry address entry).snapshot address =
      entry.runtime.runtime.snapshots := by
  simp only [snapshot, setEntry, Function.update_self]

theorem snapshot_setEntry_of_ne {address other : Nat}
    (different : other ≠ address) (entry : ClientEntry) :
    (library.setEntry address entry).snapshot other =
      library.snapshot other := by
  simp only [snapshot, setEntry, Function.update_of_ne different]

end Library

/-! ## What holds between the steps -/

namespace Stage

/-- The client whose streams a stop has invalidated while it still holds the
command lock. -/
def clears : Stage → Option UInt64
  | .invalidated client _ => some client
  | .leaving .runtimeStop client _ .ok => some client
  | _ => none

/-- The client that a call has found, and its entry. -/
def target : Stage → Option (UInt64 × Nat)
  | .found _ client address => some (client, address)
  | .active client address _ => some (client, address)
  | .opened client address _ => some (client, address)
  | .connecting _ => none
  | .locked _ client address => some (client, address)
  | .publishing client address _ => some (client, address)
  | .checked client address _ => some (client, address)
  | .invalidated client address => some (client, address)
  | .leaving _ client address _ => some (client, address)

def address : Stage → Nat
  | .found _ _ address => address
  | .active _ address _ => address
  | .opened _ address _ => address
  | .connecting address => address
  | .locked _ _ address => address
  | .publishing _ address _ => address
  | .checked _ address _ => address
  | .invalidated _ address => address
  | .leaving _ _ address _ => address

/-- The client that a call has removed. -/
def removes : Stage → Option UInt64
  | .found .retire client _ => some client
  | .locked .retire client _ => some client
  | .leaving .retire client _ _ => some client
  | _ => none

/-- The entry whose runtime the call has stopped. -/
def stops : Stage → Option Nat
  | .leaving .runtimeStop _ address .ok => some address
  | _ => none

end Stage

structure Fits (library : Library) (stage : Stage) : Prop where
  bound : ∀ client address, stage.target = some (client, address) →
    Bound library.table client address
  gone : ∀ client, stage.removes = some client → Gone library.table client
  clear : ∀ client, stage.clears = some client →
    Streamless library.table client
  steady : ∀ address, stage.stops = some address →
    Steady (library.snapshot address)
  allocated : stage.address < library.nextAddress

structure Sound (library : Library) : Prop where
  tidy : Tidy library.table
  allocated : ∀ client address, library.table.clients client = some address →
    address < library.nextAddress
  fits : ∀ call stage, library.calls call = some stage → Fits library stage
  exclusive : ∀ first second address before after,
    library.calls first = some before → before.holds = some address →
    library.calls second = some after → after.holds = some address →
      first = second
  consistent : ∀ address, (library.entries address).runtime.Consistent

theorem sound_initial : Sound {} := by
  constructor
  · constructor
    · intro client address present
      cases present
    · intro handle stream present
      cases present
  · intro client address present
    cases present
  · intro call stage present
    cases present
  · intro first second address before after present
    cases present
  · intro address
    exact System.consistent_initial

variable {library : Library}

theorem Fits.setCall {stage : Stage} (fits : Fits library stage)
    (call : Nat) (other : Option Stage) :
    Fits (library.setCall call other) stage :=
  ⟨fits.bound, fits.gone, fits.clear, fits.steady, fits.allocated⟩

theorem Sound.setCall (sound : Sound library) {call : Nat}
    {stage : Option Stage}
    (fits : ∀ entered, stage = some entered → Fits library entered)
    (held : ∀ entered address, stage = some entered →
      entered.holds = some address →
      (∃ before, library.calls call = some before ∧
        before.holds = some address) ∨ library.Free address) :
    Sound (library.setCall call stage) := by
  -- The lock of the call that moves was its own already, or was free.
  have alone : ∀ other after entered address, other ≠ call →
      library.calls other = some after → after.holds = some address →
      stage = some entered → entered.holds = some address → False := by
    intro other after entered address different present holds same keeps
    rcases held entered address same keeps with ⟨before, own, kept⟩ | free
    · exact different
        (sound.exclusive other call address after before present holds own
          kept)
    · exact free other after present holds
  constructor
  · exact sound.tidy
  · exact sound.allocated
  · intro other entered present
    have updated : Function.update library.calls call stage other =
        some entered := present
    by_cases same : other = call
    · rw [same, Function.update_self] at updated
      exact (fits entered updated).setCall call stage
    · rw [Function.update_of_ne same] at updated
      exact (sound.fits other entered updated).setCall call stage
  · intro first second address before after one holds two keeps
    have early : Function.update library.calls call stage first =
        some before := one
    have late : Function.update library.calls call stage second =
        some after := two
    by_cases here : first = call
    · by_cases there : second = call
      · rw [here, there]
      · rw [here, Function.update_self] at early
        rw [Function.update_of_ne there] at late
        exact (alone second after before address there late keeps early
          holds).elim
    · rw [Function.update_of_ne here] at early
      by_cases there : second = call
      · rw [there, Function.update_self] at late
        exact (alone first before after address here early holds late
          keeps).elim
      · rw [Function.update_of_ne there] at late
        exact sound.exclusive first second address before after early holds
          late keeps
  · exact sound.consistent

/-- The call ends. -/
theorem Sound.done (sound : Sound library) (call : Nat) :
    Sound (library.setCall call none) := by
  apply sound.setCall
  · intro entered impossible
    cases impossible
  · intro entered address impossible
    cases impossible

/-- The call goes on, with the lock that it had or without one. -/
theorem Sound.goOn (sound : Sound library) {call : Nat} {before after : Stage}
    (present : library.calls call = some before)
    (fits : Fits library after)
    (held : ∀ address, after.holds = some address →
      before.holds = some address) :
    Sound (library.setCall call (some after)) := by
  apply sound.setCall
  · intro entered same
    cases same
    exact fits
  · intro entered address same holds
    cases same
    exact .inl ⟨before, present, held address holds⟩

theorem Sound.withTable (sound : Sound library) {table : HandleTable}
    (tidy : Tidy table) (grows : Grows library.table table)
    (allocated : ∀ client address, table.clients client = some address →
      address < library.nextAddress)
    (clear : ∀ call stage client, library.calls call = some stage →
      stage.clears = some client → Streamless table client) :
    Sound { library with table } := by
  constructor
  · exact tidy
  · exact allocated
  · intro call stage present
    have fits := sound.fits call stage present
    constructor
    · intro client address target
      exact grows.bound (fits.bound client address target)
    · intro client removed
      exact grows.gone (fits.gone client removed)
    · intro client clears
      exact clear call stage client present clears
    · exact fits.steady
    · exact fits.allocated
  · exact sound.exclusive
  · exact sound.consistent

/-- No new streams. -/
theorem Sound.withFewer (sound : Sound library) {table : HandleTable}
    (tidy : Tidy table) (grows : Grows library.table table)
    (allocated : ∀ client address, table.clients client = some address →
      address < library.nextAddress)
    (fewer : ∀ handle stream, table.streams handle = some stream →
      library.table.streams handle = some stream) :
    Sound { library with table } := by
  apply sound.withTable tidy grows allocated
  intro call stage client present clears handle stream listed
  exact (sound.fits call stage present).clear client clears handle stream
    (fewer handle stream listed)

theorem Sound.setEntry (sound : Sound library) {address : Nat}
    {entry : ClientEntry} (consistent : entry.runtime.Consistent)
    (steady : ∀ call stage, library.calls call = some stage →
      stage.stops = some address → Steady entry.runtime.runtime.snapshots) :
    Sound (library.setEntry address entry) := by
  constructor
  · exact sound.tidy
  · exact sound.allocated
  · intro call stage present
    have fits := sound.fits call stage present
    refine ⟨fits.bound, fits.gone, fits.clear, ?_, fits.allocated⟩
    intro other stops
    by_cases same : other = address
    · rw [same] at stops ⊢
      rw [library.snapshot_setEntry_self]
      exact steady call stage present stops
    · rw [library.snapshot_setEntry_of_ne same]
      exact fits.steady other stops
  · exact sound.exclusive
  · intro other
    change (Function.update library.entries address entry
      other).runtime.Consistent
    by_cases same : other = address
    · rw [same, Function.update_self]
      exact consistent
    · rw [Function.update_of_ne same]
      exact sound.consistent other

theorem Stage.address_of_stops {stage : Stage} {address : Nat}
    (stops : stage.stops = some address) :
    stage.address = address ∧ stage.holds = some address := by
  cases stage with
  | leaving command client entry status =>
      cases command <;> cases status <;> cases stops
      exact ⟨rfl, rfl⟩
  | found | active | opened | connecting | locked | publishing | checked |
    invalidated => cases stops

theorem Sound.allocate (sound : Sound library) {runtime : System}
    (consistent : runtime.Consistent) : Sound (library.allocate runtime) := by
  have placed : Sound (library.setEntry library.nextAddress { runtime }) := by
    apply sound.setEntry consistent
    intro call stage present stops
    have below := (sound.fits call stage present).allocated
    rw [(Stage.address_of_stops stops).1] at below
    exact absurd below (Nat.lt_irrefl _)
  constructor
  · exact placed.tidy
  · intro client address present
    exact Nat.lt_succ_of_lt (placed.allocated client address present)
  · intro call stage present
    have fits := placed.fits call stage present
    exact ⟨fits.bound, fits.gone, fits.clear, fits.steady,
      Nat.lt_succ_of_lt fits.allocated⟩
  · exact placed.exclusive
  · exact placed.consistent

/-! ## The steps -/

theorem Sound.bound (sound : Sound library) {client : UInt64}
    {address : Nat}
    (registered : library.table.clients client = some address) :
    Bound library.table client address := by
  refine ⟨sound.tidy.below client address registered, ?_⟩
  intro other present
  rw [registered] at present
  cases present
  rfl

theorem Sound.insertClient (sound : Sound library) {address : Nat}
    {handle : UInt64} {table : HandleTable}
    (allocated : address < library.nextAddress)
    (inserted : library.table.insertClient address = some (handle, table)) :
    Sound { library with table } := by
  have grows := HandleTable.grows_insertClient inserted
  obtain ⟨newer, rfl⟩ := HandleTable.insertClient_spec inserted
  have other : ∀ client, client ≤ library.table.nextHandle →
      client ≠ handle := by
    rintro client below rfl
    exact absurd newer (UInt64.not_lt.mpr below)
  apply sound.withFewer
  · constructor
    · intro client owner present
      by_cases same : client = handle
      · rw [same]
        exact UInt64.le_refl _
      · have earlier : Function.update library.table.clients handle
            (some address) client = some owner := present
        rw [Function.update_of_ne same] at earlier
        exact UInt64.le_of_lt
          (UInt64.lt_of_le_of_lt (sound.tidy.below client owner earlier)
            newer)
    · intro number stream present
      have registered := sound.tidy.registered number stream present
      obtain ⟨owner, owned⟩ := Option.isSome_iff_exists.mp registered
      change (Function.update library.table.clients handle (some address)
        stream.clientHandle).isSome = true
      rw [Function.update_of_ne (other _ (sound.tidy.below _ _ owned))]
      exact registered
  · exact grows
  · intro client owner present
    have updated : Function.update library.table.clients handle
        (some address) client = some owner := present
    by_cases same : client = handle
    · rw [same, Function.update_self] at updated
      cases updated
      exact allocated
    · rw [Function.update_of_ne same] at updated
      exact sound.allocated client owner updated
  · intro number stream present
    exact present

theorem Sound.sameClients (sound : Sound library) {table : HandleTable}
    (counter : library.table.nextHandle ≤ table.nextHandle)
    (clients : table.clients = library.table.clients)
    (fewer : ∀ handle stream, table.streams handle = some stream →
      library.table.streams handle = some stream) :
    Sound { library with table } := by
  apply sound.withFewer
  · constructor
    · intro client address present
      rw [clients] at present
      exact UInt64.le_trans (sound.tidy.below client address present) counter
    · intro handle stream present
      rw [clients]
      exact sound.tidy.registered handle stream (fewer handle stream present)
  · exact .sameClients counter clients
  · rw [clients]
    exact sound.allocated
  · exact fewer

theorem Sound.invalidate (sound : Sound library) (client : UInt64) :
    Sound { library with
      table := library.table.invalidateStreams client } := by
  refine sound.sameClients (UInt64.le_refl _) rfl ?_
  intro handle stream present
  exact (HandleTable.invalidateStreams_kept present).1

theorem Sound.retire (sound : Sound library) {client : UInt64}
    {address : Nat}
    (registered : library.table.clients client = some address) :
    Sound { library with
        table := (library.table.invalidateStreams client).removeClient
          client } ∧
      Gone ((library.table.invalidateStreams client).removeClient client)
        client := by
  have kept : ∀ other owner,
      ((library.table.invalidateStreams client).removeClient client).clients
        other = some owner →
      other ≠ client ∧ library.table.clients other = some owner := by
    intro other owner present
    exact HandleTable.removeClient_kept present
  constructor
  · apply sound.withFewer
    · constructor
      · intro other owner present
        exact sound.tidy.below other owner (kept other owner present).2
      · intro handle stream present
        obtain ⟨listed, other⟩ := HandleTable.invalidateStreams_kept present
        change (Function.update library.table.clients client none
          stream.clientHandle).isSome = true
        rw [Function.update_of_ne other]
        exact sound.tidy.registered handle stream listed
    · exact library.table.grows_retire client
    · intro other owner present
      exact sound.allocated other owner (kept other owner present).2
    · intro handle stream present
      exact (HandleTable.invalidateStreams_kept present).1
  · refine ⟨sound.tidy.below client address registered, ?_⟩
    change Function.update library.table.clients client none client = none
    rw [Function.update_self]

theorem Stage.holds_of_clears {stage : Stage} {client : UInt64}
    (clears : stage.clears = some client) :
    stage.holds = some stage.address ∧
      stage.target = some (client, stage.address) := by
  cases stage with
  | invalidated owner entry =>
      cases clears
      exact ⟨rfl, rfl⟩
  | leaving command owner entry status =>
      cases command <;> cases status <;> cases clears
      exact ⟨rfl, rfl⟩
  | found | active | opened | connecting | locked | publishing | checked =>
      cases clears

/-- The inserting call holds the lock that a stop of the client would hold. -/
theorem Sound.insertStream (sound : Sound library) {call address : Nat}
    {client generation handle : UInt64} {table : HandleTable}
    (stage : library.calls call = some (.checked client address generation))
    (same : library.table.clients client = some address)
    (inserted : library.table.insertStream client generation =
      some (handle, table)) :
    Sound { library with table } := by
  obtain ⟨newer, rfl⟩ := HandleTable.insertStream_spec inserted
  have listed : ∀ number stream,
      Function.update library.table.streams handle
        (some ⟨client, generation⟩) number = some stream →
      stream = ⟨client, generation⟩ ∨
        library.table.streams number = some stream := by
    intro number stream present
    by_cases new : number = handle
    · rw [new, Function.update_self] at present
      exact .inl (Option.some.inj present).symm
    · rw [Function.update_of_ne new] at present
      exact .inr present
  apply sound.withTable
  · constructor
    · intro owner entry present
      exact UInt64.le_of_lt
        (UInt64.lt_of_le_of_lt (sound.tidy.below owner entry present) newer)
    · intro number stream present
      rcases listed number stream present with rfl | earlier
      · change (library.table.clients client).isSome = true
        rw [same]
        rfl
      · exact sound.tidy.registered number stream earlier
  · exact .sameClients (UInt64.le_of_lt newer) rfl
  · exact sound.allocated
  · intro other entered cleared present clears number stream shown
    have fits := sound.fits other entered present
    obtain ⟨holds, target⟩ := Stage.holds_of_clears clears
    rcases listed number stream shown with rfl | earlier
    · rintro rfl
      have entry := (fits.bound _ _ target).2 address same
      rw [← entry] at holds
      have own := sound.exclusive other call address entered _ present holds
        stage rfl
      rw [own, stage] at present
      cases present
      cases clears
    · exact fits.clear cleared clears number stream earlier

theorem Sound.setRuntime (sound : Sound library) {address : Nat}
    {runtime : System} {label : System.Label}
    (moved : System.Step (library.entries address).runtime label runtime)
    (steady : ∀ call stage, library.calls call = some stage →
      stage.stops = some address →
      Steady (library.snapshot address) →
        Steady runtime.runtime.snapshots) (destroyed : Bool) :
    Sound (library.setEntry address { runtime, destroyed }) := by
  apply sound.setEntry
  · exact System.consistent_step (sound.consistent address) moved
  · intro call stage present stops
    exact steady call stage present stops
      ((sound.fits call stage present).steady address stops)

/-- While a call holds the lock no other call has stopped the runtime. -/
theorem Sound.unstopped (sound : Sound library) {call address : Nat}
    {stage : Stage} (present : library.calls call = some stage)
    (holds : stage.holds = some address) (running : stage.stops = none)
    {other : Nat} {entered : Stage}
    (another : library.calls other = some entered)
    (stops : entered.stops = some address) : False := by
  have own := sound.exclusive other call address entered stage another
    (Stage.address_of_stops stops).2 present holds
  rw [own, present] at another
  cases another
  rw [running] at stops
  cases stops

theorem Sound.callRuntime (sound : Sound library) {call address : Nat}
    {stage : Stage} {label : System.Label} {runtime : System}
    (present : library.calls call = some stage)
    (holds : stage.holds = some address) (running : stage.stops = none)
    (moved : System.Step (library.entries address).runtime label runtime)
    (destroyed : Bool) :
    Sound (library.setEntry address { runtime, destroyed }) := by
  apply sound.setRuntime moved
  intro other entered another stops _
  exact (sound.unstopped present holds running another stops).elim

/-- The next stage of a call on the same client. -/
theorem Fits.pass {before after : Stage} (fits : Fits library before)
    (target : after.target = before.target)
    (address : after.address = before.address)
    (removes : after.removes = before.removes)
    (clears : after.clears = none) (stops : after.stops = none) :
    Fits library after := by
  constructor
  · rw [target]
    exact fits.bound
  · rw [removes]
    exact fits.gone
  · intro client cleared
    rw [clears] at cleared
    cases cleared
  · intro entry stopped
    rw [stops] at stopped
    cases stopped
  · rw [address]
    exact fits.allocated

theorem Sound.pass (sound : Sound library) {call : Nat} {before after : Stage}
    (present : library.calls call = some before)
    (target : after.target = before.target)
    (address : after.address = before.address)
    (removes : after.removes = before.removes)
    (clears : after.clears = none) (stops : after.stops = none)
    (held : ∀ entry, after.holds = some entry → before.holds = some entry) :
    Sound (library.setCall call (some after)) :=
  sound.goOn present
    ((sound.fits call before present).pass target address removes clears
      stops) held

theorem Sound.acquire (sound : Sound library) {call address : Nat}
    {before after : Stage} (stage : library.calls call = some before)
    (acquires : before.acquires = some (address, after))
    (free : library.Free address) :
    Sound (library.setCall call (some after)) := by
  have fits := sound.fits call before stage
  have entered : Fits library after ∧ after.holds = some address := by
    cases before with
    | opened client entry generation =>
        cases acquires
        exact ⟨fits.pass rfl rfl rfl rfl rfl, rfl⟩
    | found command client entry =>
        cases command <;> cases acquires
        · exact ⟨fits.pass rfl rfl rfl rfl rfl, rfl⟩
        · exact ⟨fits.pass rfl rfl rfl rfl rfl, rfl⟩
        · exact ⟨fits.pass rfl rfl rfl rfl rfl, rfl⟩
    | active | connecting | locked | publishing | checked | invalidated |
      leaving => cases acquires
  apply sound.setCall
  · intro other same
    cases same
    exact entered.1
  · intro other held same holds
    cases same
    rw [entered.2] at holds
    cases holds
    exact .inr free

theorem Sound.look (sound : Sound library) {call address : Nat}
    {client : UInt64} {command : Command} (other : command ≠ .retire)
    (registered : library.table.clients client = some address) :
    Sound (library.setCall call (some (.found command client address))) := by
  apply sound.setCall
  · intro entered same
    cases same
    constructor
    · intro owner entry target
      cases target
      exact sound.bound registered
    · intro owner removed
      cases command <;> cases removed
      exact absurd rfl other
    · intro owner cleared
      cases cleared
    · intro entry stopped
      cases stopped
    · exact sound.allocated client address registered
  · intro entered entry same holds
    cases same
    cases holds

theorem sound_of_step {next : Library} {event : Event}
    (sound : Sound library) (step : Library.Step library event next) :
    Sound next := by
  cases step with
  | created inserted =>
      have allocated := sound.allocate System.consistent_initial
      exact allocated.insertClient (Nat.lt_succ_self _) inserted
  | createRefused => exact sound
  | connectStarted idle started =>
      have consistent :=
        System.consistent_step System.consistent_initial started
      apply (sound.allocate consistent).setCall
      · intro entered same
        cases same
        constructor
        · intro owner entry target
          cases target
        · intro owner removed
          cases removed
        · intro owner cleared
          cases cleared
        · intro entry stopped
          cases stopped
        · exact Nat.lt_succ_self _
      · intro entered entry same holds
        cases same
        cases holds
  | connectRefused => exact sound
  | connected stage online inserted =>
      have allocated := (sound.fits _ _ stage).allocated
      exact (sound.insertClient allocated inserted).done _
  | connectFailed | connectSuperseded | connectExhausted => exact sound.done _
  | found idle other registered => exact sound.look other registered
  | unknown => exact sound
  | acquired stage acquires free => exact sound.acquire stage acquires free
  | @destroyed call address command client stage other gone =>
      have plain : (Stage.leaving command client address
          .invalidHandle).clears = none ∧
          (Stage.leaving command client address
            .invalidHandle).stops = none ∧
          (Stage.leaving command client address .invalidHandle).removes =
            (Stage.locked command client address).removes := by
        cases command <;> exact ⟨rfl, rfl, rfl⟩
      refine sound.pass stage rfl rfl plain.2.2 plain.1 plain.2.1 ?_
      exact fun _ => id
  | left stage => exact sound.done _
  | openActive stage active =>
      refine sound.pass stage rfl rfl rfl rfl rfl ?_
      intro entry holds
      cases holds
  | openInactive => exact sound.done _
  | opened stage online =>
      refine sound.pass stage rfl rfl rfl rfl rfl ?_
      intro entry holds
      cases holds
  | openFailed | openSuperseded => exact sound.done _
  | publishRefused stage refused =>
      refine sound.pass stage rfl rfl rfl rfl rfl ?_
      exact fun _ => id
  | publishChecked stage alive online =>
      refine sound.pass stage rfl rfl rfl rfl rfl ?_
      exact fun _ => id
  | publishUnregistered stage other =>
      refine sound.pass stage rfl rfl rfl rfl rfl ?_
      exact fun _ => id
  | published stage same inserted =>
      have grown := sound.insertStream stage same inserted
      refine grown.pass stage rfl rfl rfl rfl rfl ?_
      exact fun _ => id
  | publishExhausted stage same exhausted =>
      refine sound.pass stage rfl rfl rfl rfl rfl ?_
      exact fun _ => id
  | @started _ address _ _ _ stage alive answered =>
      have moved := sound.callRuntime stage rfl rfl answered
        (library.entries address).destroyed
      refine moved.pass stage rfl rfl rfl rfl rfl ?_
      exact fun _ => id
  | @invalidated _ _ owner stage alive =>
      have cleared := sound.invalidate owner
      have fits := cleared.fits _ _ stage
      refine cleared.goOn stage ?_ fun _ => id
      refine ⟨fits.bound, fits.gone, ?_, fits.steady, fits.allocated⟩
      intro client same
      cases same
      exact HandleTable.streamless_invalidateStreams _ owner
  | @stopped _ address _ _ _ stage returned =>
      have moved := sound.callRuntime stage rfl rfl returned
        (library.entries address).destroyed
      have fits := moved.fits _ _ stage
      refine moved.goOn stage ?_ fun _ => id
      refine ⟨fits.bound, fits.gone, fits.clear, ?_, fits.allocated⟩
      intro entry same
      cases same
      rw [Library.snapshot_setEntry_self]
      exact steady_of_stop (sound.consistent address) returned
  | retiring idle registered =>
      obtain ⟨removed, gone⟩ := sound.retire registered
      apply removed.setCall
      · intro entered same
        cases same
        constructor
        · intro owner entry target
          cases target
          refine ⟨gone.1, ?_⟩
          intro other present
          rw [gone.2] at present
          cases present
        · intro owner same
          cases same
          exact gone
        · intro owner cleared
          cases cleared
        · intro entry stopped
          cases stopped
        · exact sound.allocated _ _ registered
      · intro entered entry same holds
        cases same
        cases holds
  | retireUnknown absent => exact sound.invalidate _
  | retired stage returned =>
      have moved := sound.callRuntime stage rfl rfl returned true
      refine moved.pass stage rfl rfl rfl rfl rfl ?_
      exact fun _ => id
  | engineCreated inserted =>
      obtain ⟨newer, rfl⟩ := HandleTable.insertEngine_spec inserted
      exact sound.sameClients (UInt64.le_of_lt newer) rfl fun _ _ => id
  | engineRefused => exact sound
  | engineDestroyed =>
      exact sound.sameClients (UInt64.le_refl _) rfl fun _ _ => id
  | streamClosed =>
      refine sound.sameClients (UInt64.le_refl _) rfl ?_
      intro handle stream present
      exact HandleTable.removeStream_kept present
  | runtimeMoved uncalled moved =>
      apply sound.setRuntime moved
      intro call stage _ _ steady
      exact steady_of_own (sound.consistent _) steady uncalled moved

/-! ## Handles are issued once -/

theorem issued_snoc (trace : List Event) (event : Event) :
    issued (trace ++ [event]) = issued trace ++ issued [event] :=
  List.filterMap_append

theorem drawn_of_issued {next : Library} {handle : UInt64}
    (step : Library.Step library (.issued handle) next) :
    library.table.nextHandle < handle ∧ next.table.nextHandle = handle := by
  cases step with
  | created inserted =>
      obtain ⟨newer, rfl⟩ := HandleTable.insertClient_spec inserted
      exact ⟨newer, rfl⟩
  | connected stage online inserted =>
      obtain ⟨newer, rfl⟩ := HandleTable.insertClient_spec inserted
      exact ⟨newer, rfl⟩
  | published stage same inserted =>
      obtain ⟨newer, rfl⟩ := HandleTable.insertStream_spec inserted
      exact ⟨newer, rfl⟩
  | engineCreated inserted =>
      obtain ⟨newer, rfl⟩ := HandleTable.insertEngine_spec inserted
      exact ⟨newer, rfl⟩

/-! ## What a step does -/

def Stage.checks : Stage → Option (UInt64 × Nat × UInt64)
  | .checked client address generation => some (client, address, generation)
  | _ => none

/-- What a step does to the table, the checked calls and the runtimes. -/
structure Moves (library next : Library) : Prop where
  grows : Grows library.table next.table
  addresses : library.nextAddress ≤ next.nextAddress
  streams : ∀ handle stream, next.table.streams handle = some stream →
    library.table.streams handle = some stream ∨
      ∃ call address, library.calls call =
          some (.checked stream.clientHandle address stream.generation) ∧
        library.table.clients stream.clientHandle = some address
  checked : ∀ call stage client address generation,
    next.calls call = some stage →
    stage.checks = some (client, address, generation) →
      library.calls call = some stage ∨
        library.isGenerationOnline address generation
  runtimes : ∀ address, address < library.nextAddress →
    next.snapshot address = library.snapshot address ∨
      ∃ label runtime,
        System.Step (library.entries address).runtime label runtime ∧
        next.snapshot address = runtime.runtime.snapshots

namespace Moves

theorem refl (library : Library) : Moves library library := by
  constructor
  · exact ⟨UInt64.le_refl _, fun _ _ _ => id⟩
  · exact Nat.le_refl _
  · intro handle stream present
    exact .inl present
  · intro call stage client address generation present _
    exact .inl present
  · intro address _
    exact .inl rfl

theorem withTable {table : HandleTable} (grows : Grows library.table table)
    (streams : ∀ handle stream, table.streams handle = some stream →
      library.table.streams handle = some stream) :
    Moves library { library with table } := by
  have still := refl library
  refine ⟨grows, still.addresses, ?_, still.checked, still.runtimes⟩
  intro handle stream present
  exact .inl (streams handle stream present)

theorem setEntry {address : Nat} {label : System.Label} {runtime : System}
    (moved : System.Step (library.entries address).runtime label runtime)
    (destroyed : Bool) :
    Moves library (library.setEntry address { runtime, destroyed }) := by
  have still := refl library
  refine ⟨still.grows, still.addresses, still.streams, still.checked, ?_⟩
  intro other _
  by_cases same : other = address
  · rw [same, library.snapshot_setEntry_self]
    exact .inr ⟨label, runtime, moved, rfl⟩
  · exact .inl (library.snapshot_setEntry_of_ne same _)

theorem allocate (library : Library) (runtime : System) :
    Moves library (library.allocate runtime) := by
  have still := refl library
  refine ⟨still.grows, Nat.le_succ _, still.streams, still.checked, ?_⟩
  intro address below
  exact .inl (library.snapshot_setEntry_of_ne (Nat.ne_of_lt below) _)

theorem setCall {next : Library} (moves : Moves library next) (call : Nat)
    {stage : Option Stage}
    (online : ∀ client address generation,
      stage.bind Stage.checks = some (client, address, generation) →
        library.isGenerationOnline address generation) :
    Moves library (next.setCall call stage) := by
  refine ⟨moves.grows, moves.addresses, moves.streams, ?_,
    moves.runtimes⟩
  intro other entered client address generation present checks
  have updated : Function.update next.calls call stage other =
      some entered := present
  by_cases same : other = call
  · rw [same, Function.update_self] at updated
    refine .inr (online client address generation ?_)
    rw [updated]
    exact checks
  · rw [Function.update_of_ne same] at updated
    exact moves.checked other entered client address generation updated
      checks

theorem unchecked {next : Library} (moves : Moves library next) (call : Nat)
    {stage : Option Stage} (plain : stage.bind Stage.checks = none) :
    Moves library (next.setCall call stage) := by
  apply moves.setCall
  intro client address generation checks
  rw [plain] at checks
  cases checks

end Moves

/-- A stream is published by a call that has checked its generation. -/
theorem Moves.insertStream {call address : Nat}
    {client generation handle : UInt64} {table : HandleTable}
    (stage : library.calls call = some (.checked client address generation))
    (same : library.table.clients client = some address)
    (inserted : library.table.insertStream client generation =
      some (handle, table)) :
    Moves library { library with table } := by
  obtain ⟨newer, rfl⟩ := HandleTable.insertStream_spec inserted
  have still := Moves.refl library
  refine ⟨.sameClients (UInt64.le_of_lt newer) rfl, still.addresses, ?_,
    still.checked, still.runtimes⟩
  intro number stream present
  have updated : Function.update library.table.streams handle
      (some ⟨client, generation⟩) number = some stream := present
  by_cases new : number = handle
  · rw [new, Function.update_self] at updated
    cases updated
    exact .inr ⟨call, address, stage, same⟩
  · rw [Function.update_of_ne new] at updated
    exact .inl updated

theorem Stage.checks_of_acquires {before after : Stage} {address : Nat}
    (acquires : before.acquires = some (address, after)) :
    after.checks = none := by
  cases before with
  | opened =>
      cases acquires
      rfl
  | found command =>
      cases command <;> cases acquires
      · rfl
      · rfl
      · rfl
  | active | connecting | locked | publishing | checked | invalidated |
    leaving => cases acquires

theorem moves_of_step {next : Library} {event : Event}
    (step : Library.Step library event next) : Moves library next := by
  have still := Moves.refl library
  cases step with
  | created inserted =>
      have allocated := Moves.allocate library {}
      have grows := HandleTable.grows_insertClient inserted
      obtain ⟨_, rfl⟩ := HandleTable.insertClient_spec inserted
      exact ⟨grows, allocated.addresses, still.streams, still.checked,
        allocated.runtimes⟩
  | createRefused | connectRefused | unknown | engineRefused => exact still
  | connectStarted idle started =>
      exact (Moves.allocate library _).unchecked _ rfl
  | connected stage online inserted =>
      have grows := HandleTable.grows_insertClient inserted
      obtain ⟨_, rfl⟩ := HandleTable.insertClient_spec inserted
      exact (Moves.withTable grows fun _ _ => id).unchecked _ rfl
  | connectFailed | connectSuperseded | connectExhausted | found | destroyed |
    left | openActive | openInactive | opened | openFailed | openSuperseded |
    publishRefused | publishUnregistered | publishExhausted =>
      exact still.unchecked _ rfl
  | acquired stage acquires free =>
      exact still.unchecked _ (Stage.checks_of_acquires acquires)
  | publishChecked stage alive online =>
      apply still.setCall
      intro client address generation checks
      cases checks
      exact online
  | published stage same inserted =>
      exact (Moves.insertStream stage same inserted).unchecked _ rfl
  | started stage alive answered =>
      exact (Moves.setEntry answered _).unchecked _ rfl
  | stopped stage returned | retired stage returned =>
      exact (Moves.setEntry returned _).unchecked _ rfl
  | invalidated stage alive =>
      apply Moves.unchecked _ _ rfl
      refine .withTable (.sameClients (UInt64.le_refl _) rfl) ?_
      intro handle stream present
      exact (HandleTable.invalidateStreams_kept present).1
  | retiring idle registered =>
      apply Moves.unchecked _ _ rfl
      refine .withTable (HandleTable.grows_retire _ _) ?_
      intro handle stream present
      exact (HandleTable.invalidateStreams_kept present).1
  | retireUnknown absent =>
      refine .withTable (.sameClients (UInt64.le_refl _) rfl) ?_
      intro handle stream present
      exact (HandleTable.invalidateStreams_kept present).1
  | engineCreated inserted =>
      obtain ⟨newer, rfl⟩ := HandleTable.insertEngine_spec inserted
      exact .withTable (.sameClients (UInt64.le_of_lt newer) rfl)
        fun _ _ => id
  | engineDestroyed =>
      exact .withTable (.sameClients (UInt64.le_refl _) rfl) fun _ _ => id
  | streamClosed =>
      refine .withTable (.sameClients (UInt64.le_refl _) rfl) ?_
      intro handle stream present
      exact HandleTable.removeStream_kept present
  | runtimeMoved uncalled moved => exact .setEntry moved _

/-! ## After a stop -/

/-- No stream of the generation is in the table or can get there. -/
structure Barred (library : Library) (client : UInt64) (address : Nat)
    (generation : UInt64) : Prop where
  allocated : address < library.nextAddress
  bound : Bound library.table client address
  finished : Over generation (library.snapshot address)
  absent : ∀ handle stream, library.table.streams handle = some stream →
    stream ≠ ⟨client, generation⟩
  unchecked : ∀ call,
    library.calls call ≠ some (.checked client address generation)

theorem not_online_of_over {address : Nat} {generation : UInt64}
    (finished : Over generation (library.snapshot address)) :
    ¬ library.isGenerationOnline address generation := by
  rintro ⟨same, online⟩
  rcases finished with earlier | ⟨_, steady⟩
  · rw [same] at earlier
    exact UInt64.lt_irrefl _ earlier
  · exact steady.2 online

theorem barred_of_step {next : Library} {event : Event} {client : UInt64}
    {address : Nat} {generation : UInt64} (sound : Sound library)
    (barred : Barred library client address generation)
    (step : Library.Step library event next) :
    Barred next client address generation := by
  have moves := moves_of_step step
  constructor
  · exact Nat.lt_of_lt_of_le barred.allocated moves.addresses
  · exact moves.grows.bound barred.bound
  · rcases moves.runtimes address barred.allocated with
      same | ⟨label, runtime, moved, same⟩
    · rw [same]
      exact barred.finished
    · rw [same]
      exact over_of_step (sound.consistent address) barred.finished moved
  · rintro handle stream present rfl
    rcases moves.streams handle _ present with
      earlier | ⟨call, entry, found, same⟩
    · exact barred.absent handle _ earlier rfl
    · rw [barred.bound.2 entry same] at found
      exact barred.unchecked call found
  · intro call found
    rcases moves.checked call _ _ _ _ found rfl with earlier | online
    · exact barred.unchecked call earlier
    · exact not_online_of_over barred.finished online

theorem sound_of_run {trace : List Event} {initial final : Library}
    (sound : Sound initial) (run : Run Library.Step initial trace final) :
    Sound final := by
  apply run.invariant sound
  intro state event next held step
  exact sound_of_step held step

theorem barred_of_run {trace : List Event} {initial final : Library}
    {client : UInt64} {address : Nat} {generation : UInt64}
    (sound : Sound initial) (barred : Barred initial client address generation)
    (run : Run Library.Step initial trace final) :
    Barred final client address generation := by
  have both : Sound final ∧ Barred final client address generation := by
    apply run.invariant ⟨sound, barred⟩
    intro state event next held step
    exact ⟨sound_of_step held.1 step, barred_of_step held.1 held.2 step⟩
  exact both.2

theorem grows_of_run {trace : List Event} {initial final : Library}
    (run : Run Library.Step initial trace final) :
    Grows initial.table final.table := by
  induction run with
  | nil => exact (Moves.refl initial).grows
  | snoc _ step induction => exact induction.trans (moves_of_step step).grows

/-- Generations only grow. -/
theorem generation_le_of_run {trace : List Event} {initial final : Library}
    {address : Nat} (sound : Sound initial)
    (allocated : address < initial.nextAddress)
    (run : Run Library.Step initial trace final) :
    (initial.snapshot address).generation ≤
      (final.snapshot address).generation := by
  have grown : Sound final ∧ address < final.nextAddress ∧
      (initial.snapshot address).generation ≤
        (final.snapshot address).generation := by
    apply run.invariant ⟨sound, allocated, UInt64.le_refl _⟩
    intro state event next held step
    have moves := moves_of_step step
    refine ⟨sound_of_step held.1 step,
      Nat.lt_of_lt_of_le held.2.1 moves.addresses, ?_⟩
    apply UInt64.le_trans held.2.2
    rcases moves.runtimes address held.2.1 with
      same | ⟨label, runtime, moved, same⟩
    · rw [same]
      exact UInt64.le_refl _
    · rw [same]
      exact generation_le_of_step (held.1.consistent address) moved
  exact grown.2.2

/-- The commands that end the streams of a client. -/
def Command.ends : Command → Bool
  | .runtimeStop => true
  | .retire => true
  | _ => false

/-- A successful stop returns from its last stage. -/
theorem left_of_answered {next : Library} {command : Command}
    {client : UInt64} (ends : command.ends = true)
    (step : Library.Step library (.answered (.client command client) .ok)
      next) :
    ∃ call address,
      library.calls call = some (.leaving command client address .ok) := by
  generalize same : Event.answered (.client command client) .ok = event
    at step
  cases step with
  | @left call address _ _ _ stage =>
      cases same
      exact ⟨call, address, stage⟩
  | openInactive | openFailed | openSuperseded =>
      obtain ⟨request, _⟩ := Event.answered.inj same
      cases request
      cases ends
  | unknown | retireUnknown => cases same
  | createRefused | connectRefused | connectFailed | connectSuperseded |
    connectExhausted | engineRefused | engineDestroyed | streamClosed =>
      cases (Event.answered.inj same).1
  | created | connectStarted | connected | found | acquired | destroyed |
    openActive | opened | publishRefused | publishChecked |
    publishUnregistered | published | publishExhausted | started |
    invalidated | stopped | retiring | retired | engineCreated |
    runtimeMoved => cases same

/-- A client that is gone has no streams. -/
theorem streamless_of_gone (sound : Sound library) {client : UInt64}
    (gone : Gone library.table client) : Streamless library.table client := by
  rintro handle stream present rfl
  have registered := sound.tidy.registered handle stream present
  rw [gone.2] at registered
  cases registered

/-- A stop that is about to return has ended the generation. -/
theorem barred_of_stop {call address : Nat} {client generation : UInt64}
    (sound : Sound library)
    (stage : library.calls call =
      some (.leaving .runtimeStop client address .ok))
    (reached : generation ≤ (library.snapshot address).generation) :
    Barred library client address generation := by
  have fits := sound.fits call _ stage
  have steady := fits.steady address rfl
  have clear := fits.clear client rfl
  refine ⟨fits.allocated, fits.bound client address rfl, ?_, ?_, ?_⟩
  · rcases UInt64.lt_or_eq_of_le reached with earlier | same
    · exact .inl earlier
    · exact .inr ⟨same, steady⟩
  · rintro handle stream present rfl
    exact clear handle _ present rfl
  · intro other checked
    have own := sound.exclusive other call address _ _ checked rfl stage rfl
    rw [own, stage] at checked
    cases checked

theorem absent_after_stop {trace during later : List Event}
    {before middle after final : Library} {command : Command}
    {client generation : UInt64} {address : Nat}
    (early : Run Library.Step {} trace before)
    (running : Run Library.Step before during middle)
    (returned : Library.Step middle
      (.answered (.client command client) .ok) after)
    (late : Run Library.Step after later final)
    (ends : command.ends = true)
    (registered : before.table.clients client = some address)
    (online : before.isGenerationOnline address generation)
    (handle : UInt64) (stream : StreamEntry)
    (present : final.table.streams handle = some stream) :
    stream ≠ ⟨client, generation⟩ := by
  have start := sound_of_run sound_initial early
  have sound := sound_of_run start running
  have rest : Run Library.Step middle ([_] ++ later) final :=
    (Run.single returned).append late
  have ended := sound_of_run sound rest
  rintro rfl
  obtain ⟨call, entry, stage⟩ := left_of_answered ends returned
  have fits := sound.fits call _ stage
  cases found : middle.table.clients client with
  | none =>
      have below := (fits.bound client entry rfl).1
      have gone := (grows_of_run rest).gone ⟨below, found⟩
      exact streamless_of_gone ended gone handle _ present rfl
  | some owner =>
      have first := ((grows_of_run running).bound
        (start.bound registered)).2 owner found
      have second := (fits.bound client entry rfl).2 owner found
      subst second
      subst first
      cases command with
      | retire =>
          have gone := fits.gone client rfl
          rw [gone.2] at found
          cases found
      | runtimeStop =>
          have reached := generation_le_of_run start
            (start.allocated client _ registered) running
          rw [online.1] at reached
          have barred := barred_of_stop sound stage reached
          exact (barred_of_run sound barred rest).absent handle _ present rfl
      | openStream | runtimeStart => cases ends

theorem issued_of_run {trace : List Event} {library : Library}
    (run : Run Library.Step {} trace library) :
    (issued trace).Pairwise (· < ·) ∧
      ∀ handle ∈ issued trace, handle ≤ library.table.nextHandle := by
  induction run with
  | nil =>
      refine ⟨.nil, ?_⟩
      intro handle member
      cases member
  | @snoc trace state next event front step induction =>
      obtain ⟨increasing, below⟩ := induction
      have counter := (moves_of_step step).grows.counter
      rw [issued_snoc]
      cases event with
      | issued handle =>
          obtain ⟨newer, same⟩ := drawn_of_issued step
          constructor
          · refine List.pairwise_append.mpr
              ⟨increasing, List.pairwise_singleton _ _, ?_⟩
            intro earlier member last final
            rw [List.mem_singleton.mp final]
            exact UInt64.lt_of_le_of_lt (below earlier member) newer
          · intro earlier member
            rcases List.mem_append.mp member with old | last
            · exact UInt64.le_trans (below earlier old) counter
            · rw [List.mem_singleton.mp last, same]
              exact UInt64.le_refl _
      | quiet | answered =>
          refine ⟨by simpa [issued] using increasing, ?_⟩
          intro earlier member
          have old : earlier ∈ issued trace := by
            simpa [issued] using member
          exact UInt64.le_trans (below earlier old) counter

/-- What the handles promise over every interleaving of the calls. -/
theorem handles_safe :
    (∀ trace library, Run Library.Step {} trace library →
      (issued trace).Nodup ∧
      ∀ handle stream, library.table.streams handle = some stream →
        (library.table.clients stream.clientHandle).isSome = true) ∧
    ∀ trace during later before middle after final command client address
      generation,
      Run Library.Step {} trace before →
      Run Library.Step before during middle →
      Library.Step middle (.answered (.client command client) .ok) after →
      Run Library.Step after later final → command.ends = true →
      before.table.clients client = some address →
      before.isGenerationOnline address generation →
      ∀ handle stream, final.table.streams handle = some stream →
        stream ≠ ⟨client, generation⟩ := by
  constructor
  · intro trace library run
    refine ⟨?_, (sound_of_run sound_initial run).tidy.registered⟩
    apply (issued_of_run run).1.imp
    rintro earlier last less rfl
    exact UInt64.lt_irrefl _ less
  · intro trace during later before middle after final command client address
      generation early running returned late ends registered online
    exact absent_after_stop early running returned late ends registered online

/-- A client that is online, with a stream that is being opened. -/
def onlineTrace : List Event :=
  [.issued 1, .quiet, .quiet, .quiet,
    .answered (.client .runtimeStart 1) .ok, .quiet, .quiet, .quiet, .quiet]

theorem free_initial (address : Nat) : ({} : Library).Free address := by
  intro call stage present
  cases present

/-- A call that does not hold a lock leaves it free. -/
theorem free_setCall {address : Nat} (free : library.Free address)
    (call : Nat) {stage : Option Stage}
    (unheld : stage.bind Stage.holds ≠ some address) :
    (library.setCall call stage).Free address := by
  intro other entered present
  have updated : Function.update library.calls call stage other =
      some entered := present
  by_cases same : other = call
  · rw [same, Function.update_self] at updated
    rw [updated] at unheld
    exact unheld
  · rw [Function.update_of_ne same] at updated
    exact free other entered updated

/-- A stop overtakes the stream that is being opened. -/
theorem in_flight : ∃ before, Run Library.Step {} onlineTrace before ∧
    (before.table.clients 1 = some 0 ∧ before.isGenerationOnline 0 1) ∧
    ∃ middle,
      Run Library.Step before [.quiet, .quiet, .quiet, .quiet] middle ∧
      ∃ after,
        Library.Step middle (.answered (.client .runtimeStop 1) .ok) after ∧
        ∃ final, Run Library.Step after
          [.quiet, .quiet, .answered (.client .openStream 1) .transport]
          final ∧ final.calls 0 = none := by
  refine Run.exists_cons (.created rfl) ?_
  refine Run.exists_cons
    (@Library.Step.found _ 0 0 .runtimeStart 1 rfl (by decide) rfl) ?_
  refine Run.exists_cons (@Library.Step.acquired _ 0 0 _ _ rfl rfl ?_) ?_
  · exact free_setCall (free_initial 0) 0 (by decide)
  refine Run.exists_cons
    (@Library.Step.started _ 0 0 1 _ _ rfl rfl (.start rfl)) ?_
  refine Run.exists_cons (@Library.Step.left _ 0 0 .runtimeStart 1 .ok rfl) ?_
  refine Run.exists_cons
    (@Library.Step.runtimeMoved _ 0 _ (.completeConnect 1 (.ok ⟨1⟩)) rfl
      (.completed rfl rfl rfl)) ?_
  refine Run.exists_cons
    (@Library.Step.found _ 0 0 .openStream 1 rfl (by decide) rfl) ?_
  refine Run.exists_cons (@Library.Step.openActive _ 0 0 1 1 rfl rfl) ?_
  refine Run.exists_cons
    (@Library.Step.opened _ 0 0 1 1 rfl ⟨rfl, rfl⟩) ?_
  refine ⟨_, .nil, ⟨rfl, ⟨rfl, rfl⟩⟩, ?_⟩
  refine Run.exists_cons
    (@Library.Step.found _ 1 0 .runtimeStop 1 rfl (by decide) rfl) ?_
  refine Run.exists_cons (@Library.Step.acquired _ 1 0 _ _ rfl rfl ?_) ?_
  · intro call stage present
    rcases call with _ | _ | call
    · cases present
      decide
    · cases present
      decide
    · cases present
  refine Run.exists_cons (@Library.Step.invalidated _ 1 0 1 rfl rfl) ?_
  refine Run.exists_cons (@Library.Step.stopped _ 1 0 1 _ _ rfl (.stop rfl)) ?_
  refine ⟨_, .nil, ?_⟩
  refine ⟨_, @Library.Step.left _ 1 0 .runtimeStop 1 .ok rfl, ?_⟩
  refine Run.exists_cons (@Library.Step.acquired _ 0 0 _ _ rfl rfl ?_) ?_
  · intro call stage present
    rcases call with _ | _ | call
    · cases present
      decide
    · cases present
    · cases present
  refine Run.exists_cons
    (@Library.Step.publishRefused _ 0 0 1 1 rfl (.inr ?_)) ?_
  · rintro ⟨same, _⟩
    cases same
  refine Run.exists_cons
    (@Library.Step.left _ 0 0 .openStream 1 .transport rfl) ?_
  exact ⟨_, .nil, rfl⟩

/-- The stream is opened in time, and published too late. -/
theorem handles_safe_in_flight : ∃ before final,
    Run Library.Step {} onlineTrace before ∧
    before.isGenerationOnline 0 1 ∧
    Run Library.Step before ([.quiet, .quiet, .quiet, .quiet] ++
      .answered (.client .runtimeStop 1) .ok ::
        [.quiet, .quiet, .answered (.client .openStream 1) .transport])
      final ∧
    ∀ handle stream, final.table.streams handle = some stream →
      stream ≠ ⟨1, 1⟩ := by
  obtain ⟨before, early, ⟨registered, online⟩, middle, running, after,
    returned, final, late, _⟩ := in_flight
  refine ⟨before, final, early, online,
    running.append (Run.cons returned late), ?_⟩
  exact handles_safe.2 _ _ _ _ _ _ _ _ _ _ _ early running returned late rfl
    registered online

end Velum.Native
