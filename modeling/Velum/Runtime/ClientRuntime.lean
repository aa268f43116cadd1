import Velum.Runtime.Lifecycle
import Velum.Foundation.TransitionSystem
import Mathlib.Data.List.Pairwise

/-!
# Client runtime

Start, the completion of a connection, the closure of a connection and stop
each hold the inner lock once.  Any number of connection tasks, each with the
generation it was started in, race for it.  A connection counts as connected
once its completion takes the lock, or its task is dropped with it.
-/

namespace Velum.Runtime

open Foundation

/-- The client that the connection task of a generation connected. -/
structure Client where
  connectedBy : UInt64
  deriving DecidableEq, Repr

structure LifecycleTask where
  generation : UInt64
  deriving DecidableEq, Repr

structure RuntimeInner where
  lifecycle : Lifecycle := {}
  client : Option Client := none
  lifecycleTask : Option LifecycleTask := none
  deriving DecidableEq, Repr

/-- The state behind the lock and the published snapshot. -/
structure ClientRuntime where
  inner : RuntimeInner := {}
  snapshots : RuntimeSnapshot := {}
  deriving DecidableEq, Repr

/-- What a call does while it holds the lock: the runtime it leaves, the
snapshots it publishes, the client it closes and the task it aborts. -/
structure Effects where
  runtime : ClientRuntime
  published : List RuntimeSnapshot := []
  closed : Option Client := none
  aborted : Option LifecycleTask := none
  deriving DecidableEq, Repr

namespace ClientRuntime

def clearLifecycleTask (inner : RuntimeInner) (generation : UInt64) :
    RuntimeInner :=
  if inner.lifecycleTask = some ⟨generation⟩ then
    { inner with lifecycleTask := none }
  else inner

def startWith (runtime : ClientRuntime) :
    LifecycleCall (UInt64 × Effects) :=
  match runtime.inner.lifecycle.beginConnect with
  | .err error => .err error
  | .panic cause => .panic cause
  | .ok (generation, lifecycle) =>
      .ok (generation,
        { runtime :=
            { inner :=
                { runtime.inner with
                  lifecycle, lifecycleTask := some ⟨generation⟩ }
              snapshots := lifecycle.snapshot }
          published := [lifecycle.snapshot] })

def completeConnect (runtime : ClientRuntime) (generation : UInt64)
    (result : Except ClientError Client) :
    LifecycleCall (Option Client × Effects) :=
  let inner := runtime.inner
  if generation ≠ inner.lifecycle.snapshot.generation ∨
      inner.lifecycle.snapshot.phase ≠ .connecting then
    .ok (none, { runtime, closed := result.toOption })
  else
    match result with
    | .ok client =>
        match inner.lifecycle.completeConnect generation (.ok ()) with
        | .err error => .err error
        | .panic cause => .panic cause
        | .ok (_, lifecycle) =>
            .ok (some client,
              { runtime :=
                  { inner := { inner with lifecycle, client := some client }
                    snapshots := lifecycle.snapshot }
                published := [lifecycle.snapshot] })
    | .error error =>
        match inner.lifecycle.completeConnect generation
            (.error (.ofClientError error)) with
        | .err error => .err error
        | .panic cause => .panic cause
        | .ok (_, lifecycle) =>
            .ok (none,
              { runtime :=
                  { inner :=
                      clearLifecycleTask { inner with lifecycle } generation
                    snapshots := lifecycle.snapshot }
                published := [lifecycle.snapshot] })

def completeConnectionClosed (runtime : ClientRuntime)
    (generation : UInt64) (failure : RuntimeFailure) :
    LifecycleCall Effects :=
  match runtime.inner.lifecycle.failOnline generation failure with
  | .err error => .err error
  | .panic cause => .panic cause
  | .ok (false, _) => .ok { runtime }
  | .ok (true, lifecycle) =>
      .ok
        { runtime :=
            { inner :=
                clearLifecycleTask
                  { runtime.inner with lifecycle, client := none } generation
              snapshots := lifecycle.snapshot }
          published := [lifecycle.snapshot] }

def stop (runtime : ClientRuntime) : LifecycleCall (UInt64 × Effects) :=
  match runtime.inner.lifecycle.beginStop with
  | .err error => .err error
  | .panic cause => .panic cause
  | .ok (none, _) =>
      .ok (runtime.inner.lifecycle.snapshot.generation, { runtime })
  | .ok (some generation, stopping) =>
      match stopping.completeStop generation with
      | .err error => .err error
      | .panic cause => .panic cause
      | .ok (_, lifecycle) =>
          .ok (generation,
            { runtime :=
                { inner := { lifecycle, client := none, lifecycleTask := none }
                  snapshots := lifecycle.snapshot }
              published := [stopping.snapshot, lifecycle.snapshot]
              closed := runtime.inner.client
              aborted := runtime.inner.lifecycleTask })

end ClientRuntime

/-! ## Tasks -/

/-- Where a connection task is. -/
inductive TaskStage where
  | unborn
  | connecting
  | watching
  | finished
  deriving DecidableEq, Repr

/-- The runtime, its tasks, and what has happened to the clients. -/
structure System where
  runtime : ClientRuntime := {}
  history : List RuntimeSnapshot := [{}]
  stage : UInt64 → TaskStage := fun _ => .unborn
  connected : List Client := []
  closedByRuntime : List Client := []
  closedByPeer : List Client := []
  aborted : List UInt64 := []

namespace System

/-- Takes over what a call did. -/
def apply (system : System) (effects : Effects) : System :=
  { system with
    runtime := effects.runtime
    history := system.history ++ effects.published
    closedByRuntime := effects.closed.toList ++ system.closedByRuntime
    aborted :=
      effects.aborted.toList.map LifecycleTask.generation ++ system.aborted }

def setStage (system : System) (generation : UInt64) (stage : TaskStage) :
    System :=
  { system with
    stage := fun other =>
      if other = generation then stage else system.stage other }

inductive Label where
  | start (answer : Except RuntimeError UInt64)
  | completeConnect (generation : UInt64) (result : Except ClientError Client)
  | closeByPeer (client : Client)
  | completeConnectionClosed (generation : UInt64)
  | stop (generation : UInt64)
  | dropTask (generation : UInt64) (connected : Bool)
  deriving DecidableEq

/-- One lock-held call, or an event outside the lock.  A call that panics has
no step. -/
inductive Step : System → Label → System → Prop where
  | start {system : System} {generation : UInt64} {effects : Effects}
      (returned : system.runtime.startWith = .ok (generation, effects)) :
      Step system (.start (.ok generation))
        ((system.apply effects).setStage generation .connecting)
  | startRefused {system : System} {error : RuntimeError}
      (refused : system.runtime.startWith = .err error ∨
        error = .executorUnavailable) :
      Step system (.start (.error error)) system
  | completed {system : System} {generation : UInt64} {client : Client}
      {effects : Effects} {watched : Option Client}
      (running : system.stage generation = .connecting)
      (own : client.connectedBy = generation)
      (returned : system.runtime.completeConnect generation (.ok client) =
        .ok (watched, effects)) :
      Step system (.completeConnect generation (.ok client))
        (({ system with connected := client :: system.connected }.apply
          effects).setStage generation
            (if watched.isSome then .watching else .finished))
  | connectFailed {system : System} {generation : UInt64}
      {error : ClientError} {effects : Effects} {watched : Option Client}
      (running : system.stage generation = .connecting)
      (returned : system.runtime.completeConnect generation (.error error) =
        .ok (watched, effects)) :
      Step system (.completeConnect generation (.error error))
        ((system.apply effects).setStage generation .finished)
  | closedByPeer {system : System} {client : Client}
      (alive : client ∈ system.connected) :
      Step system (.closeByPeer client)
        { system with closedByPeer := client :: system.closedByPeer }
  | closureCompleted {system : System} {generation : UInt64}
      {effects : Effects}
      (watching : system.stage generation = .watching)
      (ended : ⟨generation⟩ ∈ system.closedByRuntime ∨
        ⟨generation⟩ ∈ system.closedByPeer)
      (returned : system.runtime.completeConnectionClosed generation
        (.ofClientError .connection) = .ok effects) :
      Step system (.completeConnectionClosed generation)
        ((system.apply effects).setStage generation .finished)
  | stop {system : System} {generation : UInt64} {effects : Effects}
      (returned : system.runtime.stop = .ok (generation, effects)) :
      Step system (.stop generation) (system.apply effects)
  | dropped {system : System} {generation : UInt64}
      (cancelled : generation ∈ system.aborted) :
      Step system (.dropTask generation false)
        (system.setStage generation .finished)
  | droppedConnected {system : System} {generation : UInt64}
      (cancelled : generation ∈ system.aborted)
      (running : system.stage generation = .connecting) :
      Step system (.dropTask generation true)
        ({ system with
            connected := ⟨generation⟩ :: system.connected }.setStage
          generation .finished)

/-- The generation that a completion or a closure carries. -/
def Label.completes : Label → Option UInt64
  | .completeConnect generation _ => some generation
  | .completeConnectionClosed generation => some generation
  | _ => none

/-! ## Invariant -/

/-- Every connected client is stored, closed, or its task is aborted. -/
def Accounted (system : System) : Prop :=
  ∀ client ∈ system.connected,
    system.runtime.inner.client = some client ∨
      client ∈ system.closedByRuntime ∨ client ∈ system.closedByPeer ∨
      client.connectedBy ∈ system.aborted

/-- What holds between the steps. -/
structure Consistent (system : System) : Prop where
  published : system.runtime.snapshots =
    system.runtime.inner.lifecycle.snapshot
  latest : system.history.getLast? = some system.runtime.snapshots
  ordered : system.history.Pairwise fun before after => after.Follows before
  settled : system.runtime.snapshots.phase ≠ .stopping
  stored : system.runtime.inner.client =
    if system.runtime.snapshots.phase = .online then
      some ⟨system.runtime.snapshots.generation⟩
    else none
  task : system.runtime.inner.lifecycleTask =
    if system.runtime.snapshots.phase = .connecting ∨
        system.runtime.snapshots.phase = .online then
      some ⟨system.runtime.snapshots.generation⟩
    else none
  known : ∀ client, system.runtime.inner.client = some client →
    client ∈ system.connected
  accounted : system.Accounted

theorem consistent_initial : Consistent {} where
  published := rfl
  latest := rfl
  ordered := List.pairwise_singleton _ _
  settled := nofun
  stored := rfl
  task := rfl
  known := nofun
  accounted := nofun

/-- One more snapshot at the end of the history. -/
theorem ordered_snoc {history : List RuntimeSnapshot}
    {last next : RuntimeSnapshot}
    (ordered : history.Pairwise fun before after => after.Follows before)
    (latest : history.getLast? = some last) (follows : next.Follows last) :
    (history ++ [next]).Pairwise fun before after => after.Follows before := by
  obtain ⟨front, rfl⟩ := List.getLast?_eq_some_iff.mp latest
  have across := (List.pairwise_append.mp ordered).2.2
  refine List.pairwise_append.mpr
    ⟨ordered, List.pairwise_singleton _ _, ?_⟩
  intro earlier member
  rw [List.forall_mem_singleton]
  rcases List.mem_append.mp member with old | newest
  · exact follows.trans (across earlier old last (List.mem_singleton.mpr rfl))
  · rw [List.mem_singleton.mp newest]
    exact follows

/-- A step that leaves the runtime alone. -/
theorem consistent_unchanged {system next : System}
    (consistent : system.Consistent)
    (runtime : next.runtime = system.runtime)
    (history : next.history = system.history)
    (connected : ∀ client ∈ system.connected, client ∈ next.connected)
    (accounted : next.Accounted) : next.Consistent := by
  constructor
  · rw [runtime]
    exact consistent.published
  · rw [history, runtime]
    exact consistent.latest
  · rw [history]
    exact consistent.ordered
  · rw [runtime]
    exact consistent.settled
  · rw [runtime]
    exact consistent.stored
  · rw [runtime]
    exact consistent.task
  · rw [runtime]
    intro client stored
    exact connected client (consistent.known client stored)
  · exact accounted

theorem ordered_publish {system : System} {snapshot : RuntimeSnapshot}
    (consistent : system.Consistent)
    (follows : snapshot.Follows system.runtime.inner.lifecycle.snapshot) :
    (system.history ++ [snapshot]).Pairwise fun before after =>
      after.Follows before := by
  rw [← consistent.published] at follows
  exact ordered_snoc consistent.ordered consistent.latest follows

/-- A step whose last snapshot is that of the lifecycle it leaves. -/
theorem consistent_publish {next : System} {lifecycle : Lifecycle}
    {client : Option Client} {lifecycleTask : Option LifecycleTask}
    {earlier : List RuntimeSnapshot}
    (runtime : next.runtime =
      ⟨⟨lifecycle, client, lifecycleTask⟩, lifecycle.snapshot⟩)
    (history : next.history = earlier ++ [lifecycle.snapshot])
    (ordered : (earlier ++ [lifecycle.snapshot]).Pairwise
      fun before after => after.Follows before)
    (settled : lifecycle.snapshot.phase ≠ .stopping)
    (stored : client = if lifecycle.snapshot.phase = .online then
      some ⟨lifecycle.snapshot.generation⟩ else none)
    (task : lifecycleTask = if lifecycle.snapshot.phase = .connecting ∨
        lifecycle.snapshot.phase = .online then
      some ⟨lifecycle.snapshot.generation⟩ else none)
    (known : ∀ stored, client = some stored → stored ∈ next.connected)
    (accounted : next.Accounted) : next.Consistent := by
  constructor
  · rw [runtime]
  · rw [history, runtime]
    exact List.getLast?_concat
  · rw [history]
    exact ordered
  · rw [runtime]
    exact settled
  · rw [runtime]
    exact stored
  · rw [runtime]
    exact task
  · rw [runtime]
    exact known
  · exact accounted

theorem consistent_setStage {system : System}
    (consistent : system.Consistent) (generation : UInt64)
    (stage : TaskStage) : (system.setStage generation stage).Consistent :=
  consistent_unchanged consistent rfl rfl (fun _ => id) consistent.accounted

/-- Outside of `Online` no client is stored. -/
theorem absent_of_phase {system : System} (consistent : system.Consistent)
    (offline : system.runtime.inner.lifecycle.snapshot.phase ≠ .online) :
    system.runtime.inner.client = none := by
  rw [consistent.stored, consistent.published, if_neg offline]

theorem consistent_start {system : System} {generation : UInt64}
    {effects : Effects} (consistent : system.Consistent)
    (returned : system.runtime.startWith = .ok (generation, effects)) :
    (system.apply effects).Consistent := by
  unfold ClientRuntime.startWith at returned
  split at returned
  · cases returned
  · cases returned
  rename_i opened lifecycle begun
  cases returned
  obtain ⟨idle, follows, _, current, phase⟩ := Lifecycle.beginConnect_ok begun
  have absent : system.runtime.inner.client = none := by
    apply absent_of_phase consistent
    rcases idle with stopped | failed
    · rw [stopped]
      exact nofun
    · rw [failed]
      exact nofun
  apply consistent_publish rfl rfl (ordered_publish consistent follows)
  · rw [phase]
    exact nofun
  · rw [phase]
    exact absent
  · rw [phase, current]
    rfl
  · exact consistent.known
  · exact consistent.accounted

/-- A successful completion is closed when it comes too late, and is stored
otherwise. -/
theorem completeConnect_connected {runtime : ClientRuntime}
    {generation : UInt64} {client : Client} {watched : Option Client}
    {effects : Effects}
    (returned : runtime.completeConnect generation (.ok client) =
      .ok (watched, effects)) :
    effects = { runtime, closed := some client } ∨
      generation = runtime.inner.lifecycle.snapshot.generation ∧
      runtime.inner.lifecycle.snapshot.phase = .connecting ∧
      ∃ lifecycle : Lifecycle,
        lifecycle.snapshot.Follows runtime.inner.lifecycle.snapshot ∧
        lifecycle.snapshot.generation = generation ∧
        lifecycle.snapshot.phase = .online ∧
        effects =
          { runtime :=
              { inner :=
                  { runtime.inner with lifecycle, client := some client }
                snapshots := lifecycle.snapshot }
            published := [lifecycle.snapshot] } := by
  unfold ClientRuntime.completeConnect at returned
  dsimp only at returned
  split at returned
  · cases returned
    exact .inl rfl
  · rename_i current
    rw [not_or, not_not, not_not] at current
    split at returned
    · cases returned
    · cases returned
    rename_i applied lifecycle completed
    cases returned
    obtain ⟨_, follows, kept, phase⟩ :=
      Lifecycle.completeConnect_ok current completed
    exact .inr ⟨current.1, current.2, lifecycle, follows,
      kept.trans current.1.symm, phase, rfl⟩

/-- A failed completion changes nothing when it comes too late, and retires
its task otherwise. -/
theorem completeConnect_failed {runtime : ClientRuntime}
    {generation : UInt64} {error : ClientError} {watched : Option Client}
    {effects : Effects}
    (returned : runtime.completeConnect generation (.error error) =
      .ok (watched, effects)) :
    effects = { runtime } ∨
      generation = runtime.inner.lifecycle.snapshot.generation ∧
      runtime.inner.lifecycle.snapshot.phase = .connecting ∧
      ∃ lifecycle : Lifecycle,
        lifecycle.snapshot.Follows runtime.inner.lifecycle.snapshot ∧
        lifecycle.snapshot.phase = .failed ∧
        effects =
          { runtime :=
              { inner := ClientRuntime.clearLifecycleTask
                  { runtime.inner with lifecycle } generation
                snapshots := lifecycle.snapshot }
            published := [lifecycle.snapshot] } := by
  unfold ClientRuntime.completeConnect at returned
  dsimp only at returned
  split at returned
  · cases returned
    exact .inl rfl
  · rename_i current
    rw [not_or, not_not, not_not] at current
    split at returned
    · cases returned
    · cases returned
    rename_i applied lifecycle completed
    cases returned
    obtain ⟨_, follows, _, phase⟩ :=
      Lifecycle.completeConnect_ok current completed
    exact .inr ⟨current.1, current.2, lifecycle, follows, phase, rfl⟩

theorem consistent_completed {system : System} {generation : UInt64}
    {client : Client} {watched : Option Client} {effects : Effects}
    (consistent : system.Consistent)
    (own : client.connectedBy = generation)
    (returned : system.runtime.completeConnect generation (.ok client) =
      .ok (watched, effects)) :
    ({ system with connected := client :: system.connected }.apply
      effects).Consistent := by
  rcases completeConnect_connected returned with
    rfl | ⟨current, connecting, lifecycle, follows, kept, phase, rfl⟩
  · refine consistent_unchanged consistent rfl (List.append_nil _)
      (fun _ => List.mem_cons_of_mem _) ?_
    intro other member
    rcases List.mem_cons.mp member with rfl | earlier
    · exact .inr (.inl List.mem_cons_self)
    · exact (consistent.accounted other earlier).imp_right
        (Or.imp_left (List.mem_cons_of_mem _))
  · have absent : system.runtime.inner.client = none := by
      apply absent_of_phase consistent
      rw [connecting]
      exact nofun
    apply consistent_publish rfl rfl (ordered_publish consistent follows)
    · rw [phase]
      exact nofun
    · rw [if_pos phase, kept, ← own]
    · rw [if_pos (.inr phase), kept, consistent.task, consistent.published,
        if_pos (.inl connecting), current]
    · intro stored same
      cases same
      exact List.mem_cons_self
    · intro other member
      rcases List.mem_cons.mp member with rfl | earlier
      · exact .inl rfl
      · have before := consistent.accounted other earlier
        rw [absent] at before
        exact .inr (before.resolve_left nofun)

theorem clearLifecycleTask_eq {inner : RuntimeInner} {generation : UInt64}
    (held : inner.lifecycleTask = some ⟨generation⟩) :
    ClientRuntime.clearLifecycleTask inner generation =
      { inner with lifecycleTask := none } :=
  if_pos held

theorem consistent_connectFailed {system : System} {generation : UInt64}
    {error : ClientError} {watched : Option Client} {effects : Effects}
    (consistent : system.Consistent)
    (returned : system.runtime.completeConnect generation (.error error) =
      .ok (watched, effects)) :
    (system.apply effects).Consistent := by
  rcases completeConnect_failed returned with
    rfl | ⟨current, connecting, lifecycle, follows, phase, rfl⟩
  · exact consistent_unchanged consistent rfl (List.append_nil _)
      (fun _ => id) consistent.accounted
  · have held : system.runtime.inner.lifecycleTask = some ⟨generation⟩ := by
      rw [consistent.task, consistent.published, if_pos (.inl connecting),
        current]
    have absent : system.runtime.inner.client = none := by
      apply absent_of_phase consistent
      rw [connecting]
      exact nofun
    rw [clearLifecycleTask_eq (by exact held)]
    apply consistent_publish rfl rfl (ordered_publish consistent follows)
    · rw [phase]
      exact nofun
    · rw [phase]
      exact absent
    · rw [phase]
      rfl
    · exact consistent.known
    · exact consistent.accounted

/-- A closure that is not superseded finds its own client in the slot. -/
theorem consistent_closure {system : System} {generation : UInt64}
    {failure : RuntimeFailure} {effects : Effects}
    (consistent : system.Consistent)
    (ended : ⟨generation⟩ ∈ system.closedByRuntime ∨
      ⟨generation⟩ ∈ system.closedByPeer)
    (returned : system.runtime.completeConnectionClosed generation failure =
      .ok effects) :
    (system.apply effects).Consistent := by
  unfold ClientRuntime.completeConnectionClosed at returned
  split at returned
  · cases returned
  · cases returned
  · cases returned
    exact consistent_unchanged consistent rfl (List.append_nil _)
      (fun _ => id) consistent.accounted
  · rename_i lifecycle failed
    cases returned
    obtain ⟨impossible, _⟩ | ⟨_, current, online, follows, phase⟩ :=
      Lifecycle.failOnline_ok failed
    · cases impossible
    have held : system.runtime.inner.lifecycleTask = some ⟨generation⟩ := by
      rw [consistent.task, consistent.published, if_pos (.inr online),
        current]
    have stored : system.runtime.inner.client = some ⟨generation⟩ := by
      rw [consistent.stored, consistent.published, if_pos online, current]
    rw [clearLifecycleTask_eq (by exact held)]
    apply consistent_publish rfl rfl (ordered_publish consistent follows)
    · rw [phase]
      exact nofun
    · rw [phase]
      rfl
    · rw [phase]
      rfl
    · exact nofun
    · intro other member
      have before := consistent.accounted other member
      rw [stored] at before
      rcases before with same | settled
      · cases same
        rcases ended with byRuntime | byPeer
        · exact .inr (.inl byRuntime)
        · exact .inr (.inr (.inl byPeer))
      · exact .inr settled

theorem consistent_stop {system : System} {generation : UInt64}
    {effects : Effects} (consistent : system.Consistent)
    (returned : system.runtime.stop = .ok (generation, effects)) :
    (system.apply effects).Consistent := by
  unfold ClientRuntime.stop at returned
  split at returned
  · cases returned
  · cases returned
  · cases returned
    exact consistent_unchanged consistent rfl (List.append_nil _)
      (fun _ => id) consistent.accounted
  rename_i opened stopping begun
  split at returned
  · cases returned
  · cases returned
  rename_i completed lifecycle ended
  cases returned
  obtain ⟨_, impossible, _⟩ | ⟨generation, same, begins, _, current, phase⟩ :=
    Lifecycle.beginStop_ok begun
  · cases impossible
  cases same
  obtain ⟨_, ends, stopped⟩ := Lifecycle.completeStop_ok ⟨current, phase⟩ ended
  have first := ordered_publish consistent begins
  have both := ordered_snoc first List.getLast?_concat ends
  apply consistent_publish rfl _ both
  · rw [stopped]
    exact nofun
  · rw [stopped]
    rfl
  · rw [stopped]
    rfl
  · exact nofun
  · intro other member
    rcases consistent.accounted other member with
      stored | byRuntime | byPeer | aborted
    · refine .inr (.inl (List.mem_append_left _ ?_))
      change other ∈ system.runtime.inner.client.toList
      rw [stored]
      exact List.mem_singleton.mpr rfl
    · exact .inr (.inl (List.mem_append_right _ byRuntime))
    · exact .inr (.inr (.inl byPeer))
    · exact .inr (.inr (.inr (List.mem_append_right _ aborted)))
  · rw [List.append_assoc]
    rfl

theorem consistent_step {system next : System} {label : Label}
    (consistent : system.Consistent) (step : Step system label next) :
    next.Consistent := by
  cases step with
  | start returned =>
      apply consistent_setStage
      exact consistent_start consistent returned
  | startRefused refused => exact consistent
  | completed running own returned =>
      apply consistent_setStage
      exact consistent_completed consistent own returned
  | connectFailed running returned =>
      apply consistent_setStage
      exact consistent_connectFailed consistent returned
  | closedByPeer alive =>
      refine consistent_unchanged consistent rfl rfl (fun _ => id) ?_
      intro other member
      exact (consistent.accounted other member).imp_right
        (Or.imp_right (Or.imp_left (List.mem_cons_of_mem _)))
  | closureCompleted watching ended returned =>
      apply consistent_setStage
      exact consistent_closure consistent ended returned
  | stop returned => exact consistent_stop consistent returned
  | dropped cancelled => exact consistent_setStage consistent _ _
  | droppedConnected cancelled running =>
      apply consistent_setStage
      refine consistent_unchanged consistent rfl rfl
        (fun _ => List.mem_cons_of_mem _) ?_
      intro other member
      rcases List.mem_cons.mp member with rfl | earlier
      · exact .inr (.inr (.inr cancelled))
      · exact consistent.accounted other earlier

/-- A completion or a closure of another generation leaves the runtime as it
is. -/
theorem superseded_step {system next : System} {label : Label}
    {generation : UInt64} (step : Step system label next)
    (completes : label.completes = some generation)
    (superseded : generation ≠
      system.runtime.inner.lifecycle.snapshot.generation) :
    next.runtime = system.runtime := by
  cases step with
  | completed running own returned =>
      cases completes
      rcases completeConnect_connected returned with rfl | ⟨current, _⟩
      · rfl
      · exact absurd current superseded
  | connectFailed running returned =>
      cases completes
      rcases completeConnect_failed returned with rfl | ⟨current, _⟩
      · rfl
      · exact absurd current superseded
  | closureCompleted watching ended returned =>
      cases completes
      unfold ClientRuntime.completeConnectionClosed at returned
      split at returned
      · cases returned
      · cases returned
      · cases returned
        rfl
      · rename_i failed
        obtain ⟨impossible, _⟩ | ⟨_, current, _⟩ :=
          Lifecycle.failOnline_ok failed
        · cases impossible
        · exact absurd current superseded
  | start | startRefused | closedByPeer | stop | dropped |
    droppedConnected => cases completes

/-- The lifecycle of a client runtime over every order of its calls. -/
theorem lifecycle_of_run {trace : List Label} {system : System}
    (run : Run Step {} trace system) :
    system.runtime.snapshots = system.runtime.inner.lifecycle.snapshot ∧
    (system.runtime.inner.client.isSome ↔
      system.runtime.snapshots.phase = .online) ∧
    (∀ client, system.runtime.inner.client = some client →
      client ∈ system.connected ∧
      client.connectedBy = system.runtime.snapshots.generation) ∧
    system.history.getLast? = some system.runtime.snapshots ∧
    (system.history.Pairwise fun before after =>
      before.revision < after.revision ∧
      before.generation ≤ after.generation) ∧
    (∀ {label next generation}, Step system label next →
      label.completes = some generation →
      generation ≠ system.runtime.inner.lifecycle.snapshot.generation →
      next.runtime = system.runtime) ∧
    ∀ client ∈ system.connected,
      system.runtime.inner.client ≠ some client →
      client ∈ system.closedByRuntime ∨ client ∈ system.closedByPeer ∨
        client.connectedBy ∈ system.aborted := by
  have consistent : system.Consistent :=
    run.invariant consistent_initial consistent_step
  refine ⟨consistent.published, ?_, ?_, consistent.latest,
    consistent.ordered, superseded_step, ?_⟩
  · rw [consistent.stored]
    by_cases online : system.runtime.snapshots.phase = .online
    · rw [if_pos online]
      exact iff_of_true rfl online
    · rw [if_neg online]
      exact iff_of_false nofun online
  · intro client stored
    refine ⟨consistent.known client stored, ?_⟩
    rw [consistent.stored] at stored
    split at stored
    · cases stored
      rfl
    · cases stored
  · intro client member elsewhere
    exact (consistent.accounted client member).resolve_left elsewhere

/-- A connection that completes after stop and restart is closed. -/
theorem lifecycle_of_late_completion :
    ∃ system : System,
      Run Step {} [.start (.ok 1), .stop 2, .start (.ok 3),
        .completeConnect 1 (.ok ⟨1⟩)] system ∧
      system.runtime.snapshots.phase = .connecting ∧
      (⟨1⟩ ∈ system.closedByRuntime ∨ ⟨1⟩ ∈ system.closedByPeer ∨
        1 ∈ system.aborted) := by
  have started : Run Step {} [.start (.ok 1)] _ := .single (.start rfl)
  have stopped := started.snoc (.stop rfl)
  have restarted := stopped.snoc (.start rfl)
  have completed : Run Step {} [.start (.ok 1), .stop 2, .start (.ok 3),
      .completeConnect 1 (.ok ⟨1⟩)] _ :=
    restarted.snoc (.completed rfl rfl rfl)
  obtain ⟨_, _, _, _, _, _, accounted⟩ := lifecycle_of_run completed
  exact ⟨_, completed, rfl, accounted ⟨1⟩ List.mem_cons_self nofun⟩

end System

end Velum.Runtime
