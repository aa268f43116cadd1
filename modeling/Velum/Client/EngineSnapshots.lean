import Velum.Client.EngineController

/-!
# Snapshots of the default node

A runtime only moves to later revisions, so a refresh adopts the snapshot of
the default node as long as the snapshot that is held comes from the same
runtime, or from one that did not get further.
-/

namespace Velum.Client

open Foundation
open Velum.Runtime

/-! ## The revisions of one runtime -/

/-- A move is ignored or enters a phase. -/
theorem RuntimeMove.call_cases (lifecycle : Lifecycle) (move : RuntimeMove) :
    move.call lifecycle = .ok (false, lifecycle) ∨
      ∃ phase failure, move.call lifecycle =
        lifecycle.transition phase failure fun next => (true, next) := by
  cases move with
  | connected =>
      unfold RuntimeMove.call Lifecycle.completeConnect
      dsimp only
      split
      · exact .inl rfl
      · exact .inr ⟨_, _, rfl⟩
  | connectFailed failure =>
      unfold RuntimeMove.call Lifecycle.completeConnect
      dsimp only
      split
      · exact .inl rfl
      · exact .inr ⟨_, _, rfl⟩
  | lost failure =>
      unfold RuntimeMove.call Lifecycle.failOnline
      dsimp only
      split
      · exact .inl rfl
      · exact .inr ⟨_, _, rfl⟩

theorem RuntimeMove.apply_cases (lifecycle : Lifecycle)
    (move : RuntimeMove) :
    move.apply lifecycle = lifecycle ∨
      lifecycle.snapshot.revision < (move.apply lifecycle).snapshot.revision ∧
      (move.apply lifecycle).snapshot.generation =
        lifecycle.snapshot.generation := by
  unfold RuntimeMove.apply
  rcases move.call_cases lifecycle with ignored | ⟨phase, failure, entered⟩
  · rw [ignored]
    exact .inl rfl
  · cases made : move.call lifecycle with
    | ok value =>
        rw [entered] at made
        obtain ⟨next, rfl, later, same, _⟩ := Lifecycle.transition_ok made
        exact .inr ⟨later, same⟩
    | err error => exact .inl rfl
    | panic cause => exact .inl rfl

theorem RuntimeMove.revision_le (lifecycle : Lifecycle) (move : RuntimeMove) :
    lifecycle.snapshot.revision ≤
      (move.apply lifecycle).snapshot.revision := by
  rcases move.apply_cases lifecycle with same | ⟨later, _⟩
  · rw [same]
    exact UInt64.le_refl _
  · exact UInt64.le_of_lt later

theorem RuntimeMove.generation_eq (lifecycle : Lifecycle)
    (move : RuntimeMove) :
    (move.apply lifecycle).snapshot.generation =
      lifecycle.snapshot.generation := by
  rcases move.apply_cases lifecycle with same | ⟨_, kept⟩
  · rw [same]
  · exact kept

theorem generation_foldl (lifecycle : Lifecycle) (moves : List RuntimeMove) :
    (moves.foldl RuntimeMove.apply lifecycle).snapshot.generation =
      lifecycle.snapshot.generation := by
  induction moves generalizing lifecycle with
  | nil => rfl
  | cons move rest induction =>
      rw [List.foldl_cons, induction]
      exact move.generation_eq lifecycle

theorem generation_started (moves : List RuntimeMove) :
    (moves.foldl RuntimeMove.apply startedRuntime).snapshot.generation = 1 :=
  generation_foldl startedRuntime moves

/-! ## The invariant -/

namespace ClientEngineController

/-- The snapshot that is held is not beyond that of the default node, which is
the one that the default reference finds. -/
structure Ready (controller : ClientEngineController) : Prop where
  first : controller.snapshot.generation ≤ 1
  released : controller.disposed = true → ∀ engine,
    controller.engine = some engine → engine.destroyed = true
  runtimes : ∀ engine, controller.engine = some engine →
    ∀ address lifecycle, engine.runtimes address = some lifecycle →
      lifecycle.snapshot.generation = 1
  current : ∀ engine entry, controller.engine = some engine →
    engine.destroyed = false →
    engine.state.nodes.get? engine.state.defaultNode = some entry →
    ∃ reference lifecycle, controller.defaultNode = some reference ∧
      engine.state.nodeSnapshot reference = some entry ∧
      engine.runtimes entry.address = some lifecycle ∧
      controller.snapshot.revision ≤ lifecycle.snapshot.revision

variable {controller after : ClientEngineController}

theorem ready_created : Ready {} := by
  constructor
  · exact UInt64.le_of_lt (by decide)
  · intro released
    cases released
  · intro engine present
    cases present
  · intro engine entry present
    cases present

/-- Polling does not matter. -/
theorem Ready.congr (ready : Ready controller)
    (engine : after.engine = controller.engine)
    (defaultNode : after.defaultNode = controller.defaultNode)
    (snapshot : after.snapshot = controller.snapshot)
    (disposed : after.disposed = controller.disposed) : Ready after := by
  constructor
  · rw [snapshot]
    exact ready.first
  · rw [disposed, engine]
    exact ready.released
  · rw [engine]
    exact ready.runtimes
  · rw [engine, defaultNode, snapshot]
    exact ready.current

theorem Ready.syncPolling (ready : Ready controller) :
    Ready controller.syncPolling := by
  unfold ClientEngineController.syncPolling
  split
  · exact ready
  · exact ready.congr rfl rfl rfl rfl

theorem adopted_syncPolling :
    Adopted controller.syncPolling ↔ Adopted controller := by
  unfold ClientEngineController.syncPolling
  split
  · rfl
  · rfl

theorem snapshotOf_generation {engine : ClientEngine}
    {entry : NodeEntry Unit} (ready : Ready controller)
    (present : controller.engine = some engine) :
    (engine.snapshotOf entry).generation ≤ 1 := by
  unfold ClientEngine.snapshotOf
  cases started : engine.runtimes entry.address with
  | none => exact UInt64.le_of_lt (by decide)
  | some lifecycle =>
      have generation := ready.runtimes engine present _ _ started
      rw [Option.getD_some, generation]
      exact UInt64.le_refl 1

/-- A refresh adopts the snapshot of the default node. -/
theorem Ready.adopts (ready : Ready controller) {engine : ClientEngine}
    {entry : NodeEntry Unit} (live : controller.disposed = false)
    (present : controller.engine = some engine)
    (alive : engine.destroyed = false)
    (chosen : engine.state.nodes.get? engine.state.defaultNode =
      some entry) :
    controller.refresh.2 =
      { controller with snapshot := engine.snapshotOf entry }.syncPolling := by
  obtain ⟨reference, lifecycle, named, found, started, bounded⟩ :=
    ready.current engine entry present alive chosen
  have shown : engine.nodeSnapshot reference =
      some (engine.snapshotOf entry) := by
    unfold ClientEngine.nodeSnapshot
    rw [alive, found]
    rfl
  have generation := ready.runtimes engine present _ _ started
  have same : engine.snapshotOf entry = lifecycle.snapshot := by
    unfold ClientEngine.snapshotOf
    rw [started]
    rfl
  have kept : ¬ ((engine.snapshotOf entry).revision <
        controller.snapshot.revision ∨
      (engine.snapshotOf entry).generation <
        controller.snapshot.generation) := by
    rw [same, generation]
    rintro (earlier | earlier)
    · exact UInt64.not_lt.mpr bounded earlier
    · exact UInt64.not_lt.mpr ready.first earlier
  unfold refresh
  rw [live, present, named]
  dsimp only
  rw [shown]
  dsimp only
  rw [if_neg kept]
  rfl

theorem refresh_cases (controller : ClientEngineController) :
    controller.refresh.2 = controller ∨
      ∃ engine entry, controller.engine = some engine ∧
        controller.refresh.2 = { controller with
          snapshot := engine.snapshotOf entry }.syncPolling := by
  unfold refresh
  split
  · exact .inl rfl
  · split
    · rename_i engine reference present _
      unfold ClientEngine.nodeSnapshot
      split
      · exact .inl rfl
      · rename_i next shown
        split
        · exact .inl rfl
        · split at shown
          · cases shown
          · obtain ⟨entry, _, rfl⟩ := Option.map_eq_some_iff.mp shown
            exact .inr ⟨engine, entry, present, rfl⟩
    · exact .inl rfl

theorem defaultSnapshot_eq_some {engine : ClientEngine}
    {snapshot : RuntimeSnapshot}
    (shown : engine.defaultSnapshot = some snapshot) :
    engine.destroyed = false ∧ ∃ entry,
      engine.state.nodes.get? engine.state.defaultNode = some entry ∧
      snapshot = engine.snapshotOf entry := by
  unfold ClientEngine.defaultSnapshot at shown
  split at shown
  · cases shown
  · rename_i alive
    obtain ⟨entry, chosen, rfl⟩ := Option.map_eq_some_iff.mp shown
    exact ⟨by simpa using alive, entry, chosen, rfl⟩

theorem refresh_engine (controller : ClientEngineController) :
    controller.refresh.2.engine = controller.engine := by
  rcases controller.refresh_cases with same | ⟨engine, entry, _, adopted⟩
  · rw [same]
  · rw [adopted]
    unfold ClientEngineController.syncPolling
    split
    · rfl
    · rfl

theorem Ready.refresh_adopted (ready : Ready controller) :
    Adopted controller.refresh.2 := by
  intro engine snapshot present shown
  rw [refresh_engine] at present
  obtain ⟨alive, entry, chosen, rfl⟩ := defaultSnapshot_eq_some shown
  cases live : controller.disposed with
  | true =>
      rw [ready.released live engine present] at alive
      cases alive
  | false =>
      rw [ready.adopts live present alive chosen]
      unfold ClientEngineController.syncPolling
      split
      · rfl
      · rfl

theorem Ready.refresh (ready : Ready controller) :
    Ready controller.refresh.2 := by
  rcases controller.refresh_cases with same | ⟨engine, entry, present, moved⟩
  · rw [same]
    exact ready
  · have adopted := ready.refresh_adopted
    rw [moved, adopted_syncPolling] at adopted
    rw [moved]
    apply Ready.syncPolling
    refine ⟨snapshotOf_generation ready present, ready.released,
      ready.runtimes, ?_⟩
    intro other chosen held alive found
    obtain ⟨reference, lifecycle, named, listed, started, _⟩ :=
      ready.current other chosen held alive found
    have shown : other.defaultSnapshot = some lifecycle.snapshot := by
      unfold ClientEngine.defaultSnapshot ClientEngine.snapshotOf
      rw [alive, found]
      simp [started]
    refine ⟨reference, lifecycle, named, listed, started, ?_⟩
    have same := adopted other lifecycle.snapshot held shown
    rw [same]
    exact UInt64.le_refl _

/-! ## The other events -/

theorem Ready.engineFor (ready : Ready controller)
    (live : controller.disposed = false) (path : String) :
    Ready (controller.engineFor path) := by
  unfold ClientEngineController.engineFor
  split
  · exact ready
  · constructor
    · exact ready_created.first
    · intro released
      rw [live] at released
      cases released
    · intro engine present
      cases present
      intro address lifecycle started
      cases started
    · intro engine entry present _ chosen
      cases present
      cases chosen

/-- A runtime moves on, or another node is started. -/
theorem Ready.changeRuntime (ready : Ready controller) {address : Nat}
    {change : Option Lifecycle → Option Lifecycle}
    (later : ∀ lifecycle, ∃ next, change (some lifecycle) = some next ∧
      lifecycle.snapshot.revision ≤ next.snapshot.revision ∧
      next.snapshot.generation = lifecycle.snapshot.generation)
    (first : ∀ next, change none = some next →
      next.snapshot.generation = 1) :
    Ready (controller.withEngine fun engine =>
      engine.changeRuntime address change) := by
  constructor
  · exact ready.first
  · intro released engine present
    obtain ⟨before, held, rfl⟩ := Option.map_eq_some_iff.mp present
    exact ready.released released before held
  · intro engine present other lifecycle started
    obtain ⟨before, held, rfl⟩ := Option.map_eq_some_iff.mp present
    have changed : Function.update before.runtimes address
        (change (before.runtimes address)) other = some lifecycle := started
    by_cases same : other = address
    · rw [same, Function.update_self] at changed
      cases running : before.runtimes address with
      | none =>
          rw [running] at changed
          exact first lifecycle changed
      | some earlier =>
          rw [running] at changed
          obtain ⟨next, moved, _, kept⟩ := later earlier
          rw [moved] at changed
          cases changed
          exact kept.trans (ready.runtimes before held _ _ running)
    · rw [Function.update_of_ne same] at changed
      exact ready.runtimes before held _ _ changed
  · intro engine entry present alive chosen
    obtain ⟨before, held, rfl⟩ := Option.map_eq_some_iff.mp present
    obtain ⟨reference, lifecycle, named, found, started, bounded⟩ :=
      ready.current before entry held alive chosen
    change ∃ reference lifecycle, controller.defaultNode = some reference ∧
      before.state.nodeSnapshot reference = some entry ∧
      Function.update before.runtimes address
        (change (before.runtimes address)) entry.address = some lifecycle ∧
      controller.snapshot.revision ≤ lifecycle.snapshot.revision
    by_cases same : entry.address = address
    · obtain ⟨next, moved, ahead, _⟩ := later lifecycle
      refine ⟨reference, next, named, found, ?_,
        UInt64.le_trans bounded ahead⟩
      rw [same] at started ⊢
      rw [Function.update_self, started]
      exact moved
    · refine ⟨reference, lifecycle, named, found, ?_, bounded⟩
      rw [Function.update_of_ne same]
      exact started

theorem Ready.destroyed (ready : Ready controller) :
    Ready (controller.withEngine fun engine =>
      { engine with destroyed := true }) := by
  constructor
  · exact ready.first
  · intro _ engine present
    obtain ⟨before, _, rfl⟩ := Option.map_eq_some_iff.mp present
    rfl
  · intro engine present address lifecycle started
    obtain ⟨before, held, rfl⟩ := Option.map_eq_some_iff.mp present
    exact ready.runtimes before held _ _ started
  · intro engine entry present alive
    obtain ⟨before, _, rfl⟩ := Option.map_eq_some_iff.mp present
    cases alive

theorem Ready.stop (ready : Ready controller) : Ready controller.stop := by
  unfold ClientEngineController.stop
  dsimp only
  split
  · exact ready.congr rfl rfl rfl rfl
  · rename_i engine present
    split
    · exact ready.congr rfl rfl rfl rfl
    · rename_i stopped made
      unfold ClientEngine.stop at made
      split at made
      · cases made
      · cases made
        constructor
        · exact ready_created.first
        · intro released other held
          cases held
          exact ready.released released engine present
        · intro other held
          cases held
          exact ready.runtimes engine present
        · intro other entry held _ chosen
          cases held
          cases chosen

/-- What a successful activation of the engine leaves. -/
theorem activate_eq_some {engine activated : ClientEngine}
    {nodes : List (ResolvedNode Unit)} {defaultNode : String}
    {early : List RuntimeMove}
    (made : engine.activate nodes defaultNode early = some activated) :
    engine.destroyed = false ∧ acceptsText defaultNode = true ∧
      ∃ prepared next entry,
        PoolState.prepare engine.nextAddress nodes defaultNode =
          .ok (prepared, next) ∧
        prepared.nodes.get? prepared.defaultNode = some entry ∧
        activated.destroyed = false ∧
        activated.state = { prepared with
          generation := engine.nextGeneration } ∧
        activated.runtimes = Function.update engine.runtimes entry.address
          (some (early.foldl RuntimeMove.apply startedRuntime)) := by
  unfold ClientEngine.activate at made
  split at made
  · cases made
  · rename_i accepted
    rw [not_or] at accepted
    obtain ⟨alive, taken⟩ := accepted
    have live : engine.destroyed = false := by simpa using alive
    split at made
    · cases made
    · rename_i prepared next listed
      split at made
      · cases made
      · rename_i entry chosen
        cases made
        have text : acceptsText defaultNode = true := by
          simp only [ClientEngine.acceptsNodes, Bool.not_eq_false,
            Bool.and_eq_true] at taken
          exact taken.1.2
        exact ⟨live, text, prepared, next, entry, listed, chosen, live, rfl,
          rfl⟩

/-- The controller between the activation of the engine and the refresh. -/
theorem Ready.activated (ready : Ready controller)
    {engine activated : ClientEngine} {nodes : List (ResolvedNode Unit)}
    {defaultNode : String} {early : List RuntimeMove}
    (live : controller.disposed = false)
    (present : controller.engine = some engine)
    (made : engine.activate nodes defaultNode early = some activated)
    (behind : controller.snapshot.revision ≤
      (early.foldl RuntimeMove.apply startedRuntime).snapshot.revision)
    (unhidden : ∀ first ∈ nodes, ∀ second ∈ nodes,
      first.nodeAlias = defaultNode → second.id = defaultNode →
        second.id ≤ first.id) :
    Ready { controller with
      engine := some activated, defaultNode := some defaultNode } := by
  obtain ⟨_, text, prepared, next, entry, listed, chosen, _, state,
    runtimes⟩ := activate_eq_some made
  constructor
  · exact ready.first
  · intro released
    rw [live] at released
    cases released
  · intro other held address lifecycle started
    cases held
    rw [runtimes] at started
    by_cases same : address = entry.address
    · rw [same, Function.update_self] at started
      cases started
      exact generation_started early
    · rw [Function.update_of_ne same] at started
      exact ready.runtimes engine present _ _ started
  · intro other found held _ selected
    cases held
    rw [state] at selected ⊢
    have same : prepared.nodes.get? prepared.defaultNode = some found :=
      selected
    rw [chosen] at same
    cases same
    refine ⟨defaultNode, _, rfl, ?_, ?_, behind⟩
    · have shown := nodeSnapshot_default listed text unhidden chosen
      exact shown
    · rw [runtimes, Function.update_self]

theorem engineFor_behind {path : String} {revision : UInt64}
    (behind : controller.reuses path = true →
      controller.snapshot.revision ≤ revision) :
    (controller.engineFor path).snapshot.revision ≤ revision := by
  unfold engineFor
  split
  · rename_i reused
    exact behind reused
  · exact UInt64.zero_le

theorem engineFor_disposed (path : String) :
    (controller.engineFor path).disposed = controller.disposed := by
  unfold engineFor
  split
  · rfl
  · rfl

/-- Every event keeps the invariant, and one that ends with a refresh leaves
the current snapshot. -/
theorem ready_of_step {event : EngineEvent} (ready : Ready controller)
    (step : TameStep controller event after) :
    Ready after ∧ (event.refreshes = true → Adopted after) := by
  obtain ⟨made, tame⟩ := step
  cases event with
  | activated path nodes defaultNode early =>
      unfold ClientEngineController.step at made
      dsimp only at made
      split at made
      · cases made
      · rename_i alive
        have live : controller.disposed = false := by simpa using alive
        obtain ⟨activated, whole, rfl⟩ := Option.map_eq_some_iff.mp made
        obtain ⟨engine, present, begun⟩ := Option.bind_eq_some_iff.mp whole
        have fresh := (ready.engineFor live path).activated
          ((engineFor_disposed path).trans live) present begun
          (engineFor_behind tame.1) tame.2
        refine ⟨fresh.refresh.syncPolling, ?_⟩
        intro _
        exact adopted_syncPolling.mpr fresh.refresh_adopted
  | activateRefused path =>
      unfold ClientEngineController.step at made
      dsimp only at made
      split at made
      · cases made
      · rename_i alive
        cases made
        exact ⟨ready.engineFor (by simpa using alive) path, by simp [
          EngineEvent.refreshes]⟩
  | openFailed path =>
      unfold ClientEngineController.step at made
      dsimp only at made
      split at made
      · cases made
      · cases made
        exact ⟨ready.destroyed, by simp [EngineEvent.refreshes]⟩
  | refresh =>
      cases made
      exact ⟨ready.refresh, fun _ => ready.refresh_adopted⟩
  | poll =>
      obtain ⟨_, made⟩ := Option.ite_none_right_eq_some.mp made
      cases made
      exact ⟨ready.refresh, fun _ => ready.refresh_adopted⟩
  | stop =>
      unfold ClientEngineController.step at made
      dsimp only at made
      split at made
      · cases made
      · cases made
        exact ⟨ready.stop, by simp [EngineEvent.refreshes]⟩
  | dispose =>
      refine ⟨?_, by simp [EngineEvent.refreshes]⟩
      unfold ClientEngineController.step at made
      dsimp only at made
      split at made
      · cases made
        exact ready
      · cases made
        have gone := ready.destroyed
        constructor
        · exact gone.first
        · intro _ engine present
          obtain ⟨before, _, rfl⟩ := Option.map_eq_some_iff.mp present
          rfl
        · exact gone.runtimes
        · exact gone.current
  | runtimeMoved address move =>
      cases made
      refine ⟨?_, by simp [EngineEvent.refreshes]⟩
      apply ready.changeRuntime
      · intro lifecycle
        exact ⟨_, rfl, move.revision_le lifecycle,
          move.generation_eq lifecycle⟩
      · intro next started
        cases started
  | nodeStarted address =>
      cases made
      refine ⟨?_, by simp [EngineEvent.refreshes]⟩
      apply ready.changeRuntime
      · intro lifecycle
        exact ⟨lifecycle, rfl, UInt64.le_refl _, rfl⟩
      · intro next started
        cases started
        exact generation_started []

/-- In a history whose activations meet the condition, every refresh leaves
the current snapshot of the default node. -/
theorem adopted_of_tame_run {history : List EngineEvent}
    {event : EngineEvent}
    (run : Run TameStep {} (history ++ [event]) controller)
    (refreshed : event.refreshes = true) : Adopted controller := by
  obtain ⟨before, earlier, last⟩ := run.last
  have ready : Ready before := by
    apply earlier.invariant ready_created
    intro state label next held move
    exact (ready_of_step held move).1
  exact (ready_of_step ready last).2 refreshed

/-- A connection that is made and stopped, and made again. -/
theorem adopted_after_stop : ∃ controller,
    Run TameStep {} ([.activated "velum" twoNodes "primary" [],
      .runtimeMoved 0 .connected, .refresh, .stop] ++
        [.activated "velum" twoNodes "primary" [.connected]]) controller ∧
      controller.snapshot = ⟨2, 1, .online, none⟩ ∧
      Adopted controller := by
  have unhidden : ∀ first ∈ twoNodes, ∀ second ∈ twoNodes,
      first.nodeAlias = "primary" → second.id = "primary" →
        second.id ≤ first.id := by
    decide
  obtain ⟨controller, run, shown⟩ : ∃ controller,
      Run TameStep {} ([.activated "velum" twoNodes "primary" [],
        .runtimeMoved 0 .connected, .refresh, .stop] ++
          [.activated "velum" twoNodes "primary" [.connected]]) controller ∧
        controller.snapshot = ⟨2, 1, .online, none⟩ := by
    refine Run.exists_cons ⟨rfl, ?_, unhidden⟩ ?_
    · intro reused
      cases reused
    refine Run.exists_cons ⟨rfl, trivial⟩ ?_
    refine Run.exists_cons ⟨rfl, trivial⟩ ?_
    refine Run.exists_cons ⟨rfl, trivial⟩ ?_
    refine Run.exists_cons ⟨rfl, ?_, unhidden⟩ ⟨_, .nil, rfl⟩
    intro _
    exact UInt64.zero_le
  exact ⟨controller, run, shown, adopted_of_tame_run run rfl⟩

/-- After a connection that was lost, the new runtime is online and the
controller still shows the old failure. -/
theorem stale_after_reactivation : ∃ controller,
    Run (fun controller event after => controller.step event = some after) {}
      [.activated "velum" twoNodes "primary" [], .runtimeMoved 0 .connected,
        .runtimeMoved 0 (.lost .connection), .refresh,
        .activated "velum" twoNodes "primary" [], .runtimeMoved 2 .connected,
        .refresh] controller ∧
      controller.snapshot = ⟨3, 1, .failed, some .connection⟩ ∧
      (controller.engine.bind ClientEngine.defaultSnapshot) =
        some ⟨2, 1, .online, none⟩ ∧ ¬ Adopted controller := by
  refine ⟨_, Run.of_foldlM rfl, rfl, rfl, ?_⟩
  intro adopted
  have same := adopted _ _ rfl rfl
  cases same

end ClientEngineController

end Velum.Client
