import Velum.Host.Recovery

/-!
# Which record recovery uses

A start on a running host writes the record of the new configuration over the
only record of the applied one, and only then calls the backend.  Recovery
uses the record of what is applied as long as no such replacement is cut off
between the two.
-/

namespace Velum.Host

open Foundation
open Foundation.Script
open Velum.Helper

/-- The journal holds the record of what is applied. -/
def World.Current (world : World) : Prop :=
  ∀ configuration, world.applied = some configuration →
    ∃ record, world.journal = some record ∧
      record.configuration = configuration

/-- A failing call that leaves another configuration in the journal than the
one that stays applied. -/
inductive Overwrites (world : World) :
    (call : HostCall) → call.Reply → World → Prop where
  | write {record : RecoveryRecord} {failure : HostFailure}
      {applied : StartParameters} :
      world.applied = some applied → record.configuration ≠ applied →
      Overwrites world (.write record) (.error failure)
        { world with journal := some record }
  | start {configuration applied : StartParameters} {failure : HostFailure}
      {after : World} :
      world.applied = some applied → configuration ≠ applied →
      Overwrites world (.start configuration) (.error failure) after

/-- A step that cuts off the replacement of an applied configuration by
another one. -/
inductive Disturbs : System → Event → System → Prop where
  | called {process later : Process} {world after : World} {call : HostCall}
      {reply : call.Reply} :
      Overwrites world call reply after →
      Disturbs ⟨process, world⟩ (.called call reply) ⟨later, after⟩
  | crashed {host : TrafficHost} {request : Request}
      {configuration applied : StartParameters}
      {rest : Except HostFailure Unit → HostScript (Response × TrafficHost)}
      {world : World} :
      world.applied = some applied → configuration ≠ applied →
      Disturbs
        ⟨.handling host request (.ask (.start configuration) rest), world⟩
        .crashed ⟨.down, world⟩

/-- The answers that overwrite nothing. -/
def Answers.Spared (world : World) (call : HostCall) (reply : call.Reply)
    (after : World) : Prop :=
  Answers world call reply after ∧ ¬Overwrites world call reply after

/-- Before `start` the journal holds what is about to be applied, before
`recover` the record that is handed over, and otherwise what is applied. -/
def World.Prepared (world : World) : HostCall → Prop
  | .start configuration =>
      ∃ record, world.journal = some record ∧
        record.configuration = configuration
  | .recover record => world.Current ∧ world.journal = some record
  | _ => world.Current

theorem current_of_nothing_applied (journal : Option RecoveryRecord)
    (mayHold : Bool) : World.Current ⟨journal, mayHold, none⟩ := by
  intro configuration applied
  cases applied

/-- A record of the configuration that may stay applied is current. -/
theorem current_of_record {world : World} {record : RecoveryRecord}
    (stored : world.journal = some record)
    (same : ∀ applied, world.applied = some applied →
      ¬record.configuration ≠ applied) : world.Current := by
  intro configuration applied
  exact ⟨record, stored, not_not.mp (same configuration applied)⟩

namespace TrafficHost

theorem replace_keeps_current {host : TrafficHost} {request : Request}
    {configuration : StartParameters} {world : World}
    (current : world.Current) :
    Guarantees Answers.Spared World.Prepared (fun _ world => world.Current)
      (host.replace request configuration) world := by
  refine ⟨current, ?_⟩
  rintro reply after ⟨⟨failure, rfl, rfl | rfl⟩ | ⟨rfl, rfl⟩, spared⟩
  · exact current
  · apply current_of_record rfl
    intro applied held different
    exact spared (.write held different)
  refine ⟨⟨_, rfl, rfl⟩, ?_⟩
  rintro reply after ⟨⟨failure, rfl, rfl⟩ | ⟨rfl, rfl⟩, spared⟩
  · apply current_of_record rfl
    intro applied held different
    exact spared (.start held different)
  · intro applied held
    cases held
    exact ⟨_, rfl, rfl⟩

theorem undo_keeps_current {host : TrafficHost} {request : Request}
    {world : World} (current : world.Current) :
    Guarantees Answers.Spared World.Prepared (fun _ world => world.Current)
      (host.undo request) world := by
  refine ⟨current, ?_⟩
  rintro reply after ⟨⟨failure, rfl, rfl⟩ | ⟨rfl, rfl⟩, _⟩
  · exact current
  refine ⟨current_of_nothing_applied _ _, ?_⟩
  rintro reply after ⟨⟨failure, rfl, rfl⟩ | ⟨rfl, rfl⟩, _⟩
  · exact current_of_nothing_applied _ _
  · exact current_of_nothing_applied _ _

theorem recover_keeps_current {host : TrafficHost} {world : World}
    (current : world.Current) :
    Guarantees Answers.Spared World.Prepared (fun _ world => world.Current)
      host.recover world := by
  refine ⟨current, ?_⟩
  rintro reply after ⟨⟨rfl, ⟨failure, rfl⟩ | rfl⟩, _⟩
  · exact current
  cases stored : after.journal with
  | none => exact current
  | some record =>
      refine ⟨⟨current, stored⟩, ?_⟩
      rintro reply later ⟨⟨failure, rfl, rfl⟩ | ⟨rfl, rfl⟩, _⟩
      · exact current
      refine ⟨current_of_nothing_applied _ _, ?_⟩
      rintro reply final ⟨⟨failure, rfl, rfl⟩ | ⟨rfl, rfl⟩, _⟩
      · exact current_of_nothing_applied _ _
      · exact current_of_nothing_applied _ _

theorem handle_keeps_current {host : TrafficHost} (request : Request)
    {world : World} (current : world.Current) :
    Guarantees Answers.Spared World.Prepared (fun _ world => world.Current)
      (host.handle request) world := by
  apply guarantees_handle
  · intro _ _
    exact current
  · intro _ _
    exact current
  · unfold execute
    cases request.command with
    | hello => exact current
    | status => exact current
    | start configuration =>
        apply guarantees_start
        · intro _ _
          exact current
        · intro _
          exact replace_keeps_current current
    | stop =>
        apply guarantees_stop
        · intro _ _
          exact current
        · intro _
          exact undo_keeps_current current
    | recover => exact recover_keeps_current current

end TrafficHost

/-- The journal is current whenever no replacement is under way. -/
def replacing : Discipline where
  Answer := fun _ => Answers.Spared
  safe := World.Prepared
  rests := World.Current
  waits := fun _ world => world.Current
  leaves := fun _ world => world.Current

/-- A crash that disturbs no replacement leaves the journal current. -/
theorem current_after_crash {process : Process} {world : World}
    (kept : replacing.Kept ⟨process, world⟩)
    (spared : ¬Disturbs ⟨process, world⟩ .crashed ⟨.down, world⟩) :
    world.Current := by
  cases process with
  | down => exact kept
  | launching script =>
      cases script with
      | done result => exact kept.1
      | ask call next => exact kept.1.1
  | idle host => exact kept
  | handling host request script =>
      cases script with
      | done result => exact kept
      | ask call next =>
          have prepared : world.Prepared call := kept.1
          cases call with
          | start configuration =>
              obtain ⟨record, stored, same⟩ := prepared
              apply current_of_record stored
              intro applied held different
              rw [same] at different
              exact spared (.crashed held different)
          | load => exact prepared
          | write record => exact prepared
          | clear => exact prepared
          | stop => exact prepared
          | recover record => exact prepared.1

theorem replacing_upheld (capabilities : Finset Capability) :
    replacing.Upheld capabilities fun system event next =>
      ¬Disturbs system event next where
  narrow := by
    intro _ _ _ _ world call reply after spared answered
    refine ⟨answered, ?_⟩
    intro overwrites
    exact spared (.called overwrites)
  born := by
    intro world current
    exact current
  handles := by
    intro host world request current
    exact TrafficHost.handle_keeps_current request current
  answered := by
    intro _ _ _ _ _ _ current
    exact current
  dies := current_after_crash

/-! ## What a disturbed replacement leads to -/

/-- The record in the journal is of another configuration than the applied
one. -/
def World.Stale (world : World) : Prop :=
  ∃ record applied, world.journal = some record ∧
    world.applied = some applied ∧ record.configuration ≠ applied

/-- A host restarted beside a stale record hands it to recovery. -/
theorem stale_recovery (capabilities : Finset Capability) {world : World}
    (stale : world.Stale) :
    ∃ trace system record reply next applied,
      Run (Step capabilities) ⟨.down, world⟩ trace system ∧
      Step capabilities system (.called (.recover record) reply) next ∧
      system.world.applied = some applied ∧
      record.configuration ≠ applied := by
  obtain ⟨_, mayHold, _⟩ := world
  obtain ⟨record, applied, rfl, rfl, different⟩ := stale
  have received := (launch_run capabilities
    ⟨some record, mayHold, some applied⟩).snoc (recover_received _ _ _)
  have loaded := received.snoc (.handling ⟨rfl, .inr rfl⟩)
  exact ⟨_, _, record, .error .platform, _, applied, loaded,
    .handling (.inl ⟨_, rfl, rfl⟩), rfl, different⟩

/-- Whatever disturbs a replacement leaves the record of the configuration
that is not applied. -/
theorem stale_of_disturbed {capabilities : Finset Capability}
    {system next : System} {event : Event}
    (kept : replacing.Kept system)
    (move : Step capabilities system event next)
    (disturbs : Disturbs system event next) : next.world.Stale := by
  cases disturbs with
  | @called process later world after call reply overwrites =>
      cases overwrites with
      | write held different => exact ⟨_, _, rfl, held, different⟩
      | start held different =>
          cases move with
          | launching answered => exact absurd kept.1.2 (by simp)
          | handling answered =>
              obtain ⟨record, stored, same⟩ := kept.1
              rcases answered with ⟨failure, _, rfl⟩ | ⟨impossible, _⟩
              · exact ⟨record, _, stored, held, by rwa [same]⟩
              · cases impossible
  | crashed held different =>
      obtain ⟨record, stored, same⟩ := kept.1
      exact ⟨record, _, stored, held, by rwa [same]⟩

/-- In a run that disturbs no replacement, recovery is handed the record of
what is applied, and the journal holds that record while a host waits and
while none runs.  Any step that disturbs a replacement opens the way to a
recovery with the wrong record. -/
theorem recovery_uses_the_applied_record {capabilities : Finset Capability}
    {initial system : System} {trace : List Event} (first : initial.Initial)
    (run : Run (fun system event next => Step capabilities system event next ∧
      ¬Disturbs system event next) initial trace system) :
    (∀ record reply next applied,
      Step capabilities system (.called (.recover record) reply) next →
      system.world.applied = some applied →
      record.configuration = applied) ∧
    ((system.process = .down ∨ ∃ host, system.process = .idle host) →
      system.world.Current) ∧
    ∀ event next, Step capabilities system event next →
      Disturbs system event next →
      ∃ later final record reply after applied,
        Run (Step capabilities) next later final ∧
        Step capabilities final (.called (.recover record) reply) after ∧
        final.world.applied = some applied ∧
        record.configuration ≠ applied := by
  have start : replacing.Kept initial := by
    obtain ⟨process, world⟩ := initial
    obtain ⟨rfl, -, idle⟩ := first
    intro configuration applied
    rw [idle] at applied
    cases applied
  have kept := (replacing_upheld capabilities).run start run
  refine ⟨?_, ?_, ?_⟩
  · intro record reply next applied move held
    rcases kept.called move with impossible | ⟨current, stored⟩
    · cases impossible
    · obtain ⟨other, found, same⟩ := current applied held
      rw [stored] at found
      cases found
      exact same
  · obtain ⟨process, world⟩ := system
    rintro (rfl | ⟨host, rfl⟩)
    · exact kept
    · exact kept
  · intro event next move disturbs
    have stale := stale_of_disturbed kept move disturbs
    obtain ⟨trace, final, record, reply, after, applied, later, rest⟩ :=
      stale_recovery capabilities stale
    exact ⟨_, final, record, reply, after, applied,
      .cons .crashed later, rest⟩

/-- An event that no step disturbs a replacement with. -/
def Event.Calm : Event → Prop
  | .crashed => False
  | .called (.write _) reply => reply = .ok ()
  | .called (.start _) reply => reply = .ok ()
  | _ => True

theorem not_disturbs_of_calm {system next : System} {event : Event}
    (calm : event.Calm) : ¬Disturbs system event next := by
  intro disturbs
  cases disturbs with
  | called overwrites =>
      cases overwrites with
      | write => cases calm
      | start => cases calm
  | crashed => exact calm

theorem calm_run {initial final : System} {trace : List Event}
    (run : Run (Step ∅) initial trace final)
    (calm : ∀ event ∈ trace, event.Calm) :
    Run (fun system event next => Step ∅ system event next ∧
      ¬Disturbs system event next) initial trace final := by
  apply (run.restrict calm).mono
  rintro system event next ⟨move, quiet⟩
  exact ⟨move, not_disturbs_of_calm quiet⟩

/-- A launch and a request to recover, up to the call of the backend. -/
theorem recover_run (record : RecoveryRecord)
    (applied : Option StartParameters) :
    ∃ rest, Run (Step ∅) ⟨.down, some record, true, applied⟩
      ([.launched, .called .load (.ok (some record)), .ready] ++
        [.received recoverRequest] ++ [.called .load (.ok (some record))])
      ⟨.handling (.restored ∅ (some record)) recoverRequest
          (.ask (.recover record) rest),
        some record, true, applied⟩ :=
  ⟨_, ((launch_run ∅ ⟨some record, true, applied⟩).snoc
    (recover_received _ _ _)).snoc (.handling ⟨rfl, .inr rfl⟩)⟩

theorem recovery_uses_the_first_record :
    ∃ trace system next reply,
      Run (fun system event next => Step ∅ system event next ∧
        ¬Disturbs system event next) ⟨.down, none, false, none⟩ trace system ∧
      Step ∅ system (.called (.recover ⟨1, sampleConfiguration 1500⟩) reply)
        next ∧
      system.world.applied = some (sampleConfiguration 1500) ∧
      (RecoveryRecord.mk 1 (sampleConfiguration 1500)).configuration =
        sampleConfiguration 1500 := by
  have launched := calm_run (launch_run ∅ ⟨none, false, none⟩)
    (by simp [Event.Calm])
  have started := calm_run start_run (by
    intro event member
    simp only [List.mem_cons, List.not_mem_nil, or_false] at member
    rcases member with rfl | rfl | rfl | rfl
    · trivial
    · rfl
    · rfl
    · trivial)
  have quiet : ∀ world : World, ¬Disturbs ⟨.idle runningHost, world⟩ .crashed
      ⟨.down, world⟩ := by
    intro world disturbs
    cases disturbs
  obtain ⟨rest, recovering⟩ := recover_run ⟨1, sampleConfiguration 1500⟩
    (some (sampleConfiguration 1500))
  have asked := calm_run recovering (by simp [Event.Calm])
  have whole := ((launched.append started).snoc
    ⟨.crashed, quiet _⟩).append asked
  have right := (recovery_uses_the_applied_record ⟨rfl, rfl, rfl⟩ whole).1
    _ (.error .platform) _ _ (.handling (.inl ⟨_, rfl, rfl⟩)) rfl
  exact ⟨_, _, _, .error .platform, whole,
    .handling (.inl ⟨_, rfl, rfl⟩), rfl, right⟩

/-- Recovery after a crash in the middle of a replacement undoes a
configuration that was never applied. -/
theorem recovery_with_the_wrong_record :
    ¬∀ initial trace system record reply next applied,
      System.Initial initial → Run (Step ∅) initial trace system →
      Step ∅ system (.called (.recover record) reply) next →
      system.world.applied = some applied →
      record.configuration = applied := by
  intro right
  have running := (launch_run ∅ ⟨none, false, none⟩).append start_run
  have replaced := running.snoc
    (@Step.received ∅ _ _ (sampleStart 2 2 1400))
  have written := replaced.snoc (.handling (.inr ⟨rfl, rfl⟩))
  have crashed := written.snoc .crashed
  obtain ⟨rest, recovering⟩ := recover_run ⟨2, sampleConfiguration 1400⟩
    (some (sampleConfiguration 1500))
  have same := right _ _ _ _ (.error .platform) _ _ ⟨rfl, rfl, rfl⟩
    (crashed.append recovering) (.handling (.inl ⟨_, rfl, rfl⟩)) rfl
  cases same

end Velum.Host
