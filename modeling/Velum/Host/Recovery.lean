import Velum.Host.TrafficHost

/-!
# The journal holds what recovery needs

The record is written before the first change and removed after the last one
is undone, so a backend that may hold changes stands beside a record in every
state of a run, whatever fails and wherever the process dies.
-/

namespace Velum.Host

open Foundation
open Foundation.Script
open Velum.Helper

/-- A backend that may hold changes stands beside a record. -/
def World.Recorded (world : World) : Prop :=
  world.mayHold = true → world.journal.isSome = true

theorem recorded_of_undone (journal : Option RecoveryRecord)
    (applied : Option StartParameters) :
    World.Recorded ⟨journal, false, applied⟩ := by
  intro held
  cases held

namespace TrafficHost

theorem start_keeps_recorded {host : TrafficHost} {request : Request}
    {configuration : StartParameters} {world : World}
    (recorded : world.Recorded) :
    Guarantees Answers (fun world _ => world.Recorded)
      (fun _ world => world.Recorded)
      (host.start request configuration) world := by
  apply guarantees_start
  · intro _ _
    exact recorded
  intro _
  refine ⟨recorded, ?_⟩
  rintro reply after (⟨failure, rfl, rfl | rfl⟩ | ⟨rfl, rfl⟩)
  · exact recorded
  · exact fun _ => rfl
  refine ⟨fun _ => rfl, ?_⟩
  rintro reply after (⟨failure, rfl, rfl⟩ | ⟨rfl, rfl⟩)
  · exact fun _ => rfl
  · exact fun _ => rfl

theorem stop_keeps_recorded {host : TrafficHost} {request : Request}
    {world : World} (recorded : world.Recorded) :
    Guarantees Answers (fun world _ => world.Recorded)
      (fun _ world => world.Recorded) (host.stop request) world := by
  apply guarantees_stop
  · intro _ _
    exact recorded
  intro _
  refine ⟨recorded, ?_⟩
  rintro reply after (⟨failure, rfl, rfl⟩ | ⟨rfl, rfl⟩)
  · exact recorded
  refine ⟨recorded_of_undone _ _, ?_⟩
  rintro reply after (⟨failure, rfl, rfl⟩ | ⟨rfl, rfl⟩)
  · exact recorded_of_undone _ _
  · exact recorded_of_undone _ _

theorem recover_keeps_recorded {host : TrafficHost} {world : World}
    (recorded : world.Recorded) :
    Guarantees Answers (fun world _ => world.Recorded)
      (fun _ world => world.Recorded) host.recover world := by
  refine ⟨recorded, ?_⟩
  rintro reply after ⟨rfl, ⟨failure, rfl⟩ | rfl⟩
  · exact recorded
  cases stored : after.journal with
  | none => exact recorded
  | some record =>
      refine ⟨recorded, ?_⟩
      rintro reply later (⟨failure, rfl, rfl⟩ | ⟨rfl, rfl⟩)
      · exact recorded
      refine ⟨recorded_of_undone _ _, ?_⟩
      rintro reply final (⟨failure, rfl, rfl⟩ | ⟨rfl, rfl⟩)
      · exact recorded_of_undone _ _
      · exact recorded_of_undone _ _

theorem execute_keeps_recorded {host : TrafficHost} {request : Request}
    {world : World} (recorded : world.Recorded) :
    Guarantees Answers (fun world _ => world.Recorded)
      (fun _ world => world.Recorded) (host.execute request) world := by
  unfold execute
  cases request.command with
  | hello => exact recorded
  | status => exact recorded
  | start configuration => exact start_keeps_recorded recorded
  | stop => exact stop_keeps_recorded recorded
  | recover => exact recover_keeps_recorded recorded

theorem handle_keeps_recorded {host : TrafficHost} (request : Request)
    {world : World} (recorded : world.Recorded) :
    Guarantees Answers (fun world _ => world.Recorded)
      (fun _ world => world.Recorded) (host.handle request) world := by
  apply guarantees_handle
  · intro _ _
    exact recorded
  · intro _ _
    exact recorded
  · exact execute_keeps_recorded recorded

end TrafficHost

/-- A record stands beside the backend at all times. -/
def journalling : Discipline where
  Answer := fun _ => Answers
  safe := fun world _ => world.Recorded
  rests := World.Recorded
  waits := fun _ world => world.Recorded
  leaves := fun _ world => world.Recorded

theorem journalling_recorded {system : System}
    (kept : journalling.Kept system) : system.world.Recorded := by
  obtain ⟨process, world⟩ := system
  cases process with
  | down => exact kept
  | launching script =>
      cases script with
      | done result => exact kept.1
      | ask call next => exact kept.1.1
  | idle host => exact kept
  | handling host request script =>
      cases script with
      | done result => exact kept
      | ask call next => exact kept.1

theorem journalling_upheld (capabilities : Finset Capability) :
    journalling.Upheld capabilities fun _ _ _ => True where
  narrow := by
    intro _ _ _ _ _ _ _ _ _ answered
    exact answered
  born := by
    intro world recorded
    exact recorded
  handles := by
    intro host world request recorded
    exact TrafficHost.handle_keeps_recorded request recorded
  answered := by
    intro _ _ _ _ _ _ recorded
    exact recorded
  dies := by
    intro process world kept _
    exact journalling_recorded kept

theorem recorded_of_run {capabilities : Finset Capability}
    {initial final : System} {trace : List Event} (first : initial.Initial)
    (run : Run (Step capabilities) initial trace final) :
    final.world.Recorded := by
  obtain ⟨process, world⟩ := initial
  obtain ⟨rfl, idle, -⟩ := first
  have start : journalling.Kept ⟨.down, world⟩ := by
    intro held
    exact absurd (held.symm.trans idle) (by decide)
  apply journalling_recorded
  apply (journalling_upheld capabilities).run start
  apply run.mono
  intro system event next move
  exact ⟨move, trivial⟩

/-! ## A restarted host -/

/-- The result of a command that changed what is applied outside recovery. -/
def Settles : CommandResult → Prop
  | .ok .started | .ok .stopped => True
  | _ => False

namespace TrafficHost

/-- The host reports that it is recovering, refuses to start and to stop, and
remembers no success of either. -/
structure Locked (host : TrafficHost) : Prop where
  recovering : host.state = .recovering
  required : host.recoveryRequired = true
  unsettled : ∀ entry ∈ host.responses.entries, ¬Settles entry.2.response

theorem Locked.respond {host : TrafficHost} (locked : host.Locked)
    (request : Request) {result : CommandResult}
    (unsettled : ¬Settles result) : (respond request result host).2.Locked where
  recovering := locked.recovering
  required := locked.required
  unsettled := by
    intro entry member
    rcases mem_cache member with same | old
    · rw [same]
      exact unsettled
    · exact locked.unsettled entry old

theorem start_of_required {host : TrafficHost}
    (required : host.recoveryRequired = true) (request : Request)
    (configuration : StartParameters) :
    host.start request configuration =
      .done (.err .recoveryRequired, host) := by
  simp [start, required]

theorem stop_of_required {host : TrafficHost}
    (required : host.recoveryRequired = true) (request : Request) :
    host.stop request = .done (.err .recoveryRequired, host) := by
  simp [stop, required]

theorem recover_locked {host : TrafficHost} (locked : host.Locked)
    (request : Request) (world : World) :
    Guarantees Answers (fun _ call => ¬call.Applies)
      (fun result _ => result.1 = .ok .recovered ∨
        ¬Settles result.1 ∧ (respond request result.1 result.2).2.Locked)
      host.recover world := by
  have failed : (respond request (.err .platform)
      { host with
        state := .recovering, recoveryRequired := true }).2.Locked := by
    apply Locked.respond
    · exact ⟨rfl, rfl, locked.unsettled⟩
    · exact id
  have same : { host with state := .recovering } =
      ({ host with state := .recovering, recoveryRequired := true } :
        TrafficHost) := by
    rw [← locked.required]
  refine ⟨id, ?_⟩
  rintro reply after ⟨rfl, ⟨failure, rfl⟩ | rfl⟩
  · refine .inr ⟨id, ?_⟩
    simp only [same]
    exact failed
  cases after.journal with
  | none => exact .inl rfl
  | some record =>
      refine ⟨id, ?_⟩
      rintro reply later (⟨failure, rfl, rfl⟩ | ⟨rfl, rfl⟩)
      · exact .inr ⟨id, failed⟩
      refine ⟨id, ?_⟩
      rintro reply final (⟨failure, rfl, rfl⟩ | ⟨rfl, rfl⟩)
      · exact .inr ⟨id, failed⟩
      · exact .inl rfl

theorem handle_locked {host : TrafficHost} (locked : host.Locked)
    (request : Request) (world : World) :
    Guarantees Answers (fun _ call => ¬call.Applies)
      (fun answer _ => answer.1.response = .ok .recovered ∨ answer.2.Locked)
      (host.handle request) world := by
  apply guarantees_handle
  · intro _ _
    exact .inr locked
  · intro code _
    exact .inr (locked.respond request id)
  · unfold execute
    cases request.command with
    | hello => exact .inr (locked.respond request id)
    | status => exact .inr (locked.respond request id)
    | start configuration =>
        simp only [start_of_required locked.required]
        exact .inr (locked.respond request id)
    | stop =>
        simp only [stop_of_required locked.required]
        exact .inr (locked.respond request id)
    | recover =>
        apply (recover_locked locked request world).mono
        · exact id
        · rintro result _ (recovered | ⟨_, still⟩)
          · exact .inl recovered
          · exact .inr still

/-- The request is answered without a call and without success: with what is
remembered for its identifier, or else with an error, which is the demand for
recovery when nothing else is wrong with the request. -/
def Refuses (host : TrafficHost) (request : Request) : Prop :=
  ∃ response after, host.handle request = .done (response, after) ∧
    ¬Settles response.response ∧
    (host.responses.get? request.requestId.toNat = none →
      response.response =
        .err ((host.precheck request).getD .recoveryRequired))

theorem Locked.refuses {host : TrafficHost} (locked : host.Locked)
    {request : Request}
    (mutation : (∃ configuration, request.command = .start configuration) ∨
      request.command = .stop) : host.Refuses request := by
  have executed : host.execute request =
      .done (.err .recoveryRequired, host) := by
    rcases mutation with ⟨configuration, command⟩ | command
    · simp only [execute, command, start_of_required locked.required]
    · simp only [execute, command, stop_of_required locked.required]
  unfold Refuses handle
  cases found : host.responses.get? request.requestId.toNat with
  | some response =>
      refine ⟨response, host, rfl, ?_, ?_⟩
      · exact locked.unsettled _ (OrderedMap.get?_eq_some_iff.mp found)
      · intro absent
        cases absent
  | none =>
      cases host.precheck request with
      | some code => exact ⟨_, _, rfl, id, fun _ => rfl⟩
      | none =>
          rw [executed]
          exact ⟨_, _, rfl, id, fun _ => rfl⟩

theorem restored_locked (capabilities : Finset Capability)
    {record : Option RecoveryRecord} (stored : record.isSome = true) :
    (restored capabilities record).Locked where
  recovering := by simp [restored, stored]
  required := stored
  unsettled := by
    intro entry member
    cases member

end TrafficHost

/-- The answer to a recovery that succeeded. -/
def Event.Recovered : Event → Prop
  | .responded response => response.response = .ok .recovered
  | _ => False

/-- A host restarted beside a record stays locked while it lives and no
recovery has succeeded. -/
def locking : Discipline where
  Answer := fun _ => Answers
  safe := fun _ call => ¬call.Applies
  rests := fun world => world.journal.isSome = true
  waits := fun host _ => host.Locked
  leaves := fun answer _ =>
    answer.1.response = .ok .recovered ∨ answer.2.Locked

theorem locking_upheld (capabilities : Finset Capability) :
    locking.Upheld capabilities fun _ event _ =>
      event ≠ .crashed ∧ ¬event.Recovered where
  narrow := by
    intro _ _ _ _ _ _ _ _ _ answered
    exact answered
  born := by
    intro world stored
    exact TrafficHost.restored_locked capabilities stored
  handles := by
    intro host world request locked
    exact TrafficHost.handle_locked locked request world
  answered := by
    rintro host request response later world ⟨_, unrecovered⟩
      (recovered | locked)
    · exact absurd recovered unrecovered
    · exact locked
  dies := by
    intro process world _ crash
    exact absurd rfl crash.1

/-- In every run, a backend that may hold changes stands beside a record.  A
host restarted there reports that it is recovering and refuses to start and to
stop, without a call that applies or undoes anything, until a recovery
succeeds. -/
theorem journal_before_mutation {capabilities : Finset Capability}
    {initial system : System} {trace : List Event} (first : initial.Initial)
    (run : Run (Step capabilities) initial trace system) :
    (system.world.mayHold = true → system.world.journal.isSome = true) ∧
    ∀ later final, system.process = .down → system.world.mayHold = true →
      Run (Step capabilities) system later final →
      (∀ event ∈ later, event ≠ .crashed ∧ ¬event.Recovered) →
      (∀ call reply, .called call reply ∈ later → ¬call.Applies) ∧
      ∀ host, final.process = .idle host →
        host.state = .recovering ∧
        ∀ request, ((∃ configuration,
            request.command = .start configuration) ∨
          request.command = .stop) → host.Refuses request := by
  have recorded := recorded_of_run first run
  refine ⟨recorded, ?_⟩
  intro later final down held continued quiet
  have kept : locking.Kept system := by
    obtain ⟨process, world⟩ := system
    subst down
    exact recorded held
  have upheld := locking_upheld capabilities
  have restricted := continued.restrict quiet
  constructor
  · intro call reply made
    rcases upheld.calls kept restricted made with load | ⟨_, safe⟩
    · rw [load]
      exact id
    · exact safe
  · intro host waiting
    have locked : locking.Kept final := upheld.run kept restricted
    obtain ⟨process, world⟩ := final
    subst waiting
    exact ⟨locked.recovering, fun request mutation =>
      locked.refuses mutation⟩

/-- One network and one resolver. -/
def sampleConfiguration (mtu : UInt16) : StartParameters where
  mtu := mtu
  ipv4 := some ⟨.v4 ⟨[172, 19, 0, 1], rfl⟩, 30⟩
  ipv6 := none
  dns := [.v4 ⟨[1, 1, 1, 1], rfl⟩]

def sampleStart (requestId generation : UInt64) (mtu : UInt16) : Request where
  version := protocolVersion
  requestId := requestId
  profileGeneration := generation
  capabilities := ∅
  command := .start (sampleConfiguration mtu)

/-- A launch that can read the journal. -/
theorem launch_run (capabilities : Finset Capability) (world : World) :
    Run (Step capabilities) ⟨.down, world⟩
      [.launched, .called .load (.ok world.journal), .ready]
      ⟨.idle (.restored capabilities world.journal), world⟩ :=
  .cons .launched <| .cons (.launching ⟨rfl, .inr rfl⟩) <| .cons .ready .nil

def sampleResponse : Response where
  version := protocolVersion
  requestId := 1
  profileGeneration := 1
  capabilities := ∅
  response := .ok .started

/-- The host after its first start. -/
def runningHost : TrafficHost where
  capabilities := ∅
  state := .running
  generation := 1
  recoveryRequired := false
  responses := OrderedMap.empty.insert 1 sampleResponse

def recoverRequest : Request where
  version := protocolVersion
  requestId := 0
  profileGeneration := 0
  capabilities := ∅
  command := .recover

/-- A restarted host turns to its journal when it is asked to recover. -/
theorem recover_received (capabilities : Finset Capability)
    (record : Option RecoveryRecord) (world : World) :
    Step capabilities ⟨.idle (.restored capabilities record), world⟩
      (.received recoverRequest)
      ⟨.handling (.restored capabilities record) recoverRequest
        ((TrafficHost.restored capabilities record).recover >>= fun answer =>
          .done (TrafficHost.respond recoverRequest answer.1 answer.2)),
        world⟩ := by
  have checked : (TrafficHost.restored capabilities record).precheck
      recoverRequest = none := by
    simp [TrafficHost.precheck, recoverRequest, TrafficHost.restored]
  have fresh : (TrafficHost.restored capabilities record).responses.get?
      recoverRequest.requestId.toNat = none :=
    OrderedMap.get?_empty _
  have handled : (TrafficHost.restored capabilities record).handle
      recoverRequest =
        (TrafficHost.restored capabilities record).recover >>= fun answer =>
          .done (TrafficHost.respond recoverRequest answer.1 answer.2) := by
    simp only [TrafficHost.handle, fresh, checked]
    rfl
  rw [← handled]
  exact .received

/-- A first start that succeeds. -/
theorem start_run :
    Run (Step ∅) ⟨.idle (.restored ∅ none), none, false, none⟩
      [.received (sampleStart 1 1 1500),
        .called (.write ⟨1, sampleConfiguration 1500⟩) (.ok ()),
        .called (.start (sampleConfiguration 1500)) (.ok ()),
        .responded sampleResponse]
      ⟨.idle runningHost, some ⟨1, sampleConfiguration 1500⟩, true,
        some (sampleConfiguration 1500)⟩ := by
  have kept : evict (OrderedMap.empty.insert 1 sampleResponse) =
      OrderedMap.empty.insert 1 sampleResponse :=
    evict_of_size_le (by decide)
  have settled : TrafficHost.cache ⟨∅, .running, 1, false, .empty⟩
      sampleResponse = runningHost := by
    simp only [TrafficHost.cache]
    exact congrArg (TrafficHost.mk ∅ .running 1 false) kept
  rw [← settled]
  exact .cons .received <| .cons (.handling (.inr ⟨rfl, rfl⟩)) <|
    .cons (.handling (.inr ⟨rfl, rfl⟩)) <| .cons .responded .nil

theorem journal_before_mutation_restarted :
    (TrafficHost.restored ∅
        (some ⟨1, sampleConfiguration 1500⟩)).state = .recovering ∧
      (TrafficHost.restored ∅ (some ⟨1, sampleConfiguration 1500⟩)).Refuses
        (sampleStart 1 2 1400) := by
  have crashed : Run (Step ∅) ⟨.down, none, false, none⟩ _
      ⟨.down, some ⟨1, sampleConfiguration 1500⟩, true,
        some (sampleConfiguration 1500)⟩ :=
    ((launch_run ∅ ⟨none, false, none⟩).append start_run).snoc .crashed
  have restarted := (journal_before_mutation ⟨rfl, rfl, rfl⟩ crashed).2 _ _
    rfl rfl (launch_run _ _) (by simp [Event.Recovered])
  obtain ⟨recovering, refuses⟩ := restarted.2 _ rfl
  exact ⟨recovering, refuses _ (.inl ⟨_, rfl⟩)⟩

end Velum.Host
