import Velum.Tun.Registry

/-!
# Which leases count

A lease outlives its generation until its flow is admitted again, released, or
cleared with all the others.  Admission counts every lease of a protocol, so
the flows that are active and the slots that are taken drift apart over runs
with reconnects.
-/

namespace Velum.Tun

open Foundation Protocol Velum.Runtime

namespace PacketViews

/-- The flow that a frame is forwarded for. -/
def forwarded (views : PacketViews) (frame : List UInt8) : Option FlowKey :=
  match views.classifyIpv4Packet frame, views.udpPayload frame with
  | .ok flow, .ok _ => some flow
  | _, _ => none

theorem udp_of_forwarded {views : PacketViews} {frame : List UInt8}
    {flow : FlowKey} (forwards : views.forwarded frame = some flow) :
    flow.protocol = .udp := by
  unfold forwarded at forwards
  split at forwards
  next classified extracted =>
      cases forwards
      exact views.udp_of_udpPayload classified extracted
  next => cases forwards

end PacketViews

namespace TunFlowRegistry

/-! ## Slots within the limits -/

def WithinLimits (registry : TunFlowRegistry) : Prop :=
  ∀ protocol, registry.used protocol ≤
    (registry.limits.limitFor protocol).toNat

theorem used_lease (registry : TunFlowRegistry) (key : FlowKey)
    (generation : UInt64) (protocol : FlowProtocol) :
    (registry.lease key generation).used protocol =
      (if key.protocol = protocol then 1 else 0) +
        (registry.without key).used protocol := by
  simpa [used, lease, without] using
    OrderedMap.length_filter_insert registry.flows key ⟨generation⟩
      (·.1.protocol = protocol)

theorem used_without_le (registry : TunFlowRegistry) (key : FlowKey)
    (protocol : FlowProtocol) :
    (registry.without key).used protocol ≤ registry.used protocol :=
  OrderedMap.length_filter_erase_le registry.flows key _

theorem withinLimits_new {limits : TunAdapterLimits}
    {registry : TunFlowRegistry} (created : new limits = .ok registry) :
    registry.WithinLimits := by
  obtain rfl := eq_of_new created
  intro protocol
  exact Nat.zero_le _

namespace WithinLimits

variable {registry : TunFlowRegistry}

theorem without (within : registry.WithinLimits) (key : FlowKey) :
    (registry.without key).WithinLimits :=
  fun protocol => (registry.used_without_le key protocol).trans
    (within protocol)

theorem lease (within : registry.WithinLimits) {key : FlowKey}
    (room : registry.others key < registry.limit key)
    (generation : UInt64) : (registry.lease key generation).WithinLimits := by
  intro protocol
  rw [used_lease]
  by_cases same : key.protocol = protocol
  · subst same
    rw [if_pos rfl]
    have slots : registry.others key + 1 ≤ registry.limit key := room
    rw [others, TunFlowRegistry.limit] at slots
    rw [Nat.add_comm]
    exact slots
  · rw [if_neg same, Nat.zero_add]
    exact within.without key protocol

theorem admitFlow (within : registry.WithinLimits) (reads : Reads)
    (key : FlowKey) : (registry.admitFlow reads key).2.WithinLimits := by
  rcases registry.admitFlow_cases reads key with
    ⟨_, same⟩ | ⟨generation, _, ⟨_, same⟩ | ⟨_, _, same⟩ | ⟨_, room, same⟩⟩
  · rw [same]
    exact within
  · rw [same]
    exact within
  · rw [same]
    exact within.without key
  · rw [same]
    exact within.lease room generation

/-- A flow without a lease of its own generation competes with at most as many
others as the limit allows. -/
theorem others_le (within : registry.WithinLimits) (key : FlowKey) :
    registry.others key ≤ registry.limit key :=
  within.without key key.protocol

end WithinLimits

/-! ## Runs of a registry -/

inductive Call (Stream : Type) where
  | admitFlow (reads : Reads) (key : FlowKey)
  | release (key : FlowKey)
  | clear
  | openTcp (flow : FlowKey) (awaited : Awaited Stream)
  | forwardUdp (views : PacketViews) (frame : List UInt8)
      (associations : UdpAssociationTable) (awaited : Awaited Unit)

variable {Stream : Type}

def perform (registry : TunFlowRegistry) : Call Stream → TunFlowRegistry
  | .admitFlow reads key => (registry.admitFlow reads key).2
  | .release key => (registry.release key).2
  | .clear => registry.clear
  | .openTcp flow awaited => (registry.openTcp flow awaited).2
  | .forwardUdp views frame associations awaited =>
      (registry.forwardUdp views frame associations awaited).2.1

/-- The admission that a call makes. -/
def Call.admission : Call Stream → Option (Reads × FlowKey)
  | .admitFlow reads key => some (reads, key)
  | .openTcp flow awaited =>
      if flow.protocol = .tcp then some (awaited.reads, flow) else none
  | .forwardUdp views frame _ awaited =>
      (views.forwarded frame).map (awaited.reads, ·)
  | .release _ => none
  | .clear => none

theorem openTcp_registry (registry : TunFlowRegistry) (flow : FlowKey)
    (awaited : Awaited Stream) :
    (registry.openTcp flow awaited).2 =
      if flow.protocol = .tcp then (registry.admitFlow awaited.reads flow).2
      else registry := by
  by_cases tcp : flow.protocol = .tcp
  · rw [if_pos tcp]
    simp only [openTcp, tcp, ne_eq, not_true_eq_false, if_false]
    split
    next same => rw [same]
    next same =>
        rw [same]
        split
        · rfl
        · split <;> rfl
  · rw [if_neg tcp]
    simp only [openTcp, ne_eq, tcp, not_false_eq_true, if_true]

theorem forwardUdp_registry (registry : TunFlowRegistry)
    (views : PacketViews) (frame : List UInt8)
    (associations : UdpAssociationTable) (awaited : Awaited Unit) :
    (registry.forwardUdp views frame associations awaited).2.1 =
      match views.forwarded frame with
      | some flow => (registry.admitFlow awaited.reads flow).2
      | none => registry := by
  unfold forwardUdp PacketViews.forwarded
  cases views.classifyIpv4Packet frame with
  | error failure => rfl
  | ok flow =>
      cases views.udpPayload frame with
      | error failure => rfl
      | ok payload =>
          simp only
          split
          next same => rw [same]
          next same =>
              rw [same]
              split
              · rfl
              · rfl
              · split
                · rfl
                · split <;> rfl

theorem perform_of_admission {registry : TunFlowRegistry}
    {call : Call Stream} {reads : Reads} {key : FlowKey}
    (admits : call.admission = some (reads, key)) :
    registry.perform call = (registry.admitFlow reads key).2 := by
  cases call with
  | admitFlow reads' key' =>
      cases admits
      rfl
  | release key' => cases admits
  | clear => cases admits
  | openTcp flow awaited =>
      simp only [Call.admission] at admits
      split at admits
      next tcp =>
          cases admits
          rw [perform, openTcp_registry, if_pos tcp]
      next => cases admits
  | forwardUdp views frame associations awaited =>
      obtain ⟨flow, forwards, same⟩ := Option.map_eq_some_iff.mp admits
      cases same
      rw [perform, forwardUdp_registry, forwards]

/-- A call without an admission takes leases away at most. -/
theorem perform_of_no_admission {registry : TunFlowRegistry}
    {call : Call Stream} (admits : call.admission = none) :
    registry.perform call = registry ∨
      registry.perform call = registry.clear ∨
      ∃ key, registry.perform call = registry.without key := by
  cases call with
  | admitFlow reads key => cases admits
  | release key => exact .inr (.inr ⟨key, rfl⟩)
  | clear => exact .inr (.inl rfl)
  | openTcp flow awaited =>
      simp only [Call.admission] at admits
      split at admits
      next => cases admits
      next other =>
          rw [perform, openTcp_registry, if_neg other]
          exact .inl rfl
  | forwardUdp views frame associations awaited =>
      rw [perform, forwardUdp_registry, Option.map_eq_none_iff.mp admits]
      exact .inl rfl

theorem WithinLimits.perform {registry : TunFlowRegistry}
    (within : registry.WithinLimits) (call : Call Stream) :
    (registry.perform call).WithinLimits := by
  cases admits : call.admission with
  | some admission =>
      rw [perform_of_admission admits]
      exact within.admitFlow _ _
  | none =>
      rcases perform_of_no_admission admits with same | same | ⟨key, same⟩
      · rw [same]
        exact within
      · rw [same]
        intro protocol
        exact Nat.zero_le _
      · rw [same]
        exact within.without key

/-- The registry after some calls. -/
def performAll (registry : TunFlowRegistry) (calls : List (Call Stream)) :
    TunFlowRegistry :=
  calls.foldl perform registry

theorem WithinLimits.performAll {registry : TunFlowRegistry}
    (within : registry.WithinLimits) (calls : List (Call Stream)) :
    (registry.performAll calls).WithinLimits := by
  induction calls generalizing registry with
  | nil => exact within
  | cons call calls induction => exact induction (within.perform call)

/-! ## Refusals at the limit -/

/-- The flows of a protocol that are active in the generation of an
admission. -/
def active (registry : TunFlowRegistry) (reads : Reads)
    (protocol : FlowProtocol) : Nat :=
  (registry.flows.entries.filter fun entry =>
    entry.1.protocol = protocol &&
      registry.isActive reads.online entry.1
        reads.snapshot.generation).length

/-- The slots that other flows hold with leases of other generations. -/
def stale (registry : TunFlowRegistry) (key : FlowKey)
    (generation : UInt64) : Nat :=
  ((registry.without key).flows.entries.filter fun entry =>
    entry.1.protocol = key.protocol &&
      entry.2.generation ≠ generation).length

theorem currentGeneration_eq_ok_iff {reads : Reads} {generation : UInt64} :
    currentGeneration reads = .ok generation ↔
      reads.snapshot.generation = generation ∧
        reads.online.isGenerationOnline generation = true := by
  unfold currentGeneration
  split
  next online =>
      constructor
      · intro same
        obtain rfl := Except.ok.inj same
        exact ⟨rfl, online⟩
      · rintro ⟨rfl, _⟩
        rfl
  next offline =>
      constructor
      · intro same
        cases same
      · rintro ⟨rfl, online⟩
        exact absurd online offline

theorem isActive_of_mem {registry : TunFlowRegistry} {now : RuntimeSnapshot}
    {entry : FlowKey × FlowLease} {generation : UInt64}
    (online : now.isGenerationOnline generation = true)
    (member : entry ∈ registry.flows.entries) :
    registry.isActive now entry.1 generation =
      decide (entry.2.generation = generation) := by
  rw [isActive, OrderedMap.get?_eq_some_iff.mpr member, online,
    Option.any_some, Bool.true_and]

/-- The slots of the other flows are the active and the stale ones. -/
theorem others_eq_active_add_stale {registry : TunFlowRegistry}
    {reads : Reads} {key : FlowKey} {generation : UInt64}
    (current : currentGeneration reads = .ok generation)
    (unleased : registry.flows.get? key ≠ some ⟨generation⟩) :
    registry.others key =
      registry.active reads key.protocol + registry.stale key generation := by
  obtain ⟨rfl, online⟩ := currentGeneration_eq_ok_iff.mp current
  have actives : registry.active reads key.protocol =
      ((registry.without key).flows.entries.filter fun entry =>
        entry.1.protocol = key.protocol &&
          decide (entry.2.generation = reads.snapshot.generation)).length := by
    rw [without, OrderedMap.filter_erase]
    · rw [active]
      congr 1
      apply List.filter_congr
      intro entry member
      rw [isActive_of_mem online member]
    · rintro ⟨_, ⟨generation⟩⟩ member rfl
      have stored := OrderedMap.get?_eq_some_iff.mpr member
      have different : generation ≠ reads.snapshot.generation := by
        rintro rfl
        exact unleased stored
      simp [different]
  rw [actives, others, used, stale]
  have parted := List.length_eq_length_filter_add
    (l := (registry.without key).flows.entries.filter
      (·.1.protocol = key.protocol))
    fun entry => decide (entry.2.generation = reads.snapshot.generation)
  rw [parted, List.filter_filter, List.filter_filter]
  simp only [Bool.and_comm, ne_eq, decide_not]

/-- A refusal at the limit is one by active flows. -/
def LimitHonest (registry : TunFlowRegistry) (reads : Reads)
    (key : FlowKey) : Prop :=
  (registry.admitFlow reads key).1 = .error (.limitOf key.protocol) →
    registry.limit key ≤ registry.active reads key.protocol

/-- Leases of other generations are gone or leave room at the limit. -/
def Unblocked (registry : TunFlowRegistry) (reads : Reads)
    (key : FlowKey) : Prop :=
  ∀ generation, currentGeneration reads = .ok generation →
    registry.flows.get? key ≠ some ⟨generation⟩ →
      registry.stale key generation = 0 ∨
        registry.active reads key.protocol + registry.stale key generation <
          registry.limit key

theorem limitOf_ne_notOnline (protocol : FlowProtocol) :
    FlowAdmissionError.limitOf protocol ≠ .notOnline := by
  cases protocol <;> decide

theorem WithinLimits.limitHonest_iff {registry : TunFlowRegistry}
    (within : registry.WithinLimits) (reads : Reads) (key : FlowKey) :
    registry.LimitHonest reads key ↔ registry.Unblocked reads key := by
  have bounded := within.others_le key
  unfold LimitHonest Unblocked
  rcases registry.admitFlow_cases reads key with
    ⟨offline, same⟩ | ⟨generation, current, possible⟩
  · rw [same]
    constructor
    · intro _ generation current
      rw [offline] at current
      cases current
    · intro _ refused
      exact absurd (Except.error.inj refused).symm (limitOf_ne_notOnline _)
  · have only : ∀ other, currentGeneration reads = .ok other →
        generation = other := by
      intro other again
      rw [current] at again
      exact Except.ok.inj again
    rcases possible with ⟨leased, same⟩ | ⟨unleased, full, same⟩ |
      ⟨unleased, room, same⟩
    · rw [same]
      constructor
      · rintro _ other again unleased
        obtain rfl := only other again
        exact absurd leased unleased
      · intro _ refused
        cases refused
    · have slots := others_eq_active_add_stale current unleased
      rw [same]
      constructor
      · intro honest other again _
        obtain rfl := only other again
        have reached := honest rfl
        omega
      · intro unblocked _
        have room := unblocked generation current unleased
        omega
    · have slots := others_eq_active_add_stale current unleased
      rw [same]
      constructor
      · intro _ other again _
        obtain rfl := only other again
        omega
      · intro _ refused
        cases refused

/-- Over any calls on a new registry, every admission that is refused at the
limit is refused by active flows, exactly when no admission is made while
leases of other generations fill up the slots. -/
theorem flow_limit_honest_iff (limits : TunAdapterLimits)
    (fresh : TunFlowRegistry) (created : new limits = .ok fresh)
    (calls : List (Call Stream)) :
    (∀ earlier call later reads key, calls = earlier ++ call :: later →
        call.admission = some (reads, key) →
        (fresh.performAll earlier).LimitHonest reads key) ↔
      ∀ earlier call later reads key, calls = earlier ++ call :: later →
        call.admission = some (reads, key) →
        (fresh.performAll earlier).Unblocked reads key := by
  have within := withinLimits_new created
  constructor
  · intro honest earlier call later reads key shape admits
    exact ((within.performAll earlier).limitHonest_iff reads key).mp
      (honest earlier call later reads key shape admits)
  · intro unblocked earlier call later reads key shape admits
    exact ((within.performAll earlier).limitHonest_iff reads key).mpr
      (unblocked earlier call later reads key shape admits)

/-- A flow of a captured application, told apart by its source port. -/
def sampleFlow (protocol : FlowProtocol) (port : UInt16) : FlowKey where
  protocol
  source := .v4 (10 ::ᵥ 0 ::ᵥ 0 ::ᵥ 2 ::ᵥ .nil) port
  destination := .v4 (1 ::ᵥ 1 ::ᵥ 1 ::ᵥ 1 ::ᵥ .nil) 443

def onlineAt (generation : UInt64) : RuntimeSnapshot where
  generation
  phase := .online

/-- An admission while the generation stays online. -/
def steady (generation : UInt64) : Reads :=
  ⟨onlineAt generation, onlineAt generation⟩

def singleLimits : TunAdapterLimits := ⟨1, 1⟩

/-- The registry is cleared between two generations. -/
def clearedCalls : List (Call Unit) :=
  [.admitFlow (steady 1) (sampleFlow .tcp 50000), .clear,
    .admitFlow (steady 2) (sampleFlow .tcp 50001)]

theorem flow_limit_honest_after_clear :
    ((TunFlowRegistry.mk singleLimits .empty).performAll
      (clearedCalls.take 2)).LimitHonest (steady 2)
        (sampleFlow .tcp 50001) := by
  have honest := (flow_limit_honest_iff singleLimits ⟨singleLimits, .empty⟩
    rfl clearedCalls).mpr
  refine honest ?_ (clearedCalls.take 2) _ [] _ _ rfl rfl
  intro earlier call later reads key shape admits generation current _
  left
  rcases earlier with _ | ⟨first, _ | ⟨second, _ | ⟨third, rest⟩⟩⟩
  · obtain ⟨rfl, _⟩ := List.cons.inj shape
    rfl
  · obtain ⟨_, afterFirst⟩ := List.cons.inj shape
    obtain ⟨rfl, _⟩ := List.cons.inj afterFirst
    cases admits
  · obtain ⟨rfl, afterFirst⟩ := List.cons.inj shape
    obtain ⟨rfl, _⟩ := List.cons.inj afterFirst
    rfl
  · have short := congrArg List.length shape
    simp [clearedCalls] at short

/-- A flow of a lost connection keeps the only slot, and the first flow of
the next connection is refused while none is active. -/
theorem stale_lease_blocks_flow :
    ((TunFlowRegistry.mk singleLimits .empty).performAll
      (clearedCalls.take 1)).active (steady 2) .tcp = 0 ∧
    ¬∀ (limits : TunAdapterLimits) (fresh : TunFlowRegistry)
      (calls : List (Call Unit)) (reads : Reads) (key : FlowKey),
      new limits = .ok fresh →
        (fresh.performAll calls).LimitHonest reads key := by
  refine ⟨by decide, ?_⟩
  intro honest
  have reached := honest singleLimits ⟨singleLimits, .empty⟩
    (clearedCalls.take 1) (steady 2) (sampleFlow .tcp 50001) rfl (by decide)
  revert reached
  decide

/-! ## Leases of failed openings -/

/-- The awaited operation succeeds and its generation is still online. -/
def Completes {Value : Type} (awaited : Awaited Value) : Prop :=
  (∃ value, awaited.answer = .ok value) ∧
    awaited.after.isGenerationOnline awaited.reads.snapshot.generation = true

/-- An admission takes no new lease: there is no generation to admit to, the
flow has its lease already, or it has none and the limit is reached. -/
def Idle (registry : TunFlowRegistry) (reads : Reads) (key : FlowKey) :
    Prop :=
  ∀ generation, currentGeneration reads = .ok generation →
    registry.flows.get? key = some ⟨generation⟩ ∨
      (registry.flows.get? key = none ∧
        registry.limit key ≤ registry.others key)

theorem flows_without_iff {registry : TunFlowRegistry} {key : FlowKey} :
    (registry.without key).flows = registry.flows ↔
      registry.flows.get? key = none := by
  constructor
  · intro same
    rw [← same]
    exact OrderedMap.get?_erase_self _ _
  · intro absent
    rw [without_of_absent absent]

theorem flows_lease_ne {registry : TunFlowRegistry} {key : FlowKey}
    {generation : UInt64}
    (unleased : registry.flows.get? key ≠ some ⟨generation⟩) :
    (registry.lease key generation).flows ≠ registry.flows := by
  intro same
  apply unleased
  rw [← same]
  exact OrderedMap.get?_insert_self _ _ _

/-- Admissions that are idle are those that leave the leases alone; the others
take a lease that was not there, or lose an old one. -/
theorem admitFlow_changes (registry : TunFlowRegistry) (reads : Reads)
    (key : FlowKey) :
    (registry.Idle reads key ∧ (registry.admitFlow reads key).2 = registry) ∨
    (¬registry.Idle reads key ∧ registry.limit key ≤ registry.others key ∧
      (registry.admitFlow reads key).1 = .error (.limitOf key.protocol) ∧
      (registry.admitFlow reads key).2.flows ≠ registry.flows) ∨
    (¬registry.Idle reads key ∧ registry.others key < registry.limit key ∧
      (registry.admitFlow reads key).1 = .ok reads.snapshot.generation ∧
      (registry.admitFlow reads key).2.flows.get? key =
        some ⟨reads.snapshot.generation⟩ ∧
      (registry.admitFlow reads key).2.flows ≠ registry.flows) := by
  rcases registry.admitFlow_cases reads key with
    ⟨offline, same⟩ | ⟨generation, current, possible⟩
  · refine .inl ⟨?_, by rw [same]⟩
    intro generation current
    rw [offline] at current
    cases current
  · obtain ⟨rfl, _⟩ := currentGeneration_eq_ok_iff.mp current
    have only : registry.Idle reads key →
        registry.flows.get? key = some ⟨reads.snapshot.generation⟩ ∨
          (registry.flows.get? key = none ∧
            registry.limit key ≤ registry.others key) :=
      fun idle => idle _ current
    rcases possible with ⟨leased, same⟩ | ⟨unleased, full, same⟩ |
      ⟨unleased, room, same⟩
    · refine .inl ⟨?_, by rw [same]⟩
      intro generation again
      obtain ⟨rfl, _⟩ := currentGeneration_eq_ok_iff.mp again
      exact .inl leased
    · rw [same]
      cases stored : registry.flows.get? key with
      | none =>
          refine .inl ⟨fun _ _ => .inr ⟨stored, full⟩, ?_⟩
          exact without_of_absent stored
      | some old =>
          refine .inr (.inl ⟨?_, full, rfl, ?_⟩)
          · intro idle
            rcases only idle with leased | ⟨absent, _⟩
            · exact unleased leased
            · rw [stored] at absent
              cases absent
          · intro unchanged
            rw [flows_without_iff, stored] at unchanged
            cases unchanged
    · rw [same]
      refine .inr (.inr ⟨?_, room, rfl, OrderedMap.get?_insert_self _ _ _,
        flows_lease_ne unleased⟩)
      intro idle
      rcases only idle with leased | ⟨_, full⟩
      · exact unleased leased
      · omega

theorem isActive_of_leased {registry : TunFlowRegistry}
    {now : RuntimeSnapshot} {key : FlowKey} {generation : UInt64}
    (leased : registry.flows.get? key = some ⟨generation⟩) :
    registry.isActive now key generation =
      now.isGenerationOnline generation := by
  simp [isActive, leased]

/-- An admitted opening fails unless its operation completes. -/
theorem openTcp_fails_iff {registry : TunFlowRegistry} {flow : FlowKey}
    {awaited : Awaited Stream} (tcp : flow.protocol = .tcp)
    (admits : (registry.admitFlow awaited.reads flow).1 =
      .ok awaited.reads.snapshot.generation)
    (leased : (registry.admitFlow awaited.reads flow).2.flows.get? flow =
      some ⟨awaited.reads.snapshot.generation⟩) :
    (∃ failure, (registry.openTcp flow awaited).1 = .error failure) ↔
      ¬Completes awaited := by
  obtain ⟨reads, answer, after⟩ := awaited
  obtain ⟨admitted, same⟩ : ∃ admitted, registry.admitFlow reads flow =
      (.ok reads.snapshot.generation, admitted) := ⟨_, Prod.ext admits rfl⟩
  simp only [same] at leased
  rw [openTcp, same, Completes]
  cases answer with
  | error failure => simp [tcp]
  | ok stream =>
      have active := @isActive_of_leased _ after _ _ leased
      by_cases online : after.isGenerationOnline reads.snapshot.generation
      · simp [tcp, active, online]
      · simp [tcp, active, online]

/-- The table has a session for the flow, or room for one. -/
def Associates (associations : UdpAssociationTable) (flow : FlowKey) : Prop :=
  associations.byFlow.get? flow ≠ none ∨
    associations.byFlow.size ≠ associations.limit.toNat

theorem forwardUdp_fails_iff {registry : TunFlowRegistry} {flow : FlowKey}
    {views : PacketViews} {frame : List UInt8}
    {associations : UdpAssociationTable} {awaited : Awaited Unit}
    (paired : associations.Paired)
    (forwards : views.forwarded frame = some flow)
    (admits : (registry.admitFlow awaited.reads flow).1 =
      .ok awaited.reads.snapshot.generation)
    (leased : (registry.admitFlow awaited.reads flow).2.flows.get? flow =
      some ⟨awaited.reads.snapshot.generation⟩) :
    (∃ failure, (registry.forwardUdp views frame associations awaited).1 =
        .err failure) ↔
      ¬(Associates associations flow ∧ Completes awaited) := by
  obtain ⟨reads, answer, after⟩ := awaited
  have udp := PacketViews.udp_of_forwarded forwards
  obtain ⟨admitted, same⟩ : ∃ admitted, registry.admitFlow reads flow =
      (.ok reads.snapshot.generation, admitted) := ⟨_, Prod.ext admits rfl⟩
  simp only [same] at leased
  have active := @isActive_of_leased _ after _ _ leased
  unfold PacketViews.forwarded at forwards
  split at forwards
  next classified extracted =>
      cases forwards
      rw [forwardUdp, classified, extracted]
      simp only [same]
      rcases paired.sessionFor_cases flow with
        ⟨other, _⟩ | ⟨session, found, looked⟩ | ⟨_, unknown, full, looked⟩ |
          ⟨_, unknown, room, session, next, _, _, looked⟩
      · exact absurd udp other
      · rw [looked]
        cases answer with
        | error failure => simp [Completes]
        | ok sent =>
            by_cases online :
              after.isGenerationOnline reads.snapshot.generation
            · simp [Completes, Associates, active, online, found]
            · simp [Completes, active, online]
      · rw [looked]
        simp [Associates, unknown, full]
      · rw [looked]
        cases answer with
        | error failure => simp [Completes]
        | ok sent =>
            by_cases online :
              after.isGenerationOnline reads.snapshot.generation
            · simp [Completes, Associates, active, online, room]
            · simp [Completes, active, online]
  next => cases forwards

/-- Where an opening fails on a refusal, and on an admission unless it is
done, its failure leaves the leases alone exactly when the admission is idle or
the opening is done. -/
theorem failure_keeps_iff {registry : TunFlowRegistry} {reads : Reads}
    {key : FlowKey} {Failed Done : Prop}
    (refused : (registry.admitFlow reads key).1 =
      .error (.limitOf key.protocol) → Failed)
    (admitted : (registry.admitFlow reads key).1 =
        .ok reads.snapshot.generation →
      (registry.admitFlow reads key).2.flows.get? key =
        some ⟨reads.snapshot.generation⟩ → (Failed ↔ ¬Done)) :
    (Failed → (registry.admitFlow reads key).2.flows = registry.flows) ↔
      registry.Idle reads key ∨
        registry.others key < registry.limit key ∧ Done := by
  rcases registry.admitFlow_changes reads key with
    ⟨idle, same⟩ | ⟨busy, full, error, changed⟩ |
      ⟨busy, room, admits, leased, changed⟩
  · rw [same]
    exact iff_of_true (fun _ => rfl) (.inl idle)
  · refine iff_of_false (fun keeps => changed (keeps (refused error))) ?_
    rintro (idle | ⟨room, _⟩)
    · exact busy idle
    · omega
  · have fails := admitted admits leased
    constructor
    · intro keeps
      refine .inr ⟨room, ?_⟩
      by_contra stops
      exact changed (keeps (fails.mpr stops))
    · rintro (idle | ⟨_, done⟩) failed
      · exact absurd idle busy
      · exact absurd done (fails.mp failed)

theorem failed_openTcp_keeps_iff (registry : TunFlowRegistry)
    (flow : FlowKey) (awaited : Awaited Stream) :
    (∀ failure, (registry.openTcp flow awaited).1 = .error failure →
        (registry.openTcp flow awaited).2.flows = registry.flows) ↔
      (flow.protocol = .tcp → registry.Idle awaited.reads flow ∨
        registry.others flow < registry.limit flow ∧ Completes awaited) := by
  rw [openTcp_registry]
  by_cases tcp : flow.protocol = .tcp
  · rw [if_pos tcp, ← exists_imp, forall_prop_of_true tcp]
    apply failure_keeps_iff
    · intro refused
      obtain ⟨admitted, same⟩ : ∃ admitted,
          registry.admitFlow awaited.reads flow =
            (.error (.limitOf flow.protocol), admitted) :=
        ⟨_, Prod.ext refused rfl⟩
      exact ⟨.admission (.limitOf flow.protocol), by simp [openTcp, tcp, same]⟩
    · exact fun admits leased => openTcp_fails_iff tcp admits leased
  · rw [if_neg tcp]
    exact iff_of_true (fun _ _ => rfl) fun isTcp => absurd isTcp tcp

theorem failed_forwardUdp_keeps_iff (registry : TunFlowRegistry)
    (views : PacketViews) (frame : List UInt8)
    {associations : UdpAssociationTable} (paired : associations.Paired)
    (awaited : Awaited Unit) :
    (∀ failure,
        (registry.forwardUdp views frame associations awaited).1 =
          .err failure →
        (registry.forwardUdp views frame associations awaited).2.1.flows =
          registry.flows) ↔
      ∀ flow, views.forwarded frame = some flow →
        registry.Idle awaited.reads flow ∨
          registry.others flow < registry.limit flow ∧
            Associates associations flow ∧ Completes awaited := by
  rw [forwardUdp_registry]
  cases forwards : views.forwarded frame with
  | none =>
      refine iff_of_true (fun _ _ => rfl) ?_
      intro flow found
      cases found
  | some flow =>
      simp only [Option.some.injEq, forall_eq']
      rw [← exists_imp]
      apply failure_keeps_iff
      · intro refused
        obtain ⟨admitted, same⟩ : ∃ admitted,
            registry.admitFlow awaited.reads flow =
              (.error (.limitOf flow.protocol), admitted) :=
          ⟨_, Prod.ext refused rfl⟩
        refine ⟨.admission (.limitOf flow.protocol), ?_⟩
        unfold PacketViews.forwarded at forwards
        split at forwards
        next classified extracted =>
            cases forwards
            simp [forwardUdp, classified, extracted, same]
        next => cases forwards
      · exact fun admits leased =>
          forwardUdp_fails_iff paired forwards admits leased

/-- A failed opening leaves the leases as they were exactly when its admission
takes no lease.  Where it takes one, the opening must not fail any more. -/
theorem failed_opening_keeps_leases_iff (registry : TunFlowRegistry)
    (flow : FlowKey) (opened : Awaited Stream) (views : PacketViews)
    (frame : List UInt8) (sent : Awaited Unit) (bound : UInt64)
    (fresh associations : UdpAssociationTable)
    (created : UdpAssociationTable.new bound = .ok fresh)
    (reached : Reachable UdpAssociationTable.Step fresh associations) :
    ((∀ failure, (registry.openTcp flow opened).1 = .error failure →
        (registry.openTcp flow opened).2.flows = registry.flows) ↔
      (flow.protocol = .tcp → registry.Idle opened.reads flow ∨
        registry.others flow < registry.limit flow ∧ Completes opened)) ∧
    ((∀ failure,
        (registry.forwardUdp views frame associations sent).1 =
          .err failure →
        (registry.forwardUdp views frame associations sent).2.1.flows =
          registry.flows) ↔
      ∀ captured, views.forwarded frame = some captured →
        registry.Idle sent.reads captured ∨
          registry.others captured < registry.limit captured ∧
            Associates associations captured ∧ Completes sent) := by
  have paired := (UdpAssociationTable.paired_new created).run reached
  exact ⟨failed_openTcp_keeps_iff registry flow opened,
    failed_forwardUdp_keeps_iff registry views frame paired sent⟩

/-- The runtime answers the first opening of a flow with a lost stream. -/
def lostStream (generation : UInt64) : Awaited Unit where
  reads := steady generation
  answer := .error (.client .transport)
  after := onlineAt generation

/-- Views that refuse every frame. -/
def blindViews : PacketViews where
  ipv4Packet _ := none
  ipv4Repr _ := none
  tcpPacket _ := none
  udpPacket _ := none
  emitUdpIpv4 _ _ _ := []
  emitUdpIpv6 _ _ _ := []

theorem failed_opening_keeps_leases_offline :
    ((TunFlowRegistry.mk singleLimits .empty).openTcp
      (sampleFlow .tcp 50000)
      (⟨⟨{}, {}⟩, .error .notOnline, {}⟩ : Awaited Unit)).2.flows = .empty := by
  have keeps := (failed_opening_keeps_leases_iff ⟨singleLimits, .empty⟩
    (sampleFlow .tcp 50000)
    (⟨⟨{}, {}⟩, .error .notOnline, {}⟩ : Awaited Unit) blindViews []
    (lostStream 1) 1 ⟨1, .empty, .empty, 1⟩ ⟨1, .empty, .empty, 1⟩ rfl
    ⟨[], .nil⟩).1.mpr
  apply keeps
  · intro _
    left
    intro generation current
    cases current
  · rfl

/-- One stream that fails to open takes the only slot, and the next flow is
refused although no relay is open. -/
theorem failed_opening_exhausts_limit :
    ((TunFlowRegistry.mk singleLimits .empty).openTcp
        (sampleFlow .tcp 50000) (lostStream 1)).1 =
          .error (.runtime (.client .transport)) ∧
      (((TunFlowRegistry.mk singleLimits .empty).openTcp
        (sampleFlow .tcp 50000) (lostStream 1)).2.admitFlow (steady 1)
          (sampleFlow .tcp 50001)).1 = .error .tcpFlowLimit ∧
      ¬∀ (registry : TunFlowRegistry) (flow : FlowKey)
        (awaited : Awaited Unit) (failure : TcpRelayError),
        (registry.openTcp flow awaited).1 = .error failure →
          (registry.openTcp flow awaited).2.flows = registry.flows := by
  refine ⟨rfl, by decide, ?_⟩
  intro keeps
  have unchanged := keeps ⟨singleLimits, .empty⟩ (sampleFlow .tcp 50000)
    (lostStream 1) _ rfl
  have sizes := congrArg OrderedMap.size unchanged
  revert sizes
  decide

end TunFlowRegistry

end Velum.Tun
