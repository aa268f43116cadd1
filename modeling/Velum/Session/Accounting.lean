import Velum.Session.Calls

/-!
# The accounts of a session

The session keeps two totals over all flows and each flow keeps one over its
own queue.  The counters are maintained separately by every operation, and
they stay equal to what they count.
-/

namespace Velum.Session

open Foundation
open Velum.Protocol
open Velum.Crypto

/-- Sequence numbers of a queue, oldest first. -/
def queuedSequences (queue : List PendingSegment) : List Nat :=
  queue.map fun pending => pending.segment.sequence.value.toNat

namespace SessionTracer

/-- The queue of one flow: its byte count, its limits, and its order.  The
sequences are the consecutive range that ends just before `nextSend`. -/
structure FlowAccounted (session : SessionTracer)
    (flow : ReliableFlow) : Prop where
  bytes : flow.pendingBytes = queuedBytes flow.pending
  segmentLimit :
    flow.pending.length ≤ session.limits.maxPendingSegments.toNat
  byteLimit : flow.pendingBytes ≤ session.limits.maxPendingBytes.toNat
  numbered : flow.pending.length ≤ flow.nextSend.value.toNat
  consecutive : queuedSequences flow.pending =
    List.range' (flow.nextSend.value.toNat - flow.pending.length)
      flow.pending.length
  epochs : flow.pending.Pairwise fun older newer =>
    older.segment.epoch ≤ newer.segment.epoch
  epochsReached : ∀ pending ∈ flow.pending,
    pending.segment.epoch ≤ session.epoch
  expiries : flow.pending.Pairwise fun older newer =>
    older.expiresAt ≤ newer.expiresAt
  expiriesReached : ∀ pending ∈ flow.pending,
    pending.expiresAt.toNat ≤
      session.tick.toNat + session.limits.maxPendingAge.toNat

/-- The accounting invariant of a session. -/
structure Accounted (session : SessionTracer) : Prop where
  segments : session.pendingSegments =
    session.flows.total fun flow => flow.pending.length
  bytes : session.pendingBytes =
    session.flows.total fun flow => flow.pendingBytes
  segmentLimit : session.pendingSegments ≤
    session.limits.maxSessionPendingSegments.toNat
  byteLimit : session.pendingBytes ≤
    session.limits.maxSessionPendingBytes.toNat
  flowLimit : session.flows.size ≤ session.limits.maxFlows.toNat
  eventLimit : session.events.length ≤ session.limits.maxEvents.toNat
  flows : ∀ {flowId flow}, session.flows.get? flowId = some flow →
    session.FlowAccounted flow
  owner : ∀ {flowId flow}, session.flows.get? flowId = some flow →
    ∀ pending ∈ flow.pending, pending.segment.flowId = flowId
  identified : ∀ {flowId flow}, session.flows.get? flowId = some flow →
    flowId.value.toNat < session.nextFlow.toNat

/-! ## Flows -/

/-- The account of a flow outlives any growth of the epoch and the tick. -/
theorem FlowAccounted.of_later {before after : SessionTracer}
    {flow : ReliableFlow} (accounted : before.FlowAccounted flow)
    (limits : after.limits = before.limits)
    (epoch : before.epoch ≤ after.epoch)
    (tick : before.tick.toNat ≤ after.tick.toNat) :
    after.FlowAccounted flow where
  bytes := accounted.bytes
  segmentLimit := by
    rw [limits]
    exact accounted.segmentLimit
  byteLimit := by
    rw [limits]
    exact accounted.byteLimit
  numbered := accounted.numbered
  consecutive := accounted.consecutive
  epochs := accounted.epochs
  epochsReached := by
    intro pending member
    have reached := accounted.epochsReached pending member
    rw [Epoch.le_iff] at reached epoch ⊢
    omega
  expiries := accounted.expiries
  expiriesReached := by
    intro pending member
    have reached := accounted.expiriesReached pending member
    rw [limits]
    omega

theorem FlowAccounted.opened (session : SessionTracer) :
    session.FlowAccounted .opened where
  bytes := rfl
  segmentLimit := Nat.zero_le _
  byteLimit := Nat.zero_le _
  numbered := Nat.zero_le _
  consecutive := rfl
  epochs := .nil
  epochsReached := by simp [ReliableFlow.opened]
  expiries := .nil
  expiriesReached := by simp [ReliableFlow.opened]

/-- The account of a flow reads only its queue and its send cursor. -/
theorem FlowAccounted.of_queue {session : SessionTracer}
    {flow other : ReliableFlow} (accounted : session.FlowAccounted flow)
    (pending : other.pending = flow.pending)
    (pendingBytes : other.pendingBytes = flow.pendingBytes)
    (nextSend : other.nextSend = flow.nextSend) :
    session.FlowAccounted other := by
  cases other
  cases flow
  cases pending
  cases pendingBytes
  cases nextSend
  exact ⟨accounted.bytes, accounted.segmentLimit, accounted.byteLimit,
    accounted.numbered, accounted.consecutive, accounted.epochs,
    accounted.epochsReached, accounted.expiries, accounted.expiriesReached⟩

/-- A segment numbered by the send cursor extends the consecutive range. -/
theorem FlowAccounted.retain {session : SessionTracer}
    {flow : ReliableFlow} {segment : Segment} {nextSend : Sequence}
    {expiresAt : UInt64} (accounted : session.FlowAccounted flow)
    (segmentRoom : flow.pending.length ≠
      session.limits.maxPendingSegments.toNat)
    (byteRoom : segment.bytes.length ≤
      session.limits.maxPendingBytes.toNat - flow.pendingBytes)
    (current : segment.epoch = session.epoch)
    (numbered : segment.sequence = flow.nextSend)
    (next : nextSend.value.toNat = flow.nextSend.value.toNat + 1)
    (deadline : expiresAt.toNat =
      session.tick.toNat + session.limits.maxPendingAge.toNat) :
    session.FlowAccounted
      { flow with
        nextSend
        pending := flow.pending ++ [{ segment, expiresAt }]
        pendingBytes := flow.pendingBytes + segment.bytes.length } where
  bytes := by simp [accounted.bytes]
  segmentLimit := by
    have room := accounted.segmentLimit
    simp only [List.length_append, List.length_singleton]
    omega
  byteLimit := by
    have room := accounted.byteLimit
    change flow.pendingBytes + segment.bytes.length ≤ _
    omega
  numbered := by
    have older := accounted.numbered
    simp only [List.length_append, List.length_singleton]
    omega
  consecutive := by
    have older := accounted.numbered
    have start : nextSend.value.toNat - (flow.pending.length + 1) =
        flow.nextSend.value.toNat - flow.pending.length := by omega
    have last : flow.nextSend.value.toNat - flow.pending.length +
        flow.pending.length = flow.nextSend.value.toNat := by omega
    have range := accounted.consecutive
    simp only [queuedSequences] at range
    simp only [queuedSequences, List.map_append, List.map_singleton,
      List.length_append, List.length_singleton, start, numbered]
    rw [List.range'_concat, range, Nat.one_mul, last]
  epochs := by
    refine List.pairwise_append.mpr
      ⟨accounted.epochs, List.pairwise_singleton _ _, ?_⟩
    intro older member newer newest
    rw [List.mem_singleton.mp newest]
    simpa [current] using accounted.epochsReached older member
  epochsReached := by
    intro pending member
    rcases List.mem_append.mp member with older | newest
    · exact accounted.epochsReached pending older
    · rw [List.mem_singleton.mp newest]
      change segment.epoch ≤ session.epoch
      rw [current, Epoch.le_iff]
  expiries := by
    refine List.pairwise_append.mpr
      ⟨accounted.expiries, List.pairwise_singleton _ _, ?_⟩
    intro older member newer newest
    rw [List.mem_singleton.mp newest, UInt64.le_iff_toNat_le, deadline]
    exact accounted.expiriesReached older member
  expiriesReached := by
    intro pending member
    rcases List.mem_append.mp member with older | newest
    · exact accounted.expiriesReached pending older
    · rw [List.mem_singleton.mp newest]
      exact deadline.le

/-- Releasing a prefix leaves the rest of the consecutive range. -/
theorem FlowAccounted.release {session : SessionTracer}
    {flow : ReliableFlow} {covered kept : List PendingSegment}
    {flowBytes : Nat} (accounted : session.FlowAccounted flow)
    (split : flow.pending = covered ++ kept)
    (bytesLeft : flow.pendingBytes = queuedBytes covered + flowBytes) :
    session.FlowAccounted
      { flow with pending := kept, pendingBytes := flowBytes } := by
  have lengths : flow.pending.length = covered.length + kept.length := by
    rw [split, List.length_append]
  have queued := accounted.bytes
  rw [split, queuedBytes_append] at queued
  have sublist : kept.Sublist flow.pending := by
    rw [split]
    exact List.sublist_append_right covered kept
  have numbered := accounted.numbered
  refine
    { bytes := ?_
      segmentLimit := ?_
      byteLimit := ?_
      numbered := ?_
      consecutive := ?_
      epochs := accounted.epochs.sublist sublist
      epochsReached := fun pending member =>
        accounted.epochsReached pending (sublist.subset member)
      expiries := accounted.expiries.sublist sublist
      expiriesReached := fun pending member =>
        accounted.expiriesReached pending (sublist.subset member) }
  · change flowBytes = queuedBytes kept
    omega
  · have limit := accounted.segmentLimit
    change kept.length ≤ _
    omega
  · have limit := accounted.byteLimit
    change flowBytes ≤ _
    omega
  · change kept.length ≤ flow.nextSend.value.toNat
    omega
  · change queuedSequences kept =
      List.range' (flow.nextSend.value.toNat - kept.length) kept.length
    have start : flow.nextSend.value.toNat - kept.length =
        flow.nextSend.value.toNat - flow.pending.length +
          covered.length := by omega
    have range := accounted.consecutive
    rw [lengths, ← List.range'_append_1, ← lengths, split, queuedSequences,
      List.map_append] at range
    rw [start, split]
    exact (List.append_inj range (by simp)).2

/-! ## Sessions -/

theorem recordEvent_length_le {session : SessionTracer}
    (bounded : session.events.length ≤ session.limits.maxEvents.toNat)
    (event : SessionEvent) :
    (session.recordEvent event).events.length ≤
      session.limits.maxEvents.toNat := by
  have room := session.limitsAccepted.events
  simp only [recordEvent, List.length_append, List.length_singleton]
  split
  · simp only [List.length_drop]
    omega
  · omega

theorem Accounted.new (epoch : Epoch) (limits : FlowLimits)
    (accepted : limits.Accepted) : (new epoch limits accepted).Accounted where
  segments := rfl
  bytes := rfl
  segmentLimit := Nat.zero_le _
  byteLimit := Nat.zero_le _
  flowLimit := Nat.zero_le _
  eventLimit := Nat.zero_le _
  flows := by simp [SessionTracer.new]
  owner := by simp [SessionTracer.new]
  identified := by simp [SessionTracer.new]

/-- An update that leaves the flows and the accounts alone. -/
theorem Accounted.of_same_flows {before after : SessionTracer}
    (accounted : before.Accounted)
    (flows : after.flows = before.flows)
    (segments : after.pendingSegments = before.pendingSegments)
    (bytes : after.pendingBytes = before.pendingBytes)
    (nextFlow : after.nextFlow = before.nextFlow)
    (limits : after.limits = before.limits)
    (events : after.events.length ≤ before.limits.maxEvents.toNat)
    (epoch : before.epoch ≤ after.epoch)
    (tick : before.tick.toNat ≤ after.tick.toNat) : after.Accounted where
  segments := by rw [segments, flows, accounted.segments]
  bytes := by rw [bytes, flows, accounted.bytes]
  segmentLimit := by
    rw [segments, limits]
    exact accounted.segmentLimit
  byteLimit := by
    rw [bytes, limits]
    exact accounted.byteLimit
  flowLimit := by
    rw [flows, limits]
    exact accounted.flowLimit
  eventLimit := by
    rw [limits]
    exact events
  flows := by
    intro flowId flow found
    rw [flows] at found
    exact (accounted.flows found).of_later limits epoch tick
  owner := by
    intro flowId flow found
    rw [flows] at found
    exact accounted.owner found
  identified := by
    intro flowId flow found
    rw [flows] at found
    rw [nextFlow]
    exact accounted.identified found

/-- Replacing one flow moves the totals by the change of that flow. -/
theorem Accounted.replace {session : SessionTracer} {flowId : FlowId}
    {flow other : ReliableFlow} {segments bytes : Nat}
    (accounted : session.Accounted)
    (found : session.flows.get? flowId = some flow)
    (segmentChange : segments + flow.pending.length =
      session.pendingSegments + other.pending.length)
    (byteChange : bytes + flow.pendingBytes =
      session.pendingBytes + other.pendingBytes)
    (segmentLimit :
      segments ≤ session.limits.maxSessionPendingSegments.toNat)
    (byteLimit : bytes ≤ session.limits.maxSessionPendingBytes.toNat)
    (balanced : session.FlowAccounted other)
    (owned : ∀ pending ∈ other.pending, pending.segment.flowId = flowId) :
    { session with
      flows := session.flows.insert flowId other
      pendingSegments := segments
      pendingBytes := bytes }.Accounted where
  segments := by
    have total := accounted.segments
    rw [OrderedMap.total_eq_of_get? found] at total
    change segments = (session.flows.insert flowId other).total _
    rw [OrderedMap.total_insert]
    omega
  bytes := by
    have total := accounted.bytes
    rw [OrderedMap.total_eq_of_get? found] at total
    change bytes = (session.flows.insert flowId other).total _
    rw [OrderedMap.total_insert]
    omega
  segmentLimit := segmentLimit
  byteLimit := byteLimit
  flowLimit := by
    have limit := accounted.flowLimit
    rw [OrderedMap.size_eq_total, OrderedMap.total_eq_of_get? found] at limit
    change (session.flows.insert flowId other).size ≤ _
    rw [OrderedMap.size_eq_total, OrderedMap.total_insert]
    exact limit
  eventLimit := accounted.eventLimit
  flows := by
    intro otherId stored lookup
    rcases OrderedMap.get?_insert_eq_some_iff.mp lookup with
      ⟨_, rfl⟩ | ⟨_, untouched⟩
    · exact balanced.of_later rfl (Nat.le_refl _) (Nat.le_refl _)
    · exact (accounted.flows untouched).of_later rfl (Nat.le_refl _)
        (Nat.le_refl _)
  owner := by
    intro otherId stored lookup
    rcases OrderedMap.get?_insert_eq_some_iff.mp lookup with
      ⟨rfl, rfl⟩ | ⟨_, untouched⟩
    · exact owned
    · exact accounted.owner untouched
  identified := by
    intro otherId stored lookup
    rcases OrderedMap.get?_insert_eq_some_iff.mp lookup with
      ⟨rfl, _⟩ | ⟨_, untouched⟩
    · exact accounted.identified found
    · exact accounted.identified untouched

/-- Removing one flow gives its queue back to the session. -/
theorem Accounted.remove {session : SessionTracer} {flowId : FlowId}
    {flow : ReliableFlow} {segments bytes : Nat}
    (accounted : session.Accounted)
    (found : session.flows.get? flowId = some flow)
    (segmentsLeft : session.pendingSegments =
      flow.pending.length + segments)
    (bytesLeft : session.pendingBytes = flow.pendingBytes + bytes) :
    { session with
      flows := session.flows.erase flowId
      pendingSegments := segments
      pendingBytes := bytes }.Accounted where
  segments := by
    have total := accounted.segments
    rw [OrderedMap.total_eq_of_get? found] at total
    change segments = (session.flows.erase flowId).total _
    omega
  bytes := by
    have total := accounted.bytes
    rw [OrderedMap.total_eq_of_get? found] at total
    change bytes = (session.flows.erase flowId).total _
    omega
  segmentLimit := by
    have limit := accounted.segmentLimit
    change segments ≤ session.limits.maxSessionPendingSegments.toNat
    omega
  byteLimit := by
    have limit := accounted.byteLimit
    change bytes ≤ session.limits.maxSessionPendingBytes.toNat
    omega
  flowLimit := by
    have limit := accounted.flowLimit
    rw [OrderedMap.size_eq_total, OrderedMap.total_eq_of_get? found] at limit
    change (session.flows.erase flowId).size ≤
      session.limits.maxFlows.toNat
    rw [OrderedMap.size_eq_total]
    omega
  eventLimit := accounted.eventLimit
  flows := by
    intro otherId stored lookup
    have kept := (OrderedMap.get?_erase_eq_some_iff.mp lookup).2
    exact (accounted.flows kept).of_later rfl (Nat.le_refl _)
      (Nat.le_refl _)
  owner := by
    intro otherId stored lookup
    exact accounted.owner (OrderedMap.get?_erase_eq_some_iff.mp lookup).2
  identified := by
    intro otherId stored lookup
    exact accounted.identified
      (OrderedMap.get?_erase_eq_some_iff.mp lookup).2

/-- A fresh identifier lies above every live one, so opening adds an empty
queue under a new key. -/
theorem Accounted.open {session : SessionTracer} {flowId : FlowId}
    (accounted : session.Accounted)
    (room : session.flows.size < session.limits.maxFlows.toNat)
    (fresh : session.nextFlow.toNat ≤ flowId.value.toNat)
    (next : (flowId.value + 1).toNat = flowId.value.toNat + 1) :
    { session with
      nextFlow := flowId.value + 1
      flows := session.flows.insert flowId .opened }.Accounted := by
  have absent : session.flows.get? flowId = none := by
    cases found : session.flows.get? flowId with
    | none => rfl
    | some flow =>
        have below := accounted.identified found
        omega
  refine
    { segments := ?_
      bytes := ?_
      segmentLimit := accounted.segmentLimit
      byteLimit := accounted.byteLimit
      flowLimit := ?_
      eventLimit := accounted.eventLimit
      flows := ?_
      owner := ?_
      identified := ?_ }
  · change session.pendingSegments =
      (session.flows.insert flowId .opened).total _
    rw [OrderedMap.total_insert_of_absent absent, ← accounted.segments]
    exact (Nat.zero_add _).symm
  · change session.pendingBytes =
      (session.flows.insert flowId .opened).total _
    rw [OrderedMap.total_insert_of_absent absent, ← accounted.bytes]
    exact (Nat.zero_add _).symm
  · change (session.flows.insert flowId .opened).size ≤
      session.limits.maxFlows.toNat
    rw [OrderedMap.size_eq_total, OrderedMap.total_insert_of_absent absent,
      ← OrderedMap.size_eq_total]
    omega
  · intro otherId stored lookup
    rcases OrderedMap.get?_insert_eq_some_iff.mp lookup with
      ⟨_, rfl⟩ | ⟨_, untouched⟩
    · exact .opened _
    · exact (accounted.flows untouched).of_later rfl (Nat.le_refl _)
        (Nat.le_refl _)
  · intro otherId stored lookup
    rcases OrderedMap.get?_insert_eq_some_iff.mp lookup with
      ⟨_, rfl⟩ | ⟨_, untouched⟩
    · simp [ReliableFlow.opened]
    · exact accounted.owner untouched
  · intro otherId stored lookup
    change otherId.value.toNat < (flowId.value + 1).toNat
    rcases OrderedMap.get?_insert_eq_some_iff.mp lookup with
      ⟨rfl, _⟩ | ⟨_, untouched⟩
    · omega
    · have below := accounted.identified untouched
      omega

/-- Every primitive effect keeps the accounts. -/
theorem Accounted.effect {session next : SessionTracer} {action : Action}
    (accounted : session.Accounted) (effect : Effect session action next) :
    next.Accounted := by
  cases effect with
  | noted event =>
      exact accounted.of_same_flows rfl rfl rfl rfl rfl
        (recordEvent_length_le accounted.eventLimit event) (Nat.le_refl _)
        (Nat.le_refl _)
  | bound =>
      exact accounted.of_same_flows rfl rfl rfl rfl rfl accounted.eventLimit
        (Nat.le_refl _) (Nat.le_refl _)
  | opened room fresh following => exact accounted.open room fresh following
  | closed found idle =>
      have empty := (accounted.flows found).bytes
      rw [idle, queuedBytes_nil] at empty
      exact accounted.remove found (by simp [idle]) (by simp [empty])
  | dropped found segmentsLeft bytesLeft =>
      exact accounted.remove found segmentsLeft bytesLeft
  | retained found segmentRoom byteRoom flowSegmentRoom flowByteRoom current
      numbered following deadline =>
      have byteLimit := accounted.byteLimit
      refine accounted.replace found ?_ ?_ segmentRoom (by omega)
        ((accounted.flows found).retain flowSegmentRoom flowByteRoom current
          numbered following deadline) ?_
      · simp only [List.length_append, List.length_singleton]
        omega
      · simp only
        omega
      · intro pending member
        rcases List.mem_append.mp member with older | newest
        · exact accounted.owner found pending older
        · rw [List.mem_singleton.mp newest]
  | released found valid sent notNewer split coveredBelow keptBeyond
      flowBytesLeft segmentsLeft bytesLeft =>
      have segmentLimit := accounted.segmentLimit
      have byteLimit := accounted.byteLimit
      refine accounted.replace found ?_ ?_ (by omega) (by omega)
        ((accounted.flows found).release split flowBytesLeft) ?_
      · simp only [split, List.length_append]
        omega
      · simp only
        omega
      · intro pending member
        apply accounted.owner found
        rw [split]
        exact List.mem_append_right _ member
  | delivered found valid unfinished inOrder following =>
      exact accounted.replace found rfl rfl accounted.segmentLimit
        accounted.byteLimit ((accounted.flows found).of_queue rfl rfl rfl)
        fun pending member => accounted.owner found pending member
  | finished found reached unset =>
      exact accounted.replace found rfl rfl accounted.segmentLimit
        accounted.byteLimit ((accounted.flows found).of_queue rfl rfl rfl)
        fun pending member => accounted.owner found pending member
  | ticked forward =>
      exact accounted.of_same_flows rfl rfl rfl rfl rfl accounted.eventLimit
        (Nat.le_refl _) forward
  | begun idle following =>
      refine accounted.of_same_flows rfl rfl rfl rfl rfl
        accounted.eventLimit ?_ (Nat.le_refl _)
      rw [Epoch.le_iff]
      exact Nat.le_of_lt (by rw [epoch, epoch, following]; omega)
  | completed =>
      exact accounted.of_same_flows rfl rfl rfl rfl rfl accounted.eventLimit
        (Nat.le_refl _) (Nat.le_refl _)
  | attached bound current fresh =>
      exact accounted.of_same_flows rfl rfl rfl rfl rfl accounted.eventLimit
        (Nat.le_refl _) (Nat.le_refl _)

theorem Live.accounted {hmac : Hmac} {session : SessionTracer}
    (live : Live hmac session) : session.Accounted :=
  live.invariant Accounted.new Accounted.effect

/-- Balanced accounts cover every flow. -/
theorem Accounted.not_overdrawn {session : SessionTracer} {flowId : FlowId}
    {flow : ReliableFlow} (accounted : session.Accounted)
    (found : session.flows.get? flowId = some flow) :
    ¬session.Overdrawn flow := by
  have flowBytes := (accounted.flows found).bytes
  have segments := OrderedMap.weight_le_total found
    fun flow => flow.pending.length
  have bytes := OrderedMap.weight_le_total found
    fun flow => flow.pendingBytes
  rw [← accounted.segments] at segments
  rw [← accounted.bytes] at bytes
  have segmentLimit := accounted.segmentLimit
  have byteLimit := accounted.byteLimit
  have segmentMaximum := session.limits.maxSessionPendingSegments.toNat_lt
  have byteMaximum := session.limits.maxSessionPendingBytes.toNat_lt
  unfold Overdrawn
  omega

/-- In every state of every run the accounts balance, and no call panics for
any other reason than an exhausted 64-bit counter: no account is ever
subtracted below zero. -/
theorem live_accounts_balance (hmac : Hmac) (session : SessionTracer)
    (live : Live hmac session) :
    session.Accounted ∧
      ∀ call cause after,
        session.perform hmac call = (.panic cause, after) →
        cause.Exhaustion := by
  have accounted := live.accounted
  refine ⟨accounted, ?_⟩
  intro call cause after called
  rcases perform_panic_cases called with
    ⟨_, exhausted⟩ | ⟨actions, middle, flowId, flow, run, found, overdrawn⟩
  · exact exhausted
  · have balanced : middle.Accounted :=
      run.invariant accounted Accounted.effect
    exact absurd overdrawn (balanced.not_overdrawn found)

theorem live_accounts_balance_after_acknowledgement :
    ∃ session, Live (.ofTags []) session ∧
      session.pendingSegments = 1 ∧ session.pendingBytes = 2 ∧
      session.Accounted ∧
      ∀ call cause after,
        session.perform (.ofTags []) call = (.panic cause, after) →
        cause.Exhaustion := by
  have run := runCalls_run (.ofTags []) (new ⟨0⟩ smallLimits (by decide))
    [.openReliableFlow, .send ⟨0⟩ [1, 2, 3], .send ⟨0⟩ [4, 5],
      .acknowledge ⟨⟨0⟩, ⟨0⟩, ⟨0⟩⟩] (by decide)
  have live : Live (.ofTags []) _ := ⟨_, _, _, _, run⟩
  exact ⟨_, live, by decide, by decide,
    live_accounts_balance (.ofTags []) _ live⟩

end SessionTracer

end Velum.Session
