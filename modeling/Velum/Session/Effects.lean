import Velum.Foundation.TransitionSystem
import Velum.Session.Tracer

/-!
# Primitive effects of the session operations

Every operation that returns changes the session by a short list of primitive
effects.  Each effect states its guard and the exact state it leaves, so an
invariant of the session is checked against the effects once instead of
against the operations.
-/

namespace Velum.Session

open Foundation
open Velum.Protocol
open Velum.Crypto

/-- Payload bytes of a queue. -/
def queuedBytes (queue : List PendingSegment) : Nat :=
  (queue.map fun pending => pending.segment.bytes.length).sum

@[simp] theorem queuedBytes_nil : queuedBytes [] = 0 := rfl

@[simp] theorem queuedBytes_cons (head : PendingSegment)
    (tail : List PendingSegment) :
    queuedBytes (head :: tail) =
      head.segment.bytes.length + queuedBytes tail := by
  simp [queuedBytes]

@[simp] theorem queuedBytes_append (front back : List PendingSegment) :
    queuedBytes (front ++ back) = queuedBytes front + queuedBytes back := by
  simp [queuedBytes]

inductive Action where
  | noted (event : SessionEvent)
  | bound (parameters : NegotiatedParameters)
  | opened (flowId : FlowId)
  | closed (flowId : FlowId)
  | dropped (flowId : FlowId)
  | retained (segment : Segment)
  | released (acknowledgement : Acknowledgement)
  | delivered (segment : Segment)
  | finished (flowId : FlowId) (finalNext : Sequence)
  | ticked
  | begun
  | completed
  | attached (identity : AcceptedCarrierAttachment)

open SessionTracer

/-- One primitive change of the session, with the condition under which the
operations make it. -/
inductive Effect : SessionTracer → Action → SessionTracer → Prop where
  | noted {session : SessionTracer} (event : SessionEvent) :
      Effect session (.noted event) (session.recordEvent event)
  | bound {session : SessionTracer} {parameters : NegotiatedParameters}
      (detached : session.acceptedAttachment = none)
      (unused : session.attachmentReplay.isEmpty = true)
      (unbound : session.negotiated = none) :
      Effect session (.bound parameters)
        { session with negotiated := some parameters }
  | opened {session : SessionTracer} {flowId : FlowId}
      (room : session.flows.size < session.limits.maxFlows.toNat)
      (fresh : session.nextFlow.toNat ≤ flowId.value.toNat)
      (next : (flowId.value + 1).toNat = flowId.value.toNat + 1) :
      Effect session (.opened flowId)
        { session with
          nextFlow := flowId.value + 1
          flows := session.flows.insert flowId .opened }
  | closed {session : SessionTracer} {flowId : FlowId} {flow : ReliableFlow}
      (found : session.flows.get? flowId = some flow)
      (idle : flow.pending = []) :
      Effect session (.closed flowId)
        { session with flows := session.flows.erase flowId }
  | dropped {session : SessionTracer} {flowId : FlowId}
      {flow : ReliableFlow} {segments bytes : Nat}
      (found : session.flows.get? flowId = some flow)
      (segmentsLeft : session.pendingSegments =
        flow.pending.length + segments)
      (bytesLeft : session.pendingBytes = flow.pendingBytes + bytes) :
      Effect session (.dropped flowId)
        { session with
          flows := session.flows.erase flowId
          pendingSegments := segments
          pendingBytes := bytes }
  | retained {session : SessionTracer} {segment : Segment}
      {flow : ReliableFlow} {nextSend : Sequence} {expiresAt : UInt64}
      (found : session.flows.get? segment.flowId = some flow)
      (segmentRoom : session.pendingSegments <
        session.limits.maxSessionPendingSegments.toNat)
      (byteRoom : segment.bytes.length ≤
        session.limits.maxSessionPendingBytes.toNat - session.pendingBytes)
      (flowSegmentRoom : flow.pending.length ≠
        session.limits.maxPendingSegments.toNat)
      (flowByteRoom : segment.bytes.length ≤
        session.limits.maxPendingBytes.toNat - flow.pendingBytes)
      (current : segment.epoch = session.epoch)
      (numbered : segment.sequence = flow.nextSend)
      (next : nextSend.value.toNat = flow.nextSend.value.toNat + 1)
      (deadline : expiresAt.toNat =
        session.tick.toNat + session.limits.maxPendingAge.toNat) :
      Effect session (.retained segment)
        { session with
          flows := session.flows.insert segment.flowId
            { flow with
              nextSend
              pending := flow.pending ++ [{ segment, expiresAt }]
              pendingBytes := flow.pendingBytes + segment.bytes.length }
          pendingSegments := session.pendingSegments + 1
          pendingBytes := session.pendingBytes + segment.bytes.length }
  | released {session : SessionTracer} {acknowledgement : Acknowledgement}
      {flow : ReliableFlow} {covered kept : List PendingSegment}
      {flowBytes segments bytes : Nat}
      (found : session.flows.get? acknowledgement.flowId = some flow)
      (valid : session.requireValidEpoch acknowledgement.epoch = .ok ())
      (sent : acknowledgement.through < flow.nextSend)
      (notNewer : ∀ pending ∈ flow.pending,
        pending.segment.sequence ≤ acknowledgement.through →
        ¬acknowledgement.epoch < pending.segment.epoch)
      (split : flow.pending = covered ++ kept)
      (coveredBelow : ∀ pending ∈ covered,
        pending.segment.sequence ≤ acknowledgement.through)
      (keptBeyond : ∀ pending, kept.head? = some pending →
        ¬pending.segment.sequence ≤ acknowledgement.through)
      (flowBytesLeft : flow.pendingBytes = queuedBytes covered + flowBytes)
      (segmentsLeft : session.pendingSegments = covered.length + segments)
      (bytesLeft : session.pendingBytes = queuedBytes covered + bytes) :
      Effect session (.released acknowledgement)
        { session with
          flows := session.flows.insert acknowledgement.flowId
            { flow with pending := kept, pendingBytes := flowBytes }
          pendingSegments := segments
          pendingBytes := bytes }
  | delivered {session : SessionTracer} {segment : Segment}
      {flow : ReliableFlow} {nextReceive : Sequence}
      (found : session.flows.get? segment.flowId = some flow)
      (valid : session.requireValidEpoch segment.epoch = .ok ())
      (unfinished : ∀ finalNext, flow.receiveFinalNext = some finalNext →
        segment.sequence < finalNext)
      (inOrder : segment.sequence = flow.nextReceive)
      (next : nextReceive.value.toNat = flow.nextReceive.value.toNat + 1) :
      Effect session (.delivered segment)
        (session.setFlow segment.flowId { flow with nextReceive })
  | finished {session : SessionTracer} {flowId : FlowId}
      {finalNext : Sequence} {flow : ReliableFlow}
      (found : session.flows.get? flowId = some flow)
      (reached : flow.nextReceive ≤ finalNext)
      (unset : flow.receiveFinalNext = none) :
      Effect session (.finished flowId finalNext)
        (session.setFlow flowId
          { flow with receiveFinalNext := some finalNext })
  | ticked {session : SessionTracer} {tick : UInt64}
      (forward : session.tick.toNat ≤ tick.toNat) :
      Effect session .ticked { session with tick }
  | begun {session : SessionTracer} {epoch : Epoch}
      (idle : session.transition.retiring = none)
      (next : epoch.value.toNat =
        session.transition.current.value.toNat + 1) :
      Effect session .begun
        { session with
          transition :=
            { current := epoch
              retiring := some session.transition.current }
          retiringAttachment := session.acceptedAttachment
          acceptedAttachment := none }
  | completed {session : SessionTracer} :
      Effect session .completed
        { session with
          transition := session.transition.retirePrevious
          retiringAttachment := none }
  | attached {session : SessionTracer}
      {identity : AcceptedCarrierAttachment}
      {parameters : NegotiatedParameters}
      (bound : session.negotiated = some parameters)
      (current : identity.epoch = session.epoch)
      (fresh : session.attachmentReplay.accepts identity.epoch = true) :
      Effect session (.attached identity)
        { session with
          attachmentReplay := ⟨some identity.epoch⟩
          acceptedAttachment := some identity }

/-- A call that changed nothing but, possibly, the event log. -/
def Quiet (before after : SessionTracer) : Prop :=
  after = before ∨ ∃ event, after = before.recordEvent event

theorem Quiet.effects {before after : SessionTracer}
    (quiet : Quiet before after) :
    ∃ actions, Run Effect before actions after ∧
      ∀ action ∈ actions, ∃ event, action = .noted event := by
  rcases quiet with rfl | ⟨event, rfl⟩
  · exact ⟨[], .nil, by simp⟩
  · refine ⟨[.noted event], .single (.noted event), ?_⟩
    intro action member
    exact ⟨event, List.mem_singleton.mp member⟩

namespace SessionTracer

/-- The accounts of the session and of one flow do not cover the flow's
queue, or the session accounts are not representable. -/
def Overdrawn (session : SessionTracer) (flow : ReliableFlow) : Prop :=
  flow.pendingBytes < queuedBytes flow.pending ∨
    session.pendingSegments < flow.pending.length ∨
    session.pendingBytes < flow.pendingBytes ∨
    2 ^ 64 ≤ session.pendingSegments ∨ 2 ^ 64 ≤ session.pendingBytes

/-! ## What each operation can do -/

theorem bindNegotiatedParameters_cases {session after : SessionTracer}
    {parameters : NegotiatedParameters}
    {outcome : Outcome Panic NegotiationBindingError Unit}
    (called : session.bindNegotiatedParameters parameters =
      (outcome, after)) :
    (outcome.Failed ∧ after = session) ∨
    (outcome = .ok () ∧ Effect session (.bound parameters) after) := by
  unfold bindNegotiatedParameters at called
  split at called
  · cases called
    exact .inl ⟨trivial, rfl⟩
  · rename_i free
    split at called
    · cases called
      exact .inl ⟨trivial, rfl⟩
    · rename_i unbound
      cases called
      simp only [Bool.or_eq_true, Bool.not_eq_true', not_or,
        Bool.not_eq_true, Option.isSome_eq_false_iff,
        Option.isNone_iff_eq_none, Bool.not_eq_false] at free unbound
      exact .inr ⟨rfl, .bound free.1 free.2 unbound⟩

theorem openReliableFlowWithId_cases {session after : SessionTracer}
    {flowId : FlowId} {outcome : Outcome Panic TraceError Unit}
    (called : session.openReliableFlowWithId flowId = (outcome, after)) :
    (outcome.Failed ∧ after = session) ∨
    (outcome = .ok () ∧ ∃ opened, Effect session (.opened flowId) opened ∧
      after = opened.recordEvent .flowOpened) := by
  unfold openReliableFlowWithId at called
  split at called
  · cases called
    exact .inl ⟨trivial, rfl⟩
  · rename_i room
    split at called
    · cases called
      exact .inl ⟨trivial, rfl⟩
    · rename_i available
      cases called
      simp only [Bool.or_eq_true, decide_eq_true_eq, not_or] at available
      obtain ⟨fresh, notLast⟩ := available
      have ordered : session.nextFlow.toNat ≤ flowId.value.toNat := by
        have unordered : ¬flowId.value.toNat < session.nextFlow.toNat := fresh
        omega
      have bounded : flowId.value.toNat ≠ 2 ^ 64 - 1 := by
        intro last
        exact notLast (UInt64.toNat_inj.mp last)
      have representable := flowId.value.toNat_lt
      have next : (flowId.value + 1).toNat = flowId.value.toNat + 1 := by
        rw [UInt64.toNat_add]
        exact Nat.mod_eq_of_lt (by simp; omega)
      exact .inr ⟨rfl, _, .opened (by omega) ordered next, rfl⟩

theorem openReliableFlow_eq_iff {session after : SessionTracer}
    {outcome : Outcome Panic TraceError FlowId} :
    session.openReliableFlow = (outcome, after) ↔
      ∃ opening, session.openReliableFlowWithId ⟨session.nextFlow⟩ =
          (opening, after) ∧
        opening.bimap (fun _ => ⟨session.nextFlow⟩) id = outcome := by
  simp only [openReliableFlow]
  cases session.openReliableFlowWithId ⟨session.nextFlow⟩ with
  | mk opening reached =>
      constructor
      · intro called
        cases called
        exact ⟨opening, rfl, rfl⟩
      · intro found
        obtain ⟨_, same, rfl⟩ := found
        cases same
        rfl

theorem closeReliableFlow_cases {session after : SessionTracer}
    {flowId : FlowId} {outcome : Outcome Panic TraceError Unit}
    (called : session.closeReliableFlow flowId = (outcome, after)) :
    (outcome.Failed ∧ after = session) ∨
    (outcome = .ok () ∧ Effect session (.closed flowId) after) := by
  unfold closeReliableFlow at called
  split at called
  · cases called
    exact .inl ⟨trivial, rfl⟩
  · rename_i flow found
    split at called
    · cases called
      exact .inl ⟨trivial, rfl⟩
    · rename_i idle
      cases called
      exact .inr ⟨rfl, .closed found (by simpa using idle)⟩

theorem retain_cases {session after : SessionTracer} {flowId : FlowId}
    {flow : ReliableFlow} {bytes : List UInt8}
    {outcome : Outcome Panic TraceError Segment}
    (found : session.flows.get? flowId = some flow)
    (segmentRoom : session.pendingSegments <
      session.limits.maxSessionPendingSegments.toNat)
    (byteRoom : bytes.length ≤
      session.limits.maxSessionPendingBytes.toNat - session.pendingBytes)
    (flowSegmentRoom : flow.pending.length ≠
      session.limits.maxPendingSegments.toNat)
    (flowByteRoom : bytes.length ≤
      session.limits.maxPendingBytes.toNat - flow.pendingBytes)
    (called : session.retain flowId flow bytes = (outcome, after)) :
    (∃ cause, outcome = .panic cause ∧
      (cause.Exhaustion ∨ session.Overdrawn flow)) ∨
    (∃ segment, outcome = .ok segment ∧ segment.flowId = flowId ∧
      segment.bytes = bytes ∧ Effect session (.retained segment) after) := by
  have segmentMaximum := session.limits.maxSessionPendingSegments.toNat_lt
  have byteMaximum := session.limits.maxSessionPendingBytes.toNat_lt
  have flowByteMaximum := session.limits.maxPendingBytes.toNat_lt
  unfold retain at called
  simp only at called
  split at called
  · cases called
    exact .inl ⟨_, rfl, .inl trivial⟩
  rename_i nextSend numbered
  split at called
  · rename_i overflow
    have large := sizeAdd_eq_none_iff.mp overflow
    cases called
    refine .inl ⟨_, rfl, .inr ?_⟩
    unfold Overdrawn
    omega
  rename_i flowBytes charged
  split at called
  · cases called
    exact .inl ⟨_, rfl, .inl trivial⟩
  rename_i expiresAt deadline
  split at called
  · rename_i overflow
    have large := sizeAdd_eq_none_iff.mp overflow
    omega
  rename_i segments counted
  split at called
  · rename_i overflow
    have large := sizeAdd_eq_none_iff.mp overflow
    cases called
    refine .inl ⟨_, rfl, .inr ?_⟩
    unfold Overdrawn
    omega
  rename_i sessionBytes summed
  cases called
  obtain ⟨rfl, _⟩ := sizeAdd_eq_some_iff.mp charged
  obtain ⟨rfl, _⟩ := sizeAdd_eq_some_iff.mp counted
  obtain ⟨rfl, _⟩ := sizeAdd_eq_some_iff.mp summed
  refine .inr ⟨_, rfl, rfl, rfl, ?_⟩
  have next : nextSend.toNat = flow.nextSend.value.toNat + 1 := by
    simpa using checkedAdd_eq_some_iff.mp numbered
  exact .retained found segmentRoom byteRoom flowSegmentRoom flowByteRoom
    rfl rfl next (checkedAdd_eq_some_iff.mp deadline)

theorem send_cases {session after : SessionTracer} {flowId : FlowId}
    {bytes : List UInt8} {outcome : Outcome Panic TraceError Segment}
    (called : session.send flowId bytes = (outcome, after)) :
    (outcome.Failed ∧ Quiet session after) ∨
    (∃ cause, outcome = .panic cause ∧
      (cause.Exhaustion ∨ ∃ flow, session.flows.get? flowId = some flow ∧
        session.Overdrawn flow)) ∨
    (∃ segment, outcome = .ok segment ∧ segment.flowId = flowId ∧
      segment.bytes = bytes ∧ Effect session (.retained segment) after) := by
  unfold send at called
  split at called
  · cases called
    exact .inl ⟨trivial, .inl rfl⟩
  split at called
  · cases called
    exact .inl ⟨trivial, .inr ⟨_, rfl⟩⟩
  rename_i segmentRoom
  split at called
  · cases called
    exact .inl ⟨trivial, .inr ⟨_, rfl⟩⟩
  rename_i byteRoom
  split at called
  · cases called
    exact .inl ⟨trivial, .inl rfl⟩
  rename_i flow found
  split at called
  · cases called
    exact .inl ⟨trivial, .inr ⟨_, rfl⟩⟩
  rename_i flowSegmentRoom
  split at called
  · cases called
    exact .inl ⟨trivial, .inr ⟨_, rfl⟩⟩
  rename_i flowByteRoom
  rcases retain_cases found (by omega) (by omega) flowSegmentRoom
    (by omega) called with ⟨cause, rfl, exhausted | overdrawn⟩ | retained
  · exact .inr (.inl ⟨cause, rfl, .inl exhausted⟩)
  · exact .inr (.inl ⟨cause, rfl, .inr ⟨flow, found, overdrawn⟩⟩)
  · exact .inr (.inr retained)

theorem send_bytes {session after : SessionTracer} {flowId : FlowId}
    {bytes : List UInt8} {segment : Segment}
    (called : session.send flowId bytes = (.ok segment, after)) :
    segment.bytes = bytes := by
  rcases send_cases called with
    ⟨failed, _⟩ | ⟨_, impossible, _⟩ | ⟨_, same, _, carried, _⟩
  · exact absurd failed (by simp)
  · cases impossible
  · cases same
    exact carried

end SessionTracer

/-- The release loop takes the longest covered prefix off the queue. -/
theorem releaseThrough_ok {through : Sequence}
    {queue : List PendingSegment} {flow after : ReliableFlow}
    {segments bytes segments' bytes' : Nat}
    (called : releaseThrough through queue flow segments bytes =
      (.ok (segments', bytes'), after)) :
    ∃ covered kept flowBytes, queue = covered ++ kept ∧
      (∀ pending ∈ covered, pending.segment.sequence ≤ through) ∧
      (∀ pending, kept.head? = some pending →
        ¬pending.segment.sequence ≤ through) ∧
      flow.pendingBytes = queuedBytes covered + flowBytes ∧
      segments' = segments + covered.length ∧
      bytes' = bytes + queuedBytes covered ∧
      after = { flow with pending := kept, pendingBytes := flowBytes } := by
  induction queue generalizing flow segments bytes with
  | nil =>
      cases called
      exact ⟨[], [], flow.pendingBytes, by simp⟩
  | cons front rest induction =>
      unfold releaseThrough at called
      split at called
      · rename_i below
        simp only at called
        split at called
        · cases called
        rename_i left subtracted
        split at called
        · cases called
        rename_i counted countedEq
        split at called
        · cases called
        rename_i summed summedEq
        obtain ⟨covered, kept, flowBytes, rfl, coveredBelow, keptBeyond,
          bytesLeft, rfl, rfl, rfl⟩ := induction called
        obtain ⟨rfl, _⟩ := sizeAdd_eq_some_iff.mp countedEq
        obtain ⟨rfl, _⟩ := sizeAdd_eq_some_iff.mp summedEq
        have charged := sizeSub_eq_some_iff.mp subtracted
        simp only at bytesLeft
        refine ⟨front :: covered, kept, flowBytes, rfl, ?_, keptBeyond, ?_,
          ?_, ?_, rfl⟩
        · intro pending member
          rcases List.mem_cons.mp member with rfl | later
          · exact below
          · exact coveredBelow pending later
        · simp only [queuedBytes_cons]
          omega
        · simp only [List.length_cons]
          omega
        · simp only [queuedBytes_cons]
          omega
      · rename_i beyond
        cases called
        refine ⟨[], front :: rest, flow.pendingBytes, rfl, by simp, ?_,
          by simp, rfl, rfl, rfl⟩
        intro pending first
        cases first
        exact beyond

/-- With enough bytes on the flow's account and representable totals the
loop does not panic. -/
theorem releaseThrough_returns {through : Sequence}
    {queue : List PendingSegment} {flow after : ReliableFlow}
    {segments bytes : Nat} {cause : Panic}
    (funded : queuedBytes queue ≤ flow.pendingBytes)
    (countable : segments + queue.length < 2 ^ 64)
    (summable : bytes + queuedBytes queue < 2 ^ 64) :
    releaseThrough through queue flow segments bytes ≠
      (.panic cause, after) := by
  intro called
  induction queue generalizing flow segments bytes with
  | nil => cases called
  | cons front rest induction =>
      simp only [queuedBytes_cons, List.length_cons]
        at funded countable summable
      unfold releaseThrough at called
      split at called
      · simp only at called
        split at called
        · rename_i subtracted
          have short := sizeSub_eq_none_iff.mp subtracted
          omega
        rename_i left subtracted
        have charged := sizeSub_eq_some_iff.mp subtracted
        split at called
        · rename_i overflow
          have large := sizeAdd_eq_none_iff.mp overflow
          omega
        rename_i counted countedEq
        obtain ⟨rfl, _⟩ := sizeAdd_eq_some_iff.mp countedEq
        split at called
        · rename_i overflow
          have large := sizeAdd_eq_none_iff.mp overflow
          omega
        rename_i summed summedEq
        obtain ⟨rfl, _⟩ := sizeAdd_eq_some_iff.mp summedEq
        refine induction ?_ (by omega) (by omega) called
        change queuedBytes rest ≤ left
        omega
      · cases called

namespace SessionTracer

theorem releaseCounts_cases {Error : Type} {session after : SessionTracer}
    {segments bytes : Nat} {outcome : Outcome Panic Error Unit}
    (called : session.releaseCounts segments bytes = (outcome, after)) :
    (outcome = .panic .segmentAccounting ∧
      session.pendingSegments < segments) ∨
    (outcome = .panic .byteAccounting ∧ session.pendingBytes < bytes) ∨
    (∃ segmentsLeft bytesLeft, outcome = .ok () ∧
      session.pendingSegments = segments + segmentsLeft ∧
      session.pendingBytes = bytes + bytesLeft ∧
      after = { session with
        pendingSegments := segmentsLeft
        pendingBytes := bytesLeft }) := by
  unfold releaseCounts at called
  split at called
  · rename_i short
    cases called
    exact .inl ⟨rfl, sizeSub_eq_none_iff.mp short⟩
  rename_i segmentsLeft counted
  split at called
  · rename_i short
    cases called
    exact .inr (.inl ⟨rfl, sizeSub_eq_none_iff.mp short⟩)
  rename_i bytesLeft summed
  cases called
  exact .inr (.inr ⟨segmentsLeft, bytesLeft, rfl,
    sizeSub_eq_some_iff.mp counted, sizeSub_eq_some_iff.mp summed, rfl⟩)

/-- An acknowledgement is refused, releases a prefix, or meets a broken
account. -/
theorem acknowledge_cases {session after : SessionTracer}
    {acknowledgement : Acknowledgement}
    {outcome : Outcome Panic TraceError Unit}
    (called : session.acknowledge acknowledgement = (outcome, after)) :
    (outcome.Failed ∧ after = session) ∨
    (∃ cause flow, outcome = .panic cause ∧
      session.flows.get? acknowledgement.flowId = some flow ∧
      session.Overdrawn flow) ∨
    (outcome = .ok () ∧
      Effect session (.released acknowledgement) after) := by
  unfold acknowledge at called
  split at called
  · cases called
    exact .inl ⟨trivial, rfl⟩
  rename_i valid
  split at called
  · cases called
    exact .inl ⟨trivial, rfl⟩
  rename_i flow found
  split at called
  · cases called
    exact .inl ⟨trivial, rfl⟩
  rename_i sent
  split at called
  · cases called
    exact .inl ⟨trivial, rfl⟩
  rename_i notNewer
  split at called
  · rename_i segments bytes released loop
    obtain ⟨covered, kept, flowBytes, split, coveredBelow, keptBeyond,
      flowBytesLeft, rfl, rfl, rfl⟩ := releaseThrough_ok loop
    have coveredLength : covered.length ≤ flow.pending.length := by
      simp [split]
    have coveredBytes : queuedBytes covered ≤ queuedBytes flow.pending := by
      simp [split]
    rcases releaseCounts_cases called with
      ⟨rfl, short⟩ | ⟨rfl, short⟩ |
      ⟨segmentsLeft, bytesLeft, rfl, counted, summed, rfl⟩
    · simp only [setFlow, Nat.zero_add] at short
      refine .inr (.inl ⟨_, flow, rfl, found, ?_⟩)
      exact .inr (.inl (by omega))
    · simp only [setFlow, Nat.zero_add] at short
      refine .inr (.inl ⟨_, flow, rfl, found, ?_⟩)
      exact .inr (.inr (.inl (by omega)))
    · simp only [setFlow, Nat.zero_add] at counted summed
      refine .inr (.inr ⟨rfl, ?_⟩)
      have below : acknowledgement.through < flow.nextSend := by
        rw [Sequence.lt_iff]
        rw [Sequence.le_iff] at sent
        omega
      have older : ∀ pending ∈ flow.pending,
          pending.segment.sequence ≤ acknowledgement.through →
          ¬acknowledgement.epoch < pending.segment.epoch := by
        intro pending member reached newer
        apply notNewer
        simp only [List.any_eq_true, Bool.and_eq_true, decide_eq_true_eq]
        exact ⟨pending, member, reached, newer⟩
      exact .released found valid below older split coveredBelow keptBeyond
        flowBytesLeft counted summed
  · rename_i impossible _ _
    exact nomatch impossible
  · rename_i cause released loop
    cases called
    refine .inr (.inl ⟨cause, flow, rfl, found, ?_⟩)
    by_contra covered
    unfold Overdrawn at covered
    exact releaseThrough_returns (by omega) (by omega) (by omega) loop

theorem receive_cases {session after : SessionTracer} {segment : Segment}
    {outcome : Outcome Panic TraceError ReceiveResult}
    (called : session.receive segment = (outcome, after)) :
    (outcome.Failed ∧ after = session) ∨
    (outcome = .ok .duplicate ∧
      after = session.recordEvent .duplicateIgnored) ∨
    (outcome = .ok .outOfOrder ∧
      after = session.recordEvent .outOfOrderRejected) ∨
    (outcome = .panic .sequenceExhausted) ∨
    (outcome = .ok (.delivered segment.bytes) ∧
      Effect session (.delivered segment) after) := by
  unfold receive at called
  split at called
  · cases called
    exact .inl ⟨trivial, rfl⟩
  rename_i valid
  split at called
  · cases called
    exact .inl ⟨trivial, rfl⟩
  rename_i flow found
  split at called
  · cases called
    exact .inl ⟨trivial, rfl⟩
  rename_i unfinished
  split at called
  · cases called
    exact .inr (.inl ⟨rfl, rfl⟩)
  rename_i notBelow
  split at called
  · cases called
    exact .inr (.inr (.inl ⟨rfl, rfl⟩))
  rename_i notAbove
  split at called
  · cases called
    exact .inr (.inr (.inr (.inl rfl)))
  rename_i next counted
  cases called
  refine .inr (.inr (.inr (.inr ⟨rfl, ?_⟩)))
  have inOrder : segment.sequence = flow.nextReceive := by
    rw [Sequence.eq_iff]
    rw [Sequence.lt_iff] at notBelow notAbove
    omega
  have unreached : ∀ finalNext, flow.receiveFinalNext = some finalNext →
      segment.sequence < finalNext := by
    intro finalNext recorded
    rw [recorded] at unfinished
    simp only [Option.any_some, decide_eq_true_eq, Sequence.le_iff]
      at unfinished
    rw [Sequence.lt_iff]
    omega
  have advanced : next.toNat = flow.nextReceive.value.toNat + 1 := by
    simpa using checkedAdd_eq_some_iff.mp counted
  exact .delivered found valid unreached inOrder advanced

theorem finishReceiving_cases {session after : SessionTracer}
    {flowId : FlowId} {epoch : Epoch} {finalNext : Sequence}
    {outcome : Outcome Panic TraceError Unit}
    (called : session.finishReceiving flowId epoch finalNext =
      (outcome, after)) :
    (outcome.Returned ∧ after = session) ∨
    (outcome = .ok () ∧
      Effect session (.finished flowId finalNext) after) := by
  unfold finishReceiving at called
  split at called
  · cases called
    exact .inl ⟨trivial, rfl⟩
  split at called
  · cases called
    exact .inl ⟨trivial, rfl⟩
  rename_i flow found
  split at called
  · cases called
    exact .inl ⟨trivial, rfl⟩
  rename_i reached
  split at called
  · split at called
    · cases called
      exact .inl ⟨trivial, rfl⟩
    · cases called
      exact .inl ⟨trivial, rfl⟩
  · rename_i unset
    cases called
    have ordered : flow.nextReceive ≤ finalNext := by
      rw [Sequence.lt_iff] at reached
      rw [Sequence.le_iff]
      omega
    exact .inr ⟨rfl, .finished found ordered unset⟩

/-- Removing a flow fails only when the accounts do not cover it. -/
theorem releaseFlow_cases {Error : Type} {session after : SessionTracer}
    {flowId : FlowId} {flow : ReliableFlow}
    {outcome : Outcome Panic Error Unit}
    (found : session.flows.get? flowId = some flow)
    (called : session.releaseFlow flowId flow = (outcome, after)) :
    (∃ cause, outcome = .panic cause ∧ session.Overdrawn flow) ∨
    (outcome = .ok () ∧ Effect session (.dropped flowId) after) := by
  rcases releaseCounts_cases called with
    ⟨rfl, short⟩ | ⟨rfl, short⟩ |
    ⟨segmentsLeft, bytesLeft, rfl, counted, summed, rfl⟩
  · exact .inl ⟨_, rfl, .inr (.inl short)⟩
  · exact .inl ⟨_, rfl, .inr (.inr (.inl short))⟩
  · exact .inr ⟨rfl, .dropped found counted summed⟩

theorem resetReliableFlow_cases {session after : SessionTracer}
    {flowId : FlowId} {outcome : Outcome Panic TraceError Unit}
    (called : session.resetReliableFlow flowId = (outcome, after)) :
    (outcome.Failed ∧ after = session) ∨
    (∃ cause flow, outcome = .panic cause ∧
      session.flows.get? flowId = some flow ∧ session.Overdrawn flow) ∨
    (outcome = .ok () ∧ Effect session (.dropped flowId) after) := by
  unfold resetReliableFlow at called
  split at called
  · cases called
    exact .inl ⟨trivial, rfl⟩
  rename_i flow found
  rcases releaseFlow_cases found called with ⟨cause, rfl, short⟩ | removed
  · exact .inr (.inl ⟨cause, flow, rfl, found, short⟩)
  · exact .inr (.inr removed)

/-- The removal loop drops its flows one by one; a panic stops it at the
first flow that the accounts do not cover. -/
theorem removeTimedOut_cases {expired : List FlowId}
    {session after : SessionTracer} {outcome : Outcome Panic Empty Unit}
    (distinct : expired.Nodup)
    (present : ∀ flowId ∈ expired, session.flows.get? flowId ≠ none)
    (called : removeTimedOut expired session = (outcome, after)) :
    (∃ (cause : Panic) (removed : List FlowId) (flowId : FlowId)
        (flow : ReliableFlow) (middle : SessionTracer),
      outcome = .panic cause ∧
      Run Effect session (removed.map .dropped) middle ∧
      middle.flows.get? flowId = some flow ∧ middle.Overdrawn flow) ∨
    (outcome = .ok () ∧
      Run Effect session (expired.map .dropped) after) := by
  induction expired generalizing session with
  | nil =>
      cases called
      exact .inr ⟨rfl, .nil⟩
  | cons flowId rest induction =>
      obtain ⟨later, restDistinct⟩ := List.nodup_cons.mp distinct
      unfold removeTimedOut at called
      split at called
      · rename_i missing
        exact absurd missing (present flowId (by simp))
      rename_i flow found
      split at called
      · rename_i removed release
        rcases releaseFlow_cases found release with
          ⟨_, impossible, _⟩ | ⟨_, dropped⟩
        · cases impossible
        have first := Run.single dropped
        have restPresent : ∀ other ∈ rest,
            removed.flows.get? other ≠ none := by
          intro other member
          have different : other ≠ flowId := by
            intro same
            exact later (same ▸ member)
          cases dropped
          rw [OrderedMap.get?_erase_of_ne _ different]
          exact present other (List.mem_cons_of_mem flowId member)
        rcases induction restDistinct restPresent called with
          ⟨cause, done, stopped, stoppedFlow, middle, rfl, run, reason⟩ |
          ⟨rfl, run⟩
        · exact .inl ⟨cause, flowId :: done, stopped, stoppedFlow, middle,
            rfl, first.append run, reason⟩
        · exact .inr ⟨rfl, first.append run⟩
      · rename_i impossible _ _
        exact nomatch impossible
      · rename_i cause removed release
        cases called
        rcases releaseFlow_cases found release with
          ⟨_, _, overdrawn⟩ | ⟨impossible, _⟩
        · exact .inl ⟨cause, [], flowId, flow, session, rfl, .nil, found,
            overdrawn⟩
        · cases impossible

/-- The expired flows are live and each is listed once. -/
theorem timedOut_nodup (session : SessionTracer) :
    session.timedOut.Nodup := by
  refine List.pairwise_map.mpr ?_
  refine (session.flows.sorted.filter _).imp ?_
  intro left right below
  exact below.ne

theorem timedOut_present {session : SessionTracer} {flowId : FlowId}
    (expired : flowId ∈ session.timedOut) :
    session.flows.get? flowId ≠ none := by
  obtain ⟨entry, member, rfl⟩ := List.mem_map.mp expired
  have stored := (List.mem_filter.mp member).1
  rw [OrderedMap.get?_eq_some_iff.mpr stored]
  simp

theorem recordEvents_effects (expired : List FlowId)
    (session : SessionTracer) (event : SessionEvent) :
    Run Effect session (expired.map fun _ => .noted event)
      (expired.foldl (fun session _ => session.recordEvent event)
        session) := by
  induction expired generalizing session with
  | nil => exact .nil
  | cons flowId rest induction =>
      exact (Run.single (.noted event)).append
        (induction (session.recordEvent event))

/-- Time moves forward, the expired flows are dropped, and one event is
recorded for each. -/
theorem advanceTime_cases {session after : SessionTracer} {ticks : UInt64}
    {outcome : Outcome Panic Empty (List FlowId)}
    (called : session.advanceTime ticks = (outcome, after)) :
    (outcome = .panic .sessionTickExhausted) ∨
    (∃ (cause : Panic) (removed : List FlowId) (flowId : FlowId)
        (flow : ReliableFlow) (middle : SessionTracer),
      outcome = .panic cause ∧
      Run Effect session (.ticked :: removed.map .dropped) middle ∧
      middle.flows.get? flowId = some flow ∧ middle.Overdrawn flow) ∨
    (∃ expired : List FlowId, outcome = .ok expired ∧
      Run Effect session
        (.ticked :: expired.map .dropped ++
          expired.map fun _ => .noted .flowTimedOut) after) := by
  unfold advanceTime at called
  split at called
  · cases called
    exact .inl rfl
  rename_i tick advanced
  have forward : session.tick.toNat ≤ tick.toNat := by
    rw [checkedAdd_eq_some_iff.mp advanced]
    exact Nat.le_add_right _ _
  have ticked : Run Effect session [.ticked] { session with tick } :=
    .single (.ticked forward)
  have distinct := timedOut_nodup { session with tick }
  simp only at called
  split at called
  · rename_i removed loop
    cases called
    rcases removeTimedOut_cases distinct (fun _ => timedOut_present) loop
      with ⟨_, _, _, _, _, impossible, _⟩ | ⟨_, dropped⟩
    · cases impossible
    · refine .inr (.inr ⟨_, rfl, ?_⟩)
      exact (ticked.append dropped).append (recordEvents_effects _ _ _)
  · rename_i impossible _ _
    exact nomatch impossible
  · rename_i cause removed loop
    cases called
    rcases removeTimedOut_cases distinct (fun _ => timedOut_present) loop
      with ⟨_, done, flowId, flow, middle, _, run, overdrawn⟩ |
        ⟨impossible, _⟩
    · exact .inr (.inl ⟨_, done, flowId, flow, middle, rfl,
        ticked.append run, overdrawn⟩)
    · cases impossible

theorem beginTransition_cases {session after : SessionTracer}
    {outcome : Outcome Panic TraceError Epoch}
    (called : session.beginTransition = (outcome, after)) :
    (outcome.Failed ∧ session.transition.retiring ≠ none ∧
      after = session) ∨
    (outcome = .panic .epochExhausted) ∨
    (outcome = .ok after.epoch ∧ Effect session .begun after) := by
  unfold beginTransition at called
  cases advanced : session.transition.advance with
  | mk result transition =>
      rw [advanced] at called
      rcases TransitionState.advance_cases advanced with
        ⟨busy, rfl, rfl⟩ | ⟨_, rfl, rfl⟩ | ⟨epoch, idle, rfl, next, rfl⟩
      · cases called
        exact .inl ⟨trivial, busy, rfl⟩
      · cases called
        exact .inr (.inl rfl)
      · cases called
        exact .inr (.inr ⟨rfl, .begun idle next⟩)

theorem beginExplainedTransition_cases {session after : SessionTracer}
    {source target : CarrierKind} {reason : TransitionReason}
    {outcome : Outcome Panic TraceError Epoch}
    (called : session.beginExplainedTransition source target reason =
      (outcome, after)) :
    (outcome.Failed ∧ after = session) ∨
    (outcome = .panic .epochExhausted) ∨
    (outcome = .ok after.epoch ∧ ∃ begun event,
      Effect session .begun begun ∧ after = begun.recordEvent event) := by
  unfold beginExplainedTransition at called
  cases begunEq : session.beginTransition with
  | mk result begun =>
      rw [begunEq] at called
      rcases beginTransition_cases begunEq with
        ⟨failed, _, rfl⟩ | rfl | ⟨rfl, effect⟩
      · cases result with
        | err failure =>
            cases called
            exact .inl ⟨trivial, rfl⟩
        | ok epoch => exact absurd failed (by simp)
        | panic cause => exact absurd failed (by simp)
      · cases called
        exact .inr (.inl rfl)
      · cases called
        exact .inr (.inr ⟨rfl, begun, _, effect, rfl⟩)

theorem negotiateTransitionVersion_cases {session after : SessionTracer}
    {localRange peer : VersionRange}
    {outcome : Outcome Panic TransitionCompatibilityError UInt16}
    (called : session.negotiateTransitionVersion localRange peer =
      (outcome, after)) :
    outcome.Returned ∧ Quiet session after := by
  unfold negotiateTransitionVersion at called
  split at called
  · cases called
    exact ⟨trivial, .inl rfl⟩
  · cases called
    exact ⟨trivial, .inr ⟨_, rfl⟩⟩

/-- The checks an attachment must pass before the replay window is consulted:
the bound parameters, the current epoch, and a proof for exactly this
session, epoch, identifier, and parameters. -/
structure Verified (hmac : Hmac) (session : SessionTracer)
    (authenticator : AttachmentAuthenticator) (sessionId : SessionId)
    (attachment : CarrierAttachment) : Prop where
  bound : session.negotiated = some attachment.parameters
  current : attachment.epoch = session.epoch
  proven : attachment.proof = authenticator.prove hmac sessionId
    attachment.epoch attachment.attachmentId attachment.parameters

/-- An attachment is accepted once, repeated, or rejected; which of the three
is decided by the verification, the accepted attachment, and the replay
window. -/
theorem authenticateCarrierAttachment_cases {hmac : Hmac}
    {session after : SessionTracer}
    {authenticator : AttachmentAuthenticator} {sessionId : SessionId}
    {attachment : CarrierAttachment}
    {outcome : Outcome Panic AttachmentError AttachmentAcceptance}
    (called : session.authenticateCarrierAttachment hmac authenticator
      sessionId attachment = (outcome, after)) :
    (outcome.Failed ∧ Quiet session after ∧
      (session.Verified hmac authenticator sessionId attachment →
        session.acceptedAttachment ≠ some attachment.identity ∧
        session.attachmentReplay.accepts attachment.epoch = false)) ∨
    (outcome = .ok .alreadyAccepted ∧ after = session ∧
      session.Verified hmac authenticator sessionId attachment ∧
      session.acceptedAttachment = some attachment.identity) ∨
    (outcome = .ok .accepted ∧
      session.Verified hmac authenticator sessionId attachment ∧
      session.acceptedAttachment ≠ some attachment.identity ∧
      session.attachmentReplay.accepts attachment.epoch = true ∧
      Effect session (.attached attachment.identity) after) := by
  unfold authenticateCarrierAttachment at called
  split at called
  · rename_i unbound
    cases called
    refine .inl ⟨trivial, .inl rfl, ?_⟩
    intro verified
    rw [verified.bound] at unbound
    cases unbound
  rename_i negotiated bound
  split at called
  · rename_i mismatch
    cases called
    refine .inl ⟨trivial, .inr ⟨_, rfl⟩, ?_⟩
    intro verified
    rw [verified.bound] at bound
    exact absurd (Option.some.inj bound) mismatch
  rename_i matching
  have same : attachment.parameters = negotiated := not_not.mp matching
  subst same
  have notCurrent : ∀ {validity},
      session.transition.validate attachment.epoch = validity →
      validity ≠ .current →
      ¬session.Verified hmac authenticator sessionId attachment := by
    intro validity computed different verified
    apply different
    rw [← computed]
    exact TransitionState.validate_eq_current_iff.mpr verified.current
  split at called
  · rename_i validity
    cases called
    exact .inl ⟨trivial, .inr ⟨_, rfl⟩, fun verified =>
      absurd verified (notCurrent validity (by simp))⟩
  · rename_i validity
    cases called
    exact .inl ⟨trivial, .inr ⟨_, rfl⟩, fun verified =>
      absurd verified (notCurrent validity (by simp))⟩
  · rename_i validity
    cases called
    exact .inl ⟨trivial, .inr ⟨_, rfl⟩, fun verified =>
      absurd verified (notCurrent validity (by simp))⟩
  rename_i validity
  have current : attachment.epoch = session.epoch :=
    TransitionState.validate_eq_current_iff.mp validity
  split at called
  · rename_i failure refused
    cases called
    refine .inl ⟨trivial, .inr ⟨_, rfl⟩, ?_⟩
    intro verified
    rw [AttachmentAuthenticator.verify_eq_ok_iff.mpr verified.proven]
      at refused
    cases refused
  rename_i proven
  have verified : session.Verified hmac authenticator sessionId attachment :=
    ⟨bound, current, AttachmentAuthenticator.verify_eq_ok_iff.mp proven⟩
  split at called
  · rename_i repeated
    cases called
    exact .inr (.inl ⟨rfl, rfl, verified, repeated⟩)
  rename_i different
  unfold ReplayWindow.accept at called
  by_cases fresh :
      session.attachmentReplay.accepts attachment.epoch = true
  · simp only [fresh, Bool.not_true, Bool.false_eq_true, if_false] at called
    cases called
    exact .inr (.inr ⟨rfl, verified, different, fresh,
      .attached bound current fresh⟩)
  · have replayed :
        session.attachmentReplay.accepts attachment.epoch = false := by
      simpa using fresh
    simp only [replayed, Bool.not_false, if_true] at called
    cases called
    exact .inl ⟨trivial, .inr ⟨_, rfl⟩, fun _ => ⟨different, replayed⟩⟩

theorem completeTransition_effects (session : SessionTracer) :
    Run Effect session [.completed, .noted .transitionCompleted]
      session.completeTransition :=
  (Run.single .completed).append (Run.single (.noted _))

end SessionTracer

/-! ## What an effect leaves alone -/

/-- The effect works on the send side of the flow. -/
def Action.SendsOn (flowId : FlowId) : Action → Prop
  | .retained segment => segment.flowId = flowId
  | .released acknowledgement => acknowledgement.flowId = flowId
  | _ => False

/-- The effect advances the receive cursor of the flow. -/
def Action.DeliversOn (flowId : FlowId) : Action → Prop
  | .delivered segment => segment.flowId = flowId
  | _ => False

theorem Effect.nextFlow_le {before after : SessionTracer} {action : Action}
    (effect : Effect before action after) :
    before.nextFlow.toNat ≤ after.nextFlow.toNat := by
  cases effect with
  | opened room fresh next =>
      change before.nextFlow.toNat ≤ (_ + 1 : UInt64).toNat
      omega
  | _ => exact Nat.le_refl _

/-- A replaced flow and the one it replaces, seen from any flow. -/
theorem replaced_frame {session : SessionTracer}
    {flowId target : FlowId} {stored updated flow : ReliableFlow}
    (present : session.flows.get? target = some stored)
    (found : (session.flows.insert target updated).get? flowId =
      some flow) :
    ∃ old, session.flows.get? flowId = some old ∧
      ((flowId ≠ target ∧ flow = old) ∨
        (flowId = target ∧ flow = updated ∧ old = stored)) := by
  rcases OrderedMap.get?_insert_eq_some_iff.mp found with
    ⟨rfl, rfl⟩ | ⟨different, untouched⟩
  · exact ⟨stored, present, .inr ⟨rfl, rfl, rfl⟩⟩
  · exact ⟨flow, untouched, .inl ⟨different, rfl⟩⟩

/-- A flow that is live after an effect has just been opened, or it was live
before and changed only on the side the effect works on. -/
theorem Effect.flow_frame {before after : SessionTracer} {action : Action}
    {flowId : FlowId} {flow : ReliableFlow}
    (effect : Effect before action after)
    (found : after.flows.get? flowId = some flow) :
    (before.nextFlow.toNat ≤ flowId.value.toNat ∧ flow = .opened) ∨
    ∃ old, before.flows.get? flowId = some old ∧
      (¬action.SendsOn flowId →
        flow.nextSend = old.nextSend ∧ flow.pending = old.pending) ∧
      (¬action.DeliversOn flowId →
        flow.nextReceive = old.nextReceive) := by
  cases effect with
  | opened room fresh next =>
      rcases OrderedMap.get?_insert_eq_some_iff.mp found with
        ⟨rfl, rfl⟩ | ⟨_, untouched⟩
      · exact .inl ⟨fresh, rfl⟩
      · exact .inr ⟨flow, untouched, fun _ => ⟨rfl, rfl⟩, fun _ => rfl⟩
  | closed present idle =>
      have kept := (OrderedMap.get?_erase_eq_some_iff.mp found).2
      exact .inr ⟨flow, kept, fun _ => ⟨rfl, rfl⟩, fun _ => rfl⟩
  | dropped present segmentsLeft bytesLeft =>
      have kept := (OrderedMap.get?_erase_eq_some_iff.mp found).2
      exact .inr ⟨flow, kept, fun _ => ⟨rfl, rfl⟩, fun _ => rfl⟩
  | retained present =>
      obtain ⟨old, known, ⟨_, rfl⟩ | ⟨rfl, rfl, rfl⟩⟩ :=
        replaced_frame present found
      · exact .inr ⟨_, known, fun _ => ⟨rfl, rfl⟩, fun _ => rfl⟩
      · exact .inr ⟨_, known, fun elsewhere => absurd rfl elsewhere,
          fun _ => rfl⟩
  | released present =>
      obtain ⟨old, known, ⟨_, rfl⟩ | ⟨rfl, rfl, rfl⟩⟩ :=
        replaced_frame present found
      · exact .inr ⟨_, known, fun _ => ⟨rfl, rfl⟩, fun _ => rfl⟩
      · exact .inr ⟨_, known, fun elsewhere => absurd rfl elsewhere,
          fun _ => rfl⟩
  | delivered present =>
      obtain ⟨old, known, ⟨_, rfl⟩ | ⟨rfl, rfl, rfl⟩⟩ :=
        replaced_frame present found
      · exact .inr ⟨_, known, fun _ => ⟨rfl, rfl⟩, fun _ => rfl⟩
      · exact .inr ⟨_, known, fun _ => ⟨rfl, rfl⟩,
          fun elsewhere => absurd rfl elsewhere⟩
  | finished present =>
      obtain ⟨old, known, ⟨_, rfl⟩ | ⟨rfl, rfl, rfl⟩⟩ :=
        replaced_frame present found
      · exact .inr ⟨_, known, fun _ => ⟨rfl, rfl⟩, fun _ => rfl⟩
      · exact .inr ⟨_, known, fun _ => ⟨rfl, rfl⟩, fun _ => rfl⟩
  | _ => exact .inr ⟨flow, found, fun _ => ⟨rfl, rfl⟩, fun _ => rfl⟩

end Velum.Session
