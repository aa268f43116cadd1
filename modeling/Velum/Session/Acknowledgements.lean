import Velum.Session.Accounting

/-!
# Cumulative acknowledgements

The check of an acknowledgement looks at the whole queue, while its release
loop stops at the first segment that is not covered.  Both see the same
segments because the sequences of a queue ascend.
-/

namespace Velum.Session

open Foundation
open Velum.Protocol
open Velum.Crypto

/-- The queue without the segments that an acknowledgement covers. -/
def keptAfter (through : Sequence) (queue : List PendingSegment) :
    List PendingSegment :=
  queue.filter fun pending => through < pending.segment.sequence

namespace SessionTracer

theorem requireValidEpoch_eq_ok_iff {session : SessionTracer}
    {epoch : Epoch} :
    session.requireValidEpoch epoch = .ok () ↔
      epoch = session.epoch ∨ session.transition.retiring = some epoch := by
  rw [requireValidEpoch, TransitionState.validate, SessionTracer.epoch]
  by_cases current : epoch = session.transition.current
  · simp [current]
  · by_cases retiring : some epoch = session.transition.retiring
    · simp [current, ← retiring]
    · rw [if_neg current, if_neg retiring]
      by_cases stale : epoch < session.transition.current
      · simp [stale, current, Ne.symm retiring]
      · simp [stale, current, Ne.symm retiring]

/-- The sequences of a queue ascend. -/
theorem FlowAccounted.ascending {session : SessionTracer}
    {flow : ReliableFlow} (accounted : session.FlowAccounted flow) :
    flow.pending.Pairwise fun older newer =>
      older.segment.sequence < newer.segment.sequence := by
  have range : (queuedSequences flow.pending).Pairwise (· < ·) := by
    rw [accounted.consecutive]
    exact List.pairwise_lt_range'
  apply (List.pairwise_map.mp range).imp
  intro older newer below
  rwa [Sequence.lt_iff]

/-- The longest covered front of a queue is all that is covered. -/
theorem kept_eq_keptAfter {through : Sequence}
    {queue covered kept : List PendingSegment}
    (ascending : queue.Pairwise fun older newer =>
      older.segment.sequence < newer.segment.sequence)
    (split : queue = covered ++ kept)
    (coveredBelow : ∀ pending ∈ covered, pending.segment.sequence ≤ through)
    (keptBeyond : ∀ pending, kept.head? = some pending →
      ¬pending.segment.sequence ≤ through) :
    kept = keptAfter through queue := by
  have beyond : ∀ pending ∈ kept, through < pending.segment.sequence := by
    cases kept with
    | nil => simp
    | cons front rest =>
        have first := keptBeyond front rfl
        rw [Sequence.le_iff] at first
        rw [split] at ascending
        have tail := (List.pairwise_append.mp ascending).2.1
        intro pending member
        rw [Sequence.lt_iff]
        rcases List.mem_cons.mp member with rfl | later
        · omega
        · have above := List.rel_of_pairwise_cons tail later
          rw [Sequence.lt_iff] at above
          omega
  have none : covered.filter
      (fun pending => through < pending.segment.sequence) = [] := by
    apply List.filter_eq_nil_iff.mpr
    intro pending member
    have below := coveredBelow pending member
    rw [decide_eq_true_eq, Sequence.lt_iff]
    rw [Sequence.le_iff] at below
    omega
  have all : kept.filter
      (fun pending => through < pending.segment.sequence) = kept := by
    apply List.filter_eq_self.mpr
    intro pending member
    exact decide_eq_true (beyond pending member)
  rw [keptAfter, split, List.filter_append, none, all, List.nil_append]

/-! ## Acceptance -/

/-- What an acknowledgement has to meet. -/
structure Acknowledgeable (session : SessionTracer)
    (acknowledgement : Acknowledgement) (flow : ReliableFlow) : Prop where
  valid : acknowledgement.epoch = session.epoch ∨
    session.transition.retiring = some acknowledgement.epoch
  found : session.flows.get? acknowledgement.flowId = some flow
  sent : acknowledgement.through < flow.nextSend
  notNewer : ∀ pending ∈ flow.pending,
    pending.segment.sequence ≤ acknowledgement.through →
      ¬acknowledgement.epoch < pending.segment.epoch

section Acceptance

variable {session after : SessionTracer} {acknowledgement : Acknowledgement}
  {flow : ReliableFlow} {outcome : Outcome Panic TraceError Unit}

theorem Acknowledgeable.unsent
    (ready : session.Acknowledgeable acknowledgement flow) :
    ¬flow.nextSend ≤ acknowledgement.through := by
  have below := ready.sent
  rw [Sequence.lt_iff] at below
  rw [Sequence.le_iff]
  omega

theorem Acknowledgeable.older
    (ready : session.Acknowledgeable acknowledgement flow) :
    (flow.pending.any fun pending =>
      pending.segment.sequence ≤ acknowledgement.through &&
        acknowledgement.epoch < pending.segment.epoch) = false := by
  apply List.any_eq_false.mpr
  intro pending member
  simp only [Bool.and_eq_true, decide_eq_true_eq, not_and]
  exact ready.notNewer pending member

/-- After its checks an acknowledgement returns what the loop released. -/
theorem Acknowledgeable.acknowledge_eq
    (ready : session.Acknowledgeable acknowledgement flow)
    {segments bytes : Nat} {released : ReliableFlow}
    (loop : releaseThrough acknowledgement.through flow.pending flow 0 0 =
      (.ok (segments, bytes), released)) :
    session.acknowledge acknowledgement =
      (session.setFlow acknowledgement.flowId released).releaseCounts
        segments bytes := by
  rw [acknowledge, requireValidEpoch_eq_ok_iff.mpr ready.valid]
  simp only [ready.found, ready.unsent, ready.older, if_false,
    Bool.false_eq_true, loop]

theorem Acknowledgeable.acknowledge_eq_panic
    (ready : session.Acknowledgeable acknowledgement flow)
    {cause : Panic} {released : ReliableFlow}
    (loop : releaseThrough acknowledgement.through flow.pending flow 0 0 =
      (.panic cause, released)) :
    session.acknowledge acknowledgement =
      (.panic cause, session.setFlow acknowledgement.flowId released) := by
  rw [acknowledge, requireValidEpoch_eq_ok_iff.mpr ready.valid]
  simp only [ready.found, ready.unsent, ready.older, if_false,
    Bool.false_eq_true, loop]

theorem Acknowledgeable.not_failed
    (ready : session.Acknowledgeable acknowledgement flow)
    (called : session.acknowledge acknowledgement = (outcome, after)) :
    ¬outcome.Failed := by
  cases loop : releaseThrough acknowledgement.through flow.pending flow
      0 0 with
  | mk result released =>
      cases result with
      | ok counts =>
          rw [ready.acknowledge_eq loop] at called
          rcases releaseCounts_cases called with
            ⟨rfl, _⟩ | ⟨rfl, _⟩ | ⟨_, _, rfl, _⟩
          · exact id
          · exact id
          · exact id
      | err impossible => exact impossible.elim
      | panic cause =>
          rw [ready.acknowledge_eq_panic loop] at called
          cases called
          exact id

/-- An acknowledgement that is accepted had to be. -/
theorem acknowledgeable_of_effect
    (effect : Effect session (.released acknowledgement) after) :
    ∃ flow, session.Acknowledgeable acknowledgement flow := by
  cases effect with
  | released found valid sent notNewer =>
      exact ⟨_, requireValidEpoch_eq_ok_iff.mp valid, found, sent, notNewer⟩

theorem Accounted.acknowledge_eq_ok_iff (accounted : session.Accounted) :
    (∃ after, session.acknowledge acknowledgement = (.ok (), after)) ↔
      ∃ flow, session.Acknowledgeable acknowledgement flow := by
  cases called : session.acknowledge acknowledgement with
  | mk outcome after =>
      constructor
      · rintro ⟨_, same⟩
        cases same
        rcases acknowledge_cases called with
          ⟨failed, _⟩ | ⟨_, _, impossible, _⟩ | ⟨_, effect⟩
        · exact absurd failed (Outcome.not_failed_ok ())
        · cases impossible
        · exact acknowledgeable_of_effect effect
      · rintro ⟨flow, ready⟩
        rcases acknowledge_cases called with
          ⟨failed, _⟩ | ⟨_, stored, _, found, overdrawn⟩ | ⟨rfl, _⟩
        · exact absurd failed (ready.not_failed called)
        · exact absurd overdrawn (accounted.not_overdrawn found)
        · exact ⟨after, rfl⟩

end Acceptance

/-! ## Release -/

/-- What an accepted acknowledgement leaves. -/
theorem Accounted.released_flows {session after : SessionTracer}
    {acknowledgement : Acknowledgement} (accounted : session.Accounted)
    (effect : Effect session (.released acknowledgement) after) :
    (∃ flow, session.flows.get? acknowledgement.flowId = some flow ∧
      after.flows.get? acknowledgement.flowId = some { flow with
        pending := keptAfter acknowledgement.through flow.pending
        pendingBytes := queuedBytes
          (keptAfter acknowledgement.through flow.pending) }) ∧
    ∀ other, other ≠ acknowledgement.flowId →
      after.flows.get? other = session.flows.get? other := by
  cases effect with
  | @released _ flow covered kept flowBytes _ _ found valid sent notNewer split
      coveredBelow keptBeyond flowBytesLeft =>
      have account := accounted.flows found
      have isKept := kept_eq_keptAfter account.ascending split coveredBelow
        keptBeyond
      have bytes : flowBytes = queuedBytes kept := by
        have total := account.bytes
        rw [split, queuedBytes_append] at total
        omega
      constructor
      · refine ⟨flow, found, ?_⟩
        rw [← isKept, ← bytes]
        exact OrderedMap.get?_insert_self _ _ _
      · intro other different
        exact OrderedMap.get?_insert_of_ne _ _ different

/-- Everything up to a sequence was sent on the flow and is acknowledged. -/
structure AcknowledgedThrough (flowId : FlowId) (through : Sequence)
    (session : SessionTracer) : Prop where
  opened : flowId.value.toNat < session.nextFlow.toNat
  sent : ∀ {flow}, session.flows.get? flowId = some flow →
    through < flow.nextSend
  released : ∀ {flow}, session.flows.get? flowId = some flow →
    ∀ pending ∈ flow.pending, through < pending.segment.sequence

theorem AcknowledgedThrough.of_released {session after : SessionTracer}
    {acknowledgement : Acknowledgement} (accounted : session.Accounted)
    (effect : Effect session (.released acknowledgement) after) :
    AcknowledgedThrough acknowledgement.flowId acknowledgement.through
      after := by
  obtain ⟨flow, ready⟩ := acknowledgeable_of_effect effect
  obtain ⟨⟨stored, found, left⟩, _⟩ := accounted.released_flows effect
  rw [ready.found] at found
  cases found
  have grows := effect.nextFlow_le
  have known := accounted.identified ready.found
  refine ⟨by omega, ?_, ?_⟩
  · intro other looked
    rw [left] at looked
    cases looked
    exact ready.sent
  · intro other looked pending member
    rw [left] at looked
    cases looked
    exact of_decide_eq_true (List.mem_filter.mp member).2

/-- Later sends are numbered above what was acknowledged, and releases keep
part of the queue. -/
theorem AcknowledgedThrough.effect {flowId : FlowId} {through : Sequence}
    {session next : SessionTracer} {action : Action}
    (acknowledged : AcknowledgedThrough flowId through session)
    (effect : Effect session action next) :
    AcknowledgedThrough flowId through next := by
  have grows := effect.nextFlow_le
  have opened := acknowledged.opened
  by_cases sends : action.SendsOn flowId
  · cases effect with
    | retained found _ _ _ _ _ numbered following =>
        obtain rfl := sends
        have below := acknowledged.sent found
        refine ⟨by omega, ?_, ?_⟩
        · intro flow looked
          simp only [OrderedMap.get?_insert_self, Option.some.injEq] at looked
          subst looked
          rw [Sequence.lt_iff] at below ⊢
          rw [following]
          omega
        · intro flow looked pending member
          simp only [OrderedMap.get?_insert_self, Option.some.injEq] at looked
          subst looked
          rcases List.mem_append.mp member with older | newest
          · exact acknowledged.released found pending older
          · rw [List.mem_singleton.mp newest]
            exact numbered ▸ below
    | released found _ _ _ split =>
        obtain rfl := sends
        have below := acknowledged.sent found
        refine ⟨by omega, ?_, ?_⟩
        · intro flow looked
          simp only [OrderedMap.get?_insert_self, Option.some.injEq] at looked
          subst looked
          exact below
        · intro flow looked pending member
          simp only [OrderedMap.get?_insert_self, Option.some.injEq] at looked
          subst looked
          apply acknowledged.released found
          rw [split]
          exact List.mem_append_right _ member
    | _ => exact absurd sends id
  · refine ⟨by omega, ?_, ?_⟩
    · intro flow looked
      rcases effect.flow_frame looked with ⟨fresh, _⟩ | ⟨old, found, unsent, _⟩
      · omega
      · rw [(unsent sends).1]
        exact acknowledged.sent found
    · intro flow looked
      rcases effect.flow_frame looked with ⟨fresh, _⟩ | ⟨old, found, unsent, _⟩
      · omega
      · rw [(unsent sends).2]
        exact acknowledged.released found

/-- Where nothing is covered the loop releases nothing. -/
theorem releaseThrough_of_beyond {through : Sequence} {flow : ReliableFlow}
    (beyond : ∀ pending ∈ flow.pending,
      through < pending.segment.sequence) (segments bytes : Nat) :
    releaseThrough through flow.pending flow segments bytes =
      (.ok (segments, bytes), flow) := by
  cases queue : flow.pending with
  | nil =>
      rw [releaseThrough, ← queue]
  | cons front rest =>
      have first := beyond front (by simp [queue])
      have uncovered : ¬front.segment.sequence ≤ through := by
        rw [Sequence.lt_iff] at first
        rw [Sequence.le_iff]
        omega
      rw [releaseThrough, if_neg uncovered, ← queue]

theorem releaseCounts_zero {Error : Type} (session : SessionTracer) :
    (session.releaseCounts 0 0 : Outcome Panic Error Unit × SessionTracer) =
      (.ok (), session) := by
  simp [releaseCounts, sizeSub]

/-- What was acknowledged can be acknowledged again, without effect. -/
theorem AcknowledgedThrough.acknowledge_again {session : SessionTracer}
    {acknowledgement : Acknowledgement} {flow : ReliableFlow}
    (acknowledged : AcknowledgedThrough acknowledgement.flowId
      acknowledgement.through session)
    (valid : session.requireValidEpoch acknowledgement.epoch = .ok ())
    (found : session.flows.get? acknowledgement.flowId = some flow) :
    session.acknowledge acknowledgement = (.ok (), session) := by
  have beyond := acknowledged.released found
  have ready : session.Acknowledgeable acknowledgement flow := by
    refine ⟨requireValidEpoch_eq_ok_iff.mp valid, found,
      acknowledged.sent found, ?_⟩
    intro pending member covered
    have above := beyond pending member
    rw [Sequence.lt_iff] at above
    rw [Sequence.le_iff] at covered
    omega
  have same : session.setFlow acknowledgement.flowId flow = session := by
    rw [setFlow, OrderedMap.insert_of_get? found]
  rw [ready.acknowledge_eq (releaseThrough_of_beyond beyond 0 0), same,
    releaseCounts_zero]

/-- In every reachable state an acknowledgement is accepted exactly when its
checks say so, it takes exactly what it covers out of the queue of its flow,
and it can be repeated without effect at any later time. -/
theorem acknowledgement_exact (hmac : Hmac) (session : SessionTracer)
    (live : Live hmac session) (acknowledgement : Acknowledgement) :
    ((∃ after, session.acknowledge acknowledgement = (.ok (), after)) ↔
      ∃ flow, session.Acknowledgeable acknowledgement flow) ∧
    ∀ after, session.acknowledge acknowledgement = (.ok (), after) →
      (∃ flow, session.flows.get? acknowledgement.flowId = some flow ∧
        after.flows.get? acknowledgement.flowId = some { flow with
          pending := keptAfter acknowledgement.through flow.pending
          pendingBytes := queuedBytes
            (keptAfter acknowledgement.through flow.pending) }) ∧
      (∀ other, other ≠ acknowledgement.flowId →
        after.flows.get? other = session.flows.get? other) ∧
      ∀ trace later flow, Run (Step hmac) after trace later →
        later.flows.get? acknowledgement.flowId = some flow →
        later.requireValidEpoch acknowledgement.epoch = .ok () →
          later.acknowledge acknowledgement = (.ok (), later) := by
  have accounted := live.accounted
  refine ⟨accounted.acknowledge_eq_ok_iff, ?_⟩
  intro after called
  have effect : Effect session (.released acknowledgement) after := by
    rcases acknowledge_cases called with
      ⟨failed, _⟩ | ⟨_, _, impossible, _⟩ | ⟨_, effect⟩
    · exact absurd failed (Outcome.not_failed_ok ())
    · cases impossible
    · exact effect
  obtain ⟨flows, others⟩ := accounted.released_flows effect
  refine ⟨flows, others, ?_⟩
  intro trace later flow run found valid
  have acknowledged : AcknowledgedThrough acknowledgement.flowId
      acknowledgement.through later :=
    run.invariant (AcknowledgedThrough.of_released accounted effect)
      (Step.invariant AcknowledgedThrough.effect)
  exact acknowledged.acknowledge_again valid found

/-- A session with three segments in the queue of its flow. -/
def threeSent : SessionTracer :=
  (runCalls (.ofTags []) (new ⟨0⟩ smallLimits smallLimits_accepted)
    [.openReliableFlow, .send ⟨0⟩ [1, 2, 3], .send ⟨0⟩ [4, 5],
      .send ⟨0⟩ [6]]).2

theorem live_threeSent : Live (.ofTags []) threeSent :=
  ⟨_, _, _, _, runCalls_run _ _ _ (by decide)⟩

/-- The second of three segments is acknowledged, and again after an epoch
change. -/
theorem acknowledgement_exact_second :
    ∃ after later : SessionTracer,
      threeSent.acknowledge ⟨⟨0⟩, ⟨0⟩, ⟨1⟩⟩ = (.ok (), after) ∧
      (after.pending ⟨0⟩).toOption.map List.length = some 1 ∧
      later.epoch = ⟨1⟩ ∧
      later.acknowledge ⟨⟨0⟩, ⟨0⟩, ⟨1⟩⟩ = (.ok (), later) := by
  have later := runCalls_run (.ofTags [])
    (threeSent.acknowledge ⟨⟨0⟩, ⟨0⟩, ⟨1⟩⟩).2 [.beginTransition] (by decide)
  have exact := acknowledgement_exact (.ofTags []) threeSent live_threeSent
    ⟨⟨0⟩, ⟨0⟩, ⟨1⟩⟩
  exact ⟨_, _, rfl, rfl, rfl, (exact.2 _ rfl).2.2 _ _ _ later rfl rfl⟩

end SessionTracer

end Velum.Session
