import Velum.Session.Accounting
import Velum.Session.Endpoint

/-!
# Carriers across a transition

The gate asks whether a carrier holds a slot, not which one, and the session
asks whether an epoch is open, not on which carrier.  The results here say
exactly what the two together keep apart: which frames of the current epoch
fail on the retiring carrier, and when a carrier attaches only once.
-/

namespace Velum.Session

open Foundation
open Velum.Protocol
open Velum.Crypto

/-! ## Frames on the retiring carrier -/

/-- The flow is not open, or its cursors refuse the frame. -/
def RefusedByFlow (session : SessionTracer) : Frame → Prop
  | .streamData flowId _ sequence _ =>
      ∀ flow, session.flows.get? flowId = some flow →
        ∃ final, flow.receiveFinalNext = some final ∧ final ≤ sequence
  | .streamAcknowledgement flowId _ through =>
      ∀ flow, session.flows.get? flowId = some flow →
        flow.nextSend ≤ through
  | .streamFinish flowId _ finalNext =>
      ∀ flow, session.flows.get? flowId = some flow →
        finalNext < flow.nextReceive ∨
          ∃ existing, flow.receiveFinalNext = some existing ∧
            existing ≠ finalNext
  | _ => False

namespace SessionTracer

theorem requireValidEpoch_current (session : SessionTracer) :
    session.requireValidEpoch session.epoch = .ok () := by
  have valid : session.transition.validate session.epoch = .current :=
    TransitionState.validate_eq_current_iff.mpr rfl
  unfold requireValidEpoch
  rw [valid]

theorem receive_failed_iff {session : SessionTracer} {segment : Segment}
    (current : segment.epoch = session.epoch) :
    (session.receive segment).1.Failed ↔
      ∀ flow, session.flows.get? segment.flowId = some flow →
        ∃ final, flow.receiveFinalNext = some final ∧
          final ≤ segment.sequence := by
  unfold receive
  rw [current, requireValidEpoch_current]
  cases found : session.flows.get? segment.flowId with
  | none => simp
  | some flow =>
      have finished : (flow.receiveFinalNext.any fun final =>
          final ≤ segment.sequence) = true ↔
          ∃ final, flow.receiveFinalNext = some final ∧
            final ≤ segment.sequence := by
        cases flow.receiveFinalNext with
        | none => simp
        | some final => simp
      simp only [Option.some.injEq, forall_eq', ← finished]
      split
      · rename_i refused
        simp [refused]
      · rename_i accepted
        simp only [accepted, Bool.false_eq_true, iff_false]
        split
        · exact id
        · split
          · exact id
          · split
            · exact id
            · exact id

private theorem releaseCounts_not_failed {session : SessionTracer}
    {segments bytes : Nat} :
    ¬(session.releaseCounts segments bytes :
      Outcome Panic TraceError Unit × SessionTracer).1.Failed := by
  intro failed
  cases called : (session.releaseCounts segments bytes :
      Outcome Panic TraceError Unit × SessionTracer) with
  | mk outcome after =>
      rw [called] at failed
      rcases releaseCounts_cases called with
        ⟨rfl, _⟩ | ⟨rfl, _⟩ | ⟨_, _, rfl, _⟩
      · exact failed
      · exact failed
      · exact failed

theorem acknowledge_failed_iff {session : SessionTracer}
    {acknowledgement : Acknowledgement} (accounted : session.Accounted)
    (current : acknowledgement.epoch = session.epoch) :
    (session.acknowledge acknowledgement).1.Failed ↔
      ∀ flow, session.flows.get? acknowledgement.flowId = some flow →
        flow.nextSend ≤ acknowledgement.through := by
  constructor
  · intro failed flow found
    by_contra sent
    unfold acknowledge at failed
    -- No pending segment is newer than the current epoch.
    have notNewer : ¬(flow.pending.any fun pending =>
        pending.segment.sequence ≤ acknowledgement.through &&
          acknowledgement.epoch < pending.segment.epoch) = true := by
      simp only [List.any_eq_true, Bool.and_eq_true, decide_eq_true_eq,
        not_exists, not_and]
      intro pending member _ newer
      have reached := (accounted.flows found).epochsReached pending member
      rw [current, Epoch.lt_iff] at newer
      rw [Epoch.le_iff] at reached
      omega
    rw [current, requireValidEpoch_current] at failed
    rw [current] at notNewer
    simp only [found, sent, notNewer, if_false, Bool.false_eq_true]
      at failed
    split at failed
    · rename_i segments bytes released loop
      exact releaseCounts_not_failed failed
    · rename_i impossible _ _
      exact nomatch impossible
    · exact failed
  · intro beyond
    unfold acknowledge
    rw [current, requireValidEpoch_current]
    cases found : session.flows.get? acknowledgement.flowId with
    | none => simp
    | some flow => simp [beyond flow found]

theorem finishReceiving_failed_iff (session : SessionTracer)
    (flowId : FlowId) (finalNext : Sequence) :
    (session.finishReceiving flowId session.epoch finalNext).1.Failed ↔
      ∀ flow, session.flows.get? flowId = some flow →
        finalNext < flow.nextReceive ∨
          ∃ existing, flow.receiveFinalNext = some existing ∧
            existing ≠ finalNext := by
  unfold finishReceiving
  rw [requireValidEpoch_current]
  cases found : session.flows.get? flowId with
  | none => simp
  | some flow =>
      simp only [Option.some.injEq, forall_eq']
      by_cases below : finalNext < flow.nextReceive
      · simp [below]
      · cases recorded : flow.receiveFinalNext with
        | none => simp [below]
        | some existing =>
            by_cases same : existing = finalNext
            · simp [below, same]
            · simp [below, same]

end SessionTracer

/-- A data, acknowledgement, or finish frame of the current epoch fails
without a trace exactly when the flow refuses it. -/
private theorem called_refused_iff {hmac : Hmac}
    {dispatcher : SessionFrameDispatcher} {session after : SessionTracer}
    {frame : Frame} {call : Call} {answer : CallOutcome}
    (accounted : session.Accounted)
    (current : frame.streamEpoch = some session.epoch)
    (asks : dispatcher.callOf frame = some call)
    (performed : session.perform hmac call = (answer, after)) :
    (answer.Failed ∧ after = session) ↔ RefusedByFlow session frame := by
  cases frame with
  | streamData flowId epoch sequence bytes =>
      cases asks
      obtain rfl := Option.some.inj current
      obtain ⟨typed, received, rfl⟩ :=
        SessionTracer.tag_eq_iff.mp performed
      have decided := SessionTracer.receive_failed_iff
        (rfl : (⟨flowId, session.epoch, sequence, bytes⟩ : Segment).epoch = _)
      rw [received] at decided
      rw [Outcome.failed_bimap, RefusedByFlow, ← decided]
      refine ⟨And.left, fun failed => ⟨failed, ?_⟩⟩
      rcases SessionTracer.receive_cases received with
        ⟨_, same⟩ | ⟨rfl, _⟩ | ⟨rfl, _⟩ | rfl | ⟨rfl, _⟩
      · exact same
      · exact absurd failed (by simp)
      · exact absurd failed (by simp)
      · exact absurd failed (by simp)
      · exact absurd failed (by simp)
  | streamAcknowledgement flowId epoch through =>
      cases asks
      obtain rfl := Option.some.inj current
      obtain ⟨typed, acknowledged, rfl⟩ :=
        SessionTracer.tag_eq_iff.mp performed
      have decided := SessionTracer.acknowledge_failed_iff accounted
        (rfl : (⟨flowId, session.epoch, through⟩ : Acknowledgement).epoch = _)
      rw [acknowledged] at decided
      rw [Outcome.failed_bimap, RefusedByFlow, ← decided]
      refine ⟨And.left, fun failed => ⟨failed, ?_⟩⟩
      rcases SessionTracer.acknowledge_cases acknowledged with
        ⟨_, same⟩ | ⟨_, _, rfl, _⟩ | ⟨rfl, _⟩
      · exact same
      · exact absurd failed (by simp)
      · exact absurd failed (by simp)
  | streamFinish flowId epoch finalNext =>
      cases asks
      obtain rfl := Option.some.inj current
      obtain ⟨typed, finished, rfl⟩ :=
        SessionTracer.tag_eq_iff.mp performed
      have decided := SessionTracer.finishReceiving_failed_iff session
        flowId finalNext
      rw [finished] at decided
      rw [Outcome.failed_bimap, RefusedByFlow, ← decided]
      refine ⟨And.left, fun failed => ⟨failed, ?_⟩⟩
      rcases SessionTracer.finishReceiving_cases finished with
        ⟨_, same⟩ | ⟨rfl, _⟩
      · exact same
      · exact absurd failed (by simp)
  | _ => cases current

/-- On the retiring carrier a frame of the current epoch fails and leaves the
session unchanged exactly when the dispatcher is closed or the flow refuses
the frame; the carrier itself is no reason. -/
theorem retiring_carrier_refuses_iff (hmac : Hmac) (session : SessionTracer)
    (live : session.Live hmac) (retiring : AcceptedCarrierAttachment)
    (inTransition : session.retiringAttachment = some retiring)
    (dispatcher : SessionFrameDispatcher)
    (onRetiring : dispatcher.carrier = retiring.carrier) (frame : Frame)
    (current : frame.streamEpoch = some session.epoch)
    (outcome : Dispatched) (after : SessionFrameDispatcher)
    (next : SessionTracer)
    (made : dispatcher.dispatch hmac session frame =
      (outcome, after, next)) :
    (outcome.Failed ∧ next = session) ↔
      (dispatcher.closed = true ∨ RefusedByFlow session frame) := by
  have dispatchable :
      session.carrierAttachmentIsDispatchable dispatcher.carrier = true :=
    SessionTracer.carrierAttachmentIsDispatchable_iff.mpr
      (.inr ⟨retiring, inTransition, onRetiring.symm⟩)
  have passes : dispatcher.Passes session frame := by
    cases frame with
    | streamData flowId epoch sequence bytes => exact dispatchable
    | streamAcknowledgement flowId epoch through => exact dispatchable
    | streamFinish flowId epoch finalNext => exact dispatchable
    | _ => cases current
  cases SessionFrameDispatcher.dispatch_effects made with
  | refused gated =>
      rcases gated with closed | gated
      · exact ⟨fun _ => .inl closed, fun _ => ⟨trivial, rfl⟩⟩
      · exact absurd passes gated
  | closes closing =>
      subst closing
      cases current
  | ignored optional =>
      subst optional
      cases current
  | called asks notClosed _ performed reports =>
      rw [reports.failed, notClosed,
        called_refused_iff live.accounted current asks performed]
      simp

/-- Data of the current epoch is delivered over the retiring carrier. -/
theorem retiring_carrier_delivers_current :
    ∃ (session : SessionTracer) (dispatcher : SessionFrameDispatcher)
        (retiring : AcceptedCarrierAttachment),
      session.Live testHmac ∧ session.transition.retiring ≠ none ∧
      session.retiringAttachment = some retiring ∧
      dispatcher.carrier = retiring.carrier ∧
      session.carrierAttachmentIsActive dispatcher.carrier = false ∧
      (Frame.streamData ⟨5⟩ ⟨1⟩ ⟨0⟩ [7]).streamEpoch =
        some session.epoch ∧
      (dispatcher.dispatch testHmac session
        (.streamData ⟨5⟩ ⟨1⟩ ⟨0⟩ [7])).1 = .ok (.delivered [7]) ∧
      ¬((dispatcher.dispatch testHmac session
          (.streamData ⟨5⟩ ⟨1⟩ ⟨0⟩ [7])).1.Failed ∧
        (dispatcher.dispatch testHmac session
          (.streamData ⟨5⟩ ⟨1⟩ ⟨0⟩ [7])).2.2 = session) := by
  have history : Endpoint.History testHmac (.new ⟨0⟩ smallLimits (by decide))
      _ _ _ := Endpoint.run_history retiring_run fun _ => rfl
  refine ⟨_, (testEndpoint.runMoves testHmac retiringMoves).2.dispatchers
    false, _, history.live, by decide, rfl, rfl, rfl, rfl, rfl, ?_⟩
  intro failed
  exact failed.1

theorem retiring_carrier_refuses_unopened :
    ∃ (session : SessionTracer) (dispatcher : SessionFrameDispatcher),
      session.Live testHmac ∧
      ((dispatcher.dispatch testHmac session
          (.streamData ⟨9⟩ ⟨1⟩ ⟨0⟩ [7])).1.Failed ∧
        (dispatcher.dispatch testHmac session
          (.streamData ⟨9⟩ ⟨1⟩ ⟨0⟩ [7])).2.2 = session) := by
  have history : Endpoint.History testHmac (.new ⟨0⟩ smallLimits (by decide))
      _ _ _ := Endpoint.run_history retiring_run fun _ => rfl
  refine ⟨_, (testEndpoint.runMoves testHmac retiringMoves).2.dispatchers
    false, history.live, ?_⟩
  refine (retiring_carrier_refuses_iff testHmac _ history.live _ rfl _ rfl
    (.streamData ⟨9⟩ ⟨1⟩ ⟨0⟩ [7]) rfl _ _ _ rfl).mpr (.inr ?_)
  intro flow found
  cases found

/-! ## One attachment for each carrier -/

/-- The attachment that an event accepted, newly or as a repetition. -/
def EndpointEvent.answered {Index : Type} (carrier : Index → CarrierId) :
    EndpointEvent Index → Option AcceptedCarrierAttachment
  | .dispatched index (.attach _ epoch attachmentId _ _)
      (.ok (.attachmentAccepted _)) =>
      some ⟨carrier index, epoch, attachmentId⟩
  | .dispatched index (.attach _ epoch attachmentId _ _)
      (.ok (.attachmentAlreadyAccepted _)) =>
      some ⟨carrier index, epoch, attachmentId⟩
  | _ => none

theorem EndpointEvent.answered_of_accepted {Index : Type}
    {carrier : Index → CarrierId} {event : EndpointEvent Index}
    {identity : AcceptedCarrierAttachment}
    (accepted : event.accepted carrier = some identity) :
    event.answered carrier = some identity := by
  unfold EndpointEvent.accepted at accepted
  split at accepted
  · exact accepted
  · cases accepted

/-- After its first accepted attachment a carrier has no different one
accepted. -/
def OneExchangePerCarrier {Index : Type} (carrier : Index → CarrierId)
    (trace : List (EndpointEvent Index)) : Prop :=
  trace.Pairwise fun earlier later => ∀ first second,
    earlier.accepted carrier = some first →
    later.answered carrier = some second →
    second.carrier = first.carrier → second = first

theorem OneExchangePerCarrier.accepted {Index : Type}
    {carrier : Index → CarrierId} {trace : List (EndpointEvent Index)}
    (exchange : OneExchangePerCarrier carrier trace) :
    (trace.filterMap (EndpointEvent.accepted carrier)).Pairwise
      fun first second => second.carrier = first.carrier →
        second = first := by
  refine List.pairwise_filterMap.mpr (exchange.imp ?_)
  intro earlier later rule first accepted second laterAccepted same
  exact rule first second accepted
    (EndpointEvent.answered_of_accepted laterAccepted) same

/-- No carrier is both the accepted and the retiring one. -/
def SessionTracer.Separate (session : SessionTracer) : Prop :=
  ∀ accepted retiring, session.acceptedAttachment = some accepted →
    session.retiringAttachment = some retiring →
    accepted.carrier ≠ retiring.carrier

namespace Endpoint

variable {Index : Type} [DecidableEq Index]

/-- The attachment that an event presents, when the dispatcher and the
session admit it in the state before. -/
def admittedBy (hmac : Hmac) (endpoint : Endpoint Index) :
    EndpointEvent Index → Option AcceptedCarrierAttachment
  | .dispatched index
      (.attach sessionId epoch attachmentId parameters proof) _ =>
      let dispatcher := endpoint.dispatchers index
      if !dispatcher.closed && sessionId = dispatcher.sessionId &&
          endpoint.session.admits hmac dispatcher.authenticator
            dispatcher.sessionId
            ⟨dispatcher.carrier, epoch, attachmentId, parameters,
              ⟨proof⟩⟩ then
        some ⟨dispatcher.carrier, epoch, attachmentId⟩
      else none
  | _ => none

def next (hmac : Hmac) (endpoint : Endpoint Index) :
    EndpointEvent Index → Endpoint Index
  | .dispatched index frame _ => (endpoint.dispatch hmac index frame).2
  | .called exchange =>
      { endpoint with
        session := (endpoint.session.perform hmac exchange.call).2 }

/-- The attachments a run presents that are admitted, each judged on the
state before its event. -/
def admittedAttachments (hmac : Hmac) (initial : Endpoint Index)
    (trace : List (EndpointEvent Index)) : List AcceptedCarrierAttachment :=
  (trace.foldl
    (fun (endpoint, admitted) event =>
      (endpoint.next hmac event,
        admitted ++ (endpoint.admittedBy hmac event).toList))
    (initial, [])).2

theorem Step.next_eq {hmac : Hmac} {endpoint after : Endpoint Index}
    {event : EndpointEvent Index} (step : Step hmac endpoint event after) :
    endpoint.next hmac event = after := by
  cases step with
  | dispatch made returned => simp only [next, made]
  | call step isLocal => simp only [next, step.1]

omit [DecidableEq Index] in
/-- An attachment frame that made its call is accepted exactly when the
session admits it. -/
private theorem attach_accepted_iff {hmac : Hmac}
    {endpoint : Endpoint Index} {dispatcher : SessionFrameDispatcher}
    {session : SessionTracer} {index : Index} {sessionId : SessionId}
    {epoch : Epoch} {attachmentId : AttachmentId}
    {parameters : NegotiatedParameters} {proof : List.Vector UInt8 32}
    {outcome : Dispatched} (consumed : endpoint.session.Consumed)
    (effects : (endpoint.dispatchers index).Effects hmac endpoint.session
      (.attach sessionId epoch attachmentId parameters proof) outcome
      dispatcher session) :
    (∃ response, outcome = .ok (.attachmentAccepted response)) ↔
      (!(endpoint.dispatchers index).closed &&
        sessionId = (endpoint.dispatchers index).sessionId &&
        endpoint.session.admits hmac
          (endpoint.dispatchers index).authenticator
          (endpoint.dispatchers index).sessionId
          ⟨(endpoint.dispatchers index).carrier, epoch, attachmentId,
            parameters, ⟨proof⟩⟩) = true := by
  cases effects with
  | refused gated =>
      rcases gated with closed | mismatch
      · simp [closed]
      · have different :
            sessionId ≠ (endpoint.dispatchers index).sessionId := mismatch
        simp [different]
  | closes closing => cases closing
  | ignored optional => cases optional
  | called asks live passes performed reports =>
      cases asks
      obtain ⟨typed, result, rfl⟩ := SessionTracer.tag_eq_iff.mp performed
      have matching :
          sessionId = (endpoint.dispatchers index).sessionId := passes
      have decided := SessionTracer.accepted_iff_admits consumed result
      rw [reports.accepted]
      simp only [live, matching, Bool.not_false, decide_true, Bool.and_self,
        Bool.true_and, ← decided]
      cases typed with
      | ok acceptance => cases acceptance <;> simp
      | err failure => simp
      | panic cause => simp

theorem Step.accepted_eq {hmac : Hmac} {endpoint after : Endpoint Index}
    {event : EndpointEvent Index} {carrier : Index → CarrierId}
    (carriers : ∀ index,
      (endpoint.dispatchers index).carrier = carrier index)
    (consumed : endpoint.session.Consumed)
    (step : Step hmac endpoint event after) :
    event.accepted carrier = endpoint.admittedBy hmac event := by
  rcases step.cases with
    ⟨exchange, session, rfl, _⟩ |
    ⟨index, frame, outcome, dispatcher, session, rfl, _, effects, _⟩
  · rfl
  · cases frame with
    | attach sessionId epoch attachmentId parameters proof =>
        have decided := attach_accepted_iff consumed effects
        simp only [admittedBy]
        by_cases accepted :
            ∃ response, outcome = .ok (.attachmentAccepted response)
        · rw [if_pos (decided.mp accepted), carriers index]
          obtain ⟨response, rfl⟩ := accepted
          rfl
        · rw [if_neg (fun admitted => accepted (decided.mpr admitted))]
          unfold EndpointEvent.accepted
          split <;> simp_all
    | _ => rfl

/-- A repeated attachment is the one that holds the accepted slot. -/
theorem Step.answered_cases {hmac : Hmac} {endpoint after : Endpoint Index}
    {event : EndpointEvent Index} {carrier : Index → CarrierId}
    {identity : AcceptedCarrierAttachment}
    (carriers : ∀ index,
      (endpoint.dispatchers index).carrier = carrier index)
    (step : Step hmac endpoint event after)
    (answered : event.answered carrier = some identity) :
    event.accepted carrier = some identity ∨
      endpoint.session.acceptedAttachment = some identity := by
  unfold EndpointEvent.answered at answered
  split at answered
  · exact .inl answered
  · rename_i index sessionId epoch attachmentId parameters proof response
    rcases step.cases with
      ⟨_, _, other, _⟩ |
      ⟨_, _, _, dispatcher, session, same, _, effects, _⟩
    · cases other
    · cases same
      cases effects with
      | called asks live passes performed reports =>
          cases asks
          obtain ⟨typed, result, tagged⟩ :=
            SessionTracer.tag_eq_iff.mp performed
          have repeated := reports.alreadyAccepted.mp ⟨response, rfl⟩
          rw [← tagged] at repeated
          rcases SessionTracer.authenticateCarrierAttachment_cases result
            with ⟨failed, _⟩ | ⟨_, _, _, slot⟩ | ⟨rfl, _⟩
          · cases typed with
            | err failure => cases repeated
            | ok acceptance => exact absurd failed (by simp)
            | panic cause => cases repeated
          · refine .inr (slot.trans ?_)
            rw [← answered, ← carriers index]
            rfl
          · cases repeated
  · cases answered

section Runs

variable {hmac : Hmac} {epoch : Epoch} {limits : FlowLimits}
  {limitsAccepted : limits.Accepted} {sessionId : Index → SessionId}
  {carrier : Index → CarrierId}
  {authenticator : Index → AttachmentAuthenticator}
  {trace : List (EndpointEvent Index)} {endpoint : Endpoint Index}

theorem run_live
    (run : Run (Step hmac)
      (.new epoch limits limitsAccepted sessionId carrier authenticator)
      trace endpoint) : endpoint.session.Live hmac := by
  have history : History hmac (.new epoch limits limitsAccepted) carrier
      trace endpoint := run_history run fun _ => rfl
  exact history.live

/-- What a run accepts is what it is presented and admits. -/
theorem run_admittedAttachments
    (run : Run (Step hmac)
      (.new epoch limits limitsAccepted sessionId carrier authenticator)
      trace endpoint) :
    trace.filterMap (EndpointEvent.accepted carrier) =
      admittedAttachments hmac
        (.new epoch limits limitsAccepted sessionId carrier authenticator)
        trace := by
  have folded : trace.foldl
      (fun (endpoint, admitted) event =>
        (endpoint.next hmac event,
          admitted ++ (endpoint.admittedBy hmac event).toList))
      (.new epoch limits limitsAccepted sessionId carrier authenticator, []) =
      (endpoint, trace.filterMap (EndpointEvent.accepted carrier)) := by
    induction run with
    | nil => rfl
    | snoc front step induction =>
        have carriers := (run_history front fun _ => rfl).carriers
        have consumed := (run_live front).consumed
        rw [List.foldl_append, induction, List.filterMap_append]
        simp only [List.foldl_cons, List.foldl_nil, step.next_eq,
          ← step.accepted_eq carriers consumed]
        congr 2
  rw [admittedAttachments, folded]

/-- Every accepted attachment was newly accepted once. -/
theorem run_answered {identity : AcceptedCarrierAttachment}
    (run : Run (Step hmac)
      (.new epoch limits limitsAccepted sessionId carrier authenticator)
      trace endpoint) :
    ∀ event ∈ trace, event.answered carrier = some identity →
      identity ∈ trace.filterMap (EndpointEvent.accepted carrier) := by
  induction run with
  | nil =>
      intro event member
      cases member
  | snoc front step induction =>
      intro event member answered
      rw [List.filterMap_append]
      rcases List.mem_append.mp member with older | newest
      · exact List.mem_append_left _ (induction event older answered)
      · rw [List.mem_singleton] at newest
        subst newest
        have history : History hmac (.new epoch limits limitsAccepted)
            carrier _ _ := run_history front fun _ => rfl
        rcases step.answered_cases history.carriers answered with
          accepted | slot
        · refine List.mem_append_right _ ?_
          simp [accepted]
        · rcases history.holds_cases (.inl slot) with start | accepted
          · rcases start with none | none
            · cases none
            · cases none
          · exact List.mem_append_left _ accepted

/-- The epochs of newly accepted attachments increase. -/
theorem run_increasing
    (run : Run (Step hmac)
      (.new epoch limits limitsAccepted sessionId carrier authenticator)
      trace endpoint) :
    (trace.filterMap (EndpointEvent.accepted carrier)).Pairwise
      fun earlier later => earlier.epoch < later.epoch := by
  have history : History hmac (.new epoch limits limitsAccepted) carrier
      trace endpoint := run_history run fun _ => rfl
  obtain ⟨exchanges, sessionRun, accepted⟩ := history.session
  rw [← accepted, List.pairwise_map]
  exact (run_attachmentHistory sessionRun).increasing

end Runs

end Endpoint

/-- Entries with pairwise different carriers are told apart by them. -/
private theorem eq_of_carrier
    {identities : List AcceptedCarrierAttachment}
    (distinct : identities.Pairwise fun earlier later =>
      earlier.carrier ≠ later.carrier)
    {left right : AcceptedCarrierAttachment} (leftMember : left ∈ identities)
    (rightMember : right ∈ identities)
    (same : left.carrier = right.carrier) : left = right := by
  by_contra different
  have symmetric : Std.Symm fun left right : AcceptedCarrierAttachment =>
      left.carrier ≠ right.carrier := ⟨fun _ _ unequal => unequal.symm⟩
  exact distinct.forall leftMember rightMember different same

/-- A carrier has at most one attachment exchange, and is never both accepted
and retiring, exactly when no two admitted ATTACH frames of the run come from
the same carrier. -/
theorem one_exchange_per_carrier_iff {Index : Type} [DecidableEq Index]
    (hmac : Hmac) (epoch : Epoch) (limits : FlowLimits)
    (limitsAccepted : limits.Accepted) (sessionId : Index → SessionId)
    (carrier : Index → CarrierId)
    (authenticator : Index → AttachmentAuthenticator)
    (trace : List (EndpointEvent Index)) (endpoint : Endpoint Index)
    (run : Run (Endpoint.Step hmac)
      (.new epoch limits limitsAccepted sessionId carrier authenticator)
      trace endpoint) :
    (OneExchangePerCarrier carrier trace ∧ endpoint.session.Separate) ↔
      (Endpoint.admittedAttachments hmac
        (.new epoch limits limitsAccepted sessionId carrier authenticator)
        trace).Pairwise fun earlier later =>
          earlier.carrier ≠ later.carrier := by
  rw [← Endpoint.run_admittedAttachments run]
  constructor
  · intro property
    obtain ⟨exchange, _⟩ := property
    refine (exchange.accepted.and (Endpoint.run_increasing run)).imp ?_
    intro first second both same
    have below := both.2
    rw [both.1 same.symm, Epoch.lt_iff] at below
    exact Nat.lt_irrefl _ below
  · intro distinct
    constructor
    · refine List.pairwise_of_forall_mem_list ?_
      intro earlier earlierMember later laterMember first second accepted
        answered same
      refine eq_of_carrier distinct ?_ ?_ same
      · exact Endpoint.run_answered run later laterMember answered
      · exact List.mem_filterMap.mpr ⟨earlier, earlierMember, accepted⟩
    · intro accepted retiring acceptedSlot retiringSlot same
      have history : Endpoint.History hmac (.new epoch limits limitsAccepted)
          carrier trace endpoint := Endpoint.run_history run fun _ => rfl
      have aligned := history.live.slotsAligned
      have listed : ∀ {identity}, endpoint.session.Holds identity →
          identity ∈ trace.filterMap (EndpointEvent.accepted carrier) := by
        intro identity held
        rcases history.holds_cases held with start | member
        · rcases start with none | none
          · cases none
          · cases none
        · exact member
      have equal := eq_of_carrier distinct (listed (.inl acceptedSlot))
        (listed (.inr retiringSlot)) same
      have older := aligned.older (aligned.retiring retiringSlot)
      rw [← equal, aligned.accepted acceptedSlot, Epoch.lt_iff] at older
      exact Nat.lt_irrefl _ older

/-- The old carrier attaches in epoch 0, and one of the two in epoch 1. -/
def attachingMoves (replacement : Bool) : List (Move Bool) :=
  [.call (.bindNegotiatedParameters testParameters),
    .dispatch false (testAttachFrame ⟨0⟩ testAttachmentId),
    .call .beginTransition,
    .dispatch replacement (testAttachFrame ⟨1⟩ replacementAttachmentId)]

theorem one_exchange_per_carrier_replaced :
    ∃ trace endpoint,
      Run (Endpoint.Step testHmac) testEndpoint trace endpoint ∧
      endpoint.session.retiringAttachment =
        some ⟨⟨4⟩, ⟨0⟩, testAttachmentId⟩ ∧
      OneExchangePerCarrier
        (fun replacement => if replacement then ⟨6⟩ else ⟨4⟩) trace ∧
      endpoint.session.Separate := by
  have replaced := Endpoint.runMoves_run testHmac testEndpoint
    (attachingMoves true) (by decide)
  exact ⟨_, _, replaced, rfl,
    (one_exchange_per_carrier_iff testHmac _ _ _ _ _ _ _ _ replaced).mpr
      (by decide)⟩

/-- The carrier attached in epoch 0 attaches again in epoch 1, and is then
both accepted and retiring. -/
theorem carrier_attaches_twice :
    ∃ trace endpoint,
      Run (Endpoint.Step testHmac) testEndpoint trace endpoint ∧
      ¬OneExchangePerCarrier
        (fun replacement => if replacement then ⟨6⟩ else ⟨4⟩) trace ∧
      ¬endpoint.session.Separate := by
  have reattached := Endpoint.runMoves_run testHmac testEndpoint
    (attachingMoves false) (by decide)
  refine ⟨_, _, reattached, ?_, ?_⟩
  · intro exchange
    exact absurd exchange.accepted (by decide)
  · intro separate
    exact separate _ _ rfl rfl rfl

end Velum.Session
