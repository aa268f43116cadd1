import Velum.Session.Dispatcher

/-!
# One session behind any number of dispatchers

Every dispatched frame is a gated call, so a run of the endpoint is a run of
the session.  What the gate reads are the two attachment slots; they follow
the epochs of the transition in every reachable state.
-/

namespace Velum.Session

open Foundation
open Velum.Protocol
open Velum.Crypto

namespace SessionTracer

/-! ## The attachment slots -/

/-- The accepted attachment belongs to the current epoch and the retiring one
to the retiring epoch, which is an older one. -/
structure SlotsAligned (session : SessionTracer) : Prop where
  accepted : ∀ {identity}, session.acceptedAttachment = some identity →
    identity.epoch = session.epoch
  retiring : ∀ {identity}, session.retiringAttachment = some identity →
    session.transition.retiring = some identity.epoch
  older : ∀ {epoch}, session.transition.retiring = some epoch →
    epoch < session.epoch

theorem SlotsAligned.new (epoch : Epoch) (limits : FlowLimits)
    (limitsAccepted : limits.Accepted) :
    (new epoch limits limitsAccepted).SlotsAligned := by
  refine ⟨?_, ?_, ?_⟩
  · intro identity accepted
    cases accepted
  · intro identity retiring
    cases retiring
  · intro epoch retiring
    cases retiring

theorem SlotsAligned.effect {session next : SessionTracer} {action : Action}
    (aligned : session.SlotsAligned) (effect : Effect session action next) :
    next.SlotsAligned := by
  cases effect with
  | begun idle following =>
      refine ⟨?_, ?_, ?_⟩
      · intro identity accepted
        cases accepted
      · intro identity retiring
        exact congrArg some (aligned.accepted retiring).symm
      · intro epoch retiring
        cases retiring
        rw [Epoch.lt_iff]
        exact Nat.lt_of_lt_of_eq (Nat.lt_succ_self _) following.symm
  | completed =>
      refine ⟨aligned.accepted, ?_, ?_⟩
      · intro identity retiring
        cases retiring
      · intro epoch retiring
        cases retiring
  | attached bound current fresh =>
      refine ⟨?_, aligned.retiring, aligned.older⟩
      intro identity accepted
      cases accepted
      exact current
  | _ => exact ⟨aligned.accepted, aligned.retiring, aligned.older⟩

theorem Live.slotsAligned {hmac : Hmac} {session : SessionTracer}
    (live : Live hmac session) : session.SlotsAligned :=
  live.invariant SlotsAligned.new SlotsAligned.effect

theorem carrierAttachmentIsActive_iff {session : SessionTracer}
    {carrier : CarrierId} :
    session.carrierAttachmentIsActive carrier = true ↔
      ∃ identity, session.acceptedAttachment = some identity ∧
        identity.carrier = carrier ∧ identity.epoch = session.epoch := by
  unfold carrierAttachmentIsActive
  cases session.acceptedAttachment with
  | none => simp
  | some identity => simp

theorem carrierAttachmentIsDispatchable_iff {session : SessionTracer}
    {carrier : CarrierId} :
    session.carrierAttachmentIsDispatchable carrier = true ↔
      session.carrierAttachmentIsActive carrier = true ∨
        ∃ identity, session.retiringAttachment = some identity ∧
          identity.carrier = carrier := by
  unfold carrierAttachmentIsDispatchable
  cases session.retiringAttachment with
  | none => simp
  | some identity => simp

end SessionTracer

/-! ## Runs of an endpoint -/

/-- A session and its dispatchers. -/
structure Endpoint (Index : Type) where
  session : SessionTracer
  dispatchers : Index → SessionFrameDispatcher

inductive EndpointEvent (Index : Type) where
  | dispatched (index : Index) (frame : Frame) (outcome : Dispatched)
  | called (exchange : Exchange)

/-- Attachments reach a session in frames; all other calls are also made
locally. -/
def Call.IsLocal : Call → Prop
  | .authenticateCarrierAttachment _ _ _ => False
  | _ => True

/-- The attachment that an event newly accepted. -/
def EndpointEvent.accepted {Index : Type} (carrier : Index → CarrierId) :
    EndpointEvent Index → Option AcceptedCarrierAttachment
  | .dispatched index (.attach _ epoch attachmentId _ _)
      (.ok (.attachmentAccepted _)) =>
      some ⟨carrier index, epoch, attachmentId⟩
  | _ => none

namespace Endpoint

variable {Index : Type} [DecidableEq Index]

def new (epoch : Epoch) (limits : FlowLimits)
    (limitsAccepted : limits.Accepted) (sessionId : Index → SessionId)
    (carrier : Index → CarrierId)
    (authenticator : Index → AttachmentAuthenticator) : Endpoint Index where
  session := .new epoch limits limitsAccepted
  dispatchers index :=
    .new (sessionId index) (carrier index) (authenticator index)

def dispatch (hmac : Hmac) (endpoint : Endpoint Index) (index : Index)
    (frame : Frame) : Dispatched × Endpoint Index :=
  let (outcome, dispatcher, session) :=
    (endpoint.dispatchers index).dispatch hmac endpoint.session frame
  (outcome,
    { session
      dispatchers :=
        Function.update endpoint.dispatchers index dispatcher })

inductive Step (hmac : Hmac) :
    Endpoint Index → EndpointEvent Index → Endpoint Index → Prop where
  | dispatch {endpoint after : Endpoint Index} {index : Index}
      {frame : Frame} {outcome : Dispatched}
      (made : endpoint.dispatch hmac index frame = (outcome, after))
      (returned : outcome.Returned) :
      Step hmac endpoint (.dispatched index frame outcome) after
  | call {endpoint : Endpoint Index} {exchange : Exchange}
      {session : SessionTracer}
      (step : SessionTracer.Step hmac endpoint.session exchange session)
      (isLocal : exchange.call.IsLocal) :
      Step hmac endpoint (.called exchange) { endpoint with session }

theorem dispatch_eq_iff {hmac : Hmac} {endpoint after : Endpoint Index}
    {index : Index} {frame : Frame} {outcome : Dispatched} :
    endpoint.dispatch hmac index frame = (outcome, after) ↔
      ∃ dispatcher session, (endpoint.dispatchers index).dispatch hmac
          endpoint.session frame = (outcome, dispatcher, session) ∧
        after =
          { session
            dispatchers :=
              Function.update endpoint.dispatchers index dispatcher } := by
  unfold dispatch
  cases (endpoint.dispatchers index).dispatch hmac endpoint.session
      frame with
  | mk answer rest =>
      obtain ⟨dispatcher, next⟩ := rest
      constructor
      · intro made
        cases made
        exact ⟨dispatcher, next, rfl, rfl⟩
      · intro found
        obtain ⟨_, _, same, rfl⟩ := found
        cases same
        rfl

/-- Everything a step can do to the session and to the dispatchers. -/
theorem Step.cases {hmac : Hmac} {endpoint next : Endpoint Index}
    {event : EndpointEvent Index} (step : Step hmac endpoint event next) :
    (∃ exchange session, event = .called exchange ∧
      exchange.call.IsLocal ∧
      SessionTracer.Step hmac endpoint.session exchange session ∧
      next = { endpoint with session }) ∨
    ∃ index frame outcome dispatcher session,
      event = .dispatched index frame outcome ∧ outcome.Returned ∧
      (endpoint.dispatchers index).Effects hmac endpoint.session frame
        outcome dispatcher session ∧
      next =
        { session
          dispatchers :=
            Function.update endpoint.dispatchers index dispatcher } := by
  cases step with
  | dispatch made returned =>
      obtain ⟨dispatcher, session, dispatched, updated⟩ :=
        dispatch_eq_iff.mp made
      exact .inr ⟨_, _, _, dispatcher, session, rfl, returned,
        SessionFrameDispatcher.dispatch_effects dispatched, updated⟩
  | call step isLocal => exact .inl ⟨_, _, rfl, isLocal, step, rfl⟩

omit [DecidableEq Index] in
/-- A dispatched call is a step of the session that accepts what the event
accepts. -/
private theorem called_accepted {dispatcher : SessionFrameDispatcher}
    {index : Index} {carrier : Index → CarrierId} {frame : Frame}
    {call : Call} {answer : CallOutcome} {outcome : Dispatched}
    (sameCarrier : dispatcher.carrier = carrier index)
    (asks : dispatcher.callOf frame = some call)
    (reports : SessionFrameDispatcher.Reports outcome answer) :
    (acceptedAttachments [⟨call, answer⟩]).map
        CarrierAttachment.identity =
      ((EndpointEvent.dispatched index frame outcome).accepted
        carrier).toList := by
  cases frame with
  | attach sessionId epoch attachmentId parameters proof =>
      cases asks
      by_cases accepted : answer = .ok (.attachment .accepted)
      · obtain ⟨response, rfl⟩ := reports.accepted.mpr accepted
        subst accepted
        change [AcceptedCarrierAttachment.mk dispatcher.carrier _ _] =
          [AcceptedCarrierAttachment.mk (carrier index) _ _]
        rw [sameCarrier]
      · have refused : ∀ response,
            outcome ≠ .ok (.attachmentAccepted response) := by
          intro response same
          exact accepted (reports.accepted.mp ⟨response, same⟩)
        have none : EndpointEvent.accepted carrier (.dispatched index
            (.attach sessionId epoch attachmentId parameters proof)
            outcome) = none := by
          unfold EndpointEvent.accepted
          split <;> simp_all
        have rejected : acceptedAttachments
            [⟨.authenticateCarrierAttachment dispatcher.authenticator
              dispatcher.sessionId
              ⟨dispatcher.carrier, epoch, attachmentId, parameters,
                ⟨proof⟩⟩, answer⟩] = [] := by
          simp only [acceptedAttachments, List.filterMap_cons,
            List.filterMap_nil]
          unfold Exchange.acceptedAttachment
          split <;> simp_all
        rw [none, rejected]
        rfl
  | streamOpen flowId =>
      cases asks
      rfl
  | streamData flowId epoch sequence bytes =>
      cases asks
      rfl
  | streamAcknowledgement flowId epoch through =>
      cases asks
      rfl
  | streamFinish flowId epoch finalNextSequence =>
      cases asks
      rfl
  | streamReset flowId error =>
      cases asks
      rfl
  | _ => cases asks

/-- Every step of the endpoint is a run of the session. -/
theorem Step.session_run {hmac : Hmac} {endpoint next : Endpoint Index}
    {event : EndpointEvent Index} {carrier : Index → CarrierId}
    (carriers : ∀ index,
      (endpoint.dispatchers index).carrier = carrier index)
    (step : Step hmac endpoint event next) :
    ∃ exchanges, Run (SessionTracer.Step hmac) endpoint.session exchanges
        next.session ∧
      (acceptedAttachments exchanges).map CarrierAttachment.identity =
        (event.accepted carrier).toList := by
  rcases step.cases with
    ⟨exchange, session, rfl, isLocal, moved, rfl⟩ |
    ⟨index, frame, outcome, dispatcher, session, rfl, returned, effects,
      rfl⟩
  · refine ⟨[exchange], .single moved, ?_⟩
    obtain ⟨call, answer⟩ := exchange
    cases call with
    | authenticateCarrierAttachment => exact absurd isLocal id
    | _ => rfl
  · cases effects with
    | refused gated =>
        refine ⟨[], .nil, ?_⟩
        unfold EndpointEvent.accepted
        split <;> simp_all [acceptedAttachments]
    | closes closing live passes =>
        subst closing
        exact ⟨[], .nil, rfl⟩
    | ignored optional live passes =>
        subst optional
        exact ⟨[], .nil, rfl⟩
    | called asks live passes performed reports =>
        refine ⟨[⟨_, _⟩], .single ⟨performed, ?_⟩, ?_⟩
        · exact reports.returned.mp returned
        · exact called_accepted (carriers index) asks reports

/-- A dispatcher keeps its carrier, and once closed it stays closed. -/
theorem Step.dispatcher_frame {hmac : Hmac} {endpoint next : Endpoint Index}
    {event : EndpointEvent Index} (step : Step hmac endpoint event next)
    (index : Index) :
    (next.dispatchers index).carrier =
        (endpoint.dispatchers index).carrier ∧
      ((endpoint.dispatchers index).closed = true →
        (next.dispatchers index).closed = true) := by
  rcases step.cases with
    ⟨_, _, _, _, _, rfl⟩ |
    ⟨target, frame, outcome, dispatcher, session, _, _, effects, rfl⟩
  · exact ⟨rfl, id⟩
  · simp only
    by_cases here : index = target
    · subst here
      rw [Function.update_self]
      cases effects with
      | closes => exact ⟨rfl, fun _ => rfl⟩
      | _ => exact ⟨rfl, id⟩
    · rw [Function.update_of_ne here]
      exact ⟨rfl, id⟩

theorem Step.closes {hmac : Hmac} {endpoint next : Endpoint Index}
    {index : Index} {frame : Frame} {error : ProtocolErrorCode}
    (step : Step hmac endpoint
      (.dispatched index frame (.ok (.connectionClosed error))) next) :
    (next.dispatchers index).closed = true := by
  rcases step.cases with
    ⟨_, _, other, _⟩ |
    ⟨target, _, _, dispatcher, session, same, _, effects, rfl⟩
  · cases other
  · cases same
    simp only [Function.update_self]
    cases effects with
    | closes => rfl
    | called asks live passes performed reports =>
        exact absurd rfl (reports.notClosed error)

/-- An endpoint against the events that led to it. -/
structure History (hmac : Hmac) (initial : SessionTracer)
    (carrier : Index → CarrierId) (trace : List (EndpointEvent Index))
    (endpoint : Endpoint Index) : Prop where
  carriers : ∀ index, (endpoint.dispatchers index).carrier = carrier index
  session : ∃ exchanges,
    Run (SessionTracer.Step hmac) initial exchanges endpoint.session ∧
      (acceptedAttachments exchanges).map CarrierAttachment.identity =
        trace.filterMap (EndpointEvent.accepted carrier)
  closed : ∀ {index frame error},
    .dispatched index frame (.ok (.connectionClosed error)) ∈ trace →
    (endpoint.dispatchers index).closed = true

theorem History.step {hmac : Hmac} {initial : SessionTracer}
    {carrier : Index → CarrierId} {trace : List (EndpointEvent Index)}
    {endpoint next : Endpoint Index} {event : EndpointEvent Index}
    (history : History hmac initial carrier trace endpoint)
    (step : Step hmac endpoint event next) :
    History hmac initial carrier (trace ++ [event]) next := by
  refine ⟨?_, ?_, ?_⟩
  · intro index
    rw [(step.dispatcher_frame index).1]
    exact history.carriers index
  · obtain ⟨earlier, front, accepted⟩ := history.session
    obtain ⟨latest, back, newest⟩ := step.session_run history.carriers
    refine ⟨earlier ++ latest, front.append back, ?_⟩
    rw [acceptedAttachments_append, List.map_append, accepted, newest,
      List.filterMap_append]
    cases found : event.accepted carrier with
    | none => simp [found]
    | some identity => simp [found]
  · intro index frame error member
    rcases List.mem_append.mp member with older | newest
    · exact (step.dispatcher_frame index).2 (history.closed older)
    · rw [List.mem_singleton] at newest
      subst newest
      exact step.closes

theorem run_history {hmac : Hmac} {start endpoint : Endpoint Index}
    {carrier : Index → CarrierId} {trace : List (EndpointEvent Index)}
    (run : Run (Step hmac) start trace endpoint)
    (carriers : ∀ index, (start.dispatchers index).carrier = carrier index) :
    History hmac start.session carrier trace endpoint := by
  induction run with
  | nil =>
      refine ⟨carriers, ⟨[], .nil, rfl⟩, ?_⟩
      intro index frame error member
      cases member
  | snoc _ step induction => exact induction.step step

omit [DecidableEq Index] in
/-- A held attachment was held at the start or accepted by an event. -/
theorem History.holds_cases {hmac : Hmac} {initial : SessionTracer}
    {carrier : Index → CarrierId} {trace : List (EndpointEvent Index)}
    {endpoint : Endpoint Index} {identity : AcceptedCarrierAttachment}
    (history : History hmac initial carrier trace endpoint)
    (held : endpoint.session.Holds identity) :
    initial.Holds identity ∨
      identity ∈ trace.filterMap (EndpointEvent.accepted carrier) := by
  obtain ⟨exchanges, run, accepted⟩ := history.session
  rcases run_holds_cases run held with start | ⟨attachment, member, rfl⟩
  · exact .inl start
  · rw [← accepted]
    exact .inr (List.mem_map_of_mem member)

omit [DecidableEq Index] in
theorem History.live {hmac : Hmac} {epoch : Epoch} {limits : FlowLimits}
    {limitsAccepted : limits.Accepted} {carrier : Index → CarrierId}
    {trace : List (EndpointEvent Index)} {endpoint : Endpoint Index}
    (history : History hmac (.new epoch limits limitsAccepted) carrier trace
      endpoint) : endpoint.session.Live hmac := by
  obtain ⟨exchanges, run, _⟩ := history.session
  exact ⟨epoch, limits, limitsAccepted, exchanges, run⟩

end Endpoint

/-! ## What the gate keeps out -/

namespace SessionFrameDispatcher

theorem Passes.dispatchable {dispatcher : SessionFrameDispatcher}
    {session : SessionTracer} {frame : Frame}
    (passes : dispatcher.Passes session frame)
    (notAttach : ¬frame.IsAttach) :
    session.carrierAttachmentIsDispatchable dispatcher.carrier = true := by
  cases frame with
  | attach => exact absurd trivial notAttach
  | streamOpen flowId =>
      exact SessionTracer.carrierAttachmentIsDispatchable_iff.mpr
        (.inl passes)
  | negotiationOffer offer => exact absurd passes id
  | negotiationAccept parameters => exact absurd passes id
  | attachAccepted sessionId epoch attachmentId => exact absurd passes id
  | _ => exact passes

/-- Frames other than ATTACH from a carrier without an attachment fail and
change nothing. -/
theorem dispatch_unattached (hmac : Hmac)
    {dispatcher : SessionFrameDispatcher} {session : SessionTracer}
    {frame : Frame} (notAttach : ¬frame.IsAttach)
    (unattached : ∀ identity, session.Holds identity →
      identity.carrier ≠ dispatcher.carrier) :
    ∃ failure, dispatcher.dispatch hmac session frame =
      (.err failure, dispatcher, session) := by
  have gated : ¬dispatcher.Passes session frame := by
    intro passes
    rcases SessionTracer.carrierAttachmentIsDispatchable_iff.mp
      (passes.dispatchable notAttach) with active | retiring
    · obtain ⟨identity, accepted, same, _⟩ :=
        SessionTracer.carrierAttachmentIsActive_iff.mp active
      exact unattached identity (.inl accepted) same
    · obtain ⟨identity, retiring, same⟩ := retiring
      exact unattached identity (.inr retiring) same
  cases made : dispatcher.dispatch hmac session frame with
  | mk outcome rest =>
      obtain ⟨after, next⟩ := rest
      cases dispatch_effects made with
      | refused => exact ⟨_, rfl⟩
      | closes _ _ passes => exact absurd passes gated
      | ignored _ _ passes => exact absurd passes gated
      | called _ _ passes => exact absurd passes gated

/-- STREAM_OPEN changes the session only from the active carrier. -/
theorem dispatch_open_active {hmac : Hmac}
    {dispatcher after : SessionFrameDispatcher}
    {session next : SessionTracer} {flowId : FlowId} {outcome : Dispatched}
    (made : dispatcher.dispatch hmac session (.streamOpen flowId) =
      (outcome, after, next)) (changed : next ≠ session) :
    session.carrierAttachmentIsActive dispatcher.carrier = true := by
  cases dispatch_effects made with
  | refused => exact absurd rfl changed
  | closes => exact absurd rfl changed
  | ignored => exact absurd rfl changed
  | called asks live passes => exact passes

theorem dispatch_closed {hmac : Hmac} {dispatcher : SessionFrameDispatcher}
    (closed : dispatcher.closed = true) (session : SessionTracer)
    (frame : Frame) :
    dispatcher.dispatch hmac session frame =
      (.err .closed, dispatcher, session) := by
  unfold dispatch
  rw [if_pos closed]

end SessionFrameDispatcher

/-- In every state an endpoint reaches: the slots follow the epochs; frames
other than ATTACH from an unattached carrier fail and change nothing;
STREAM_OPEN needs the active carrier; once a transition is complete, its
retiring carrier has no effect until it attaches again; and a closed
dispatcher stays closed. -/
theorem dispatch_gated {Index : Type} [DecidableEq Index] (hmac : Hmac)
    (epoch : Epoch) (limits : FlowLimits) (limitsAccepted : limits.Accepted)
    (sessionId : Index → SessionId) (carrier : Index → CarrierId)
    (authenticator : Index → AttachmentAuthenticator)
    (trace : List (EndpointEvent Index)) (endpoint : Endpoint Index)
    (run : Run (Endpoint.Step hmac)
      (.new epoch limits limitsAccepted sessionId carrier authenticator)
      trace endpoint) :
    ((∀ identity, endpoint.session.acceptedAttachment = some identity →
        identity.epoch = endpoint.session.epoch) ∧
      ∀ identity, endpoint.session.retiringAttachment = some identity →
        endpoint.session.transition.retiring = some identity.epoch) ∧
    (∀ index frame, ¬frame.IsAttach →
      endpoint.session.carrierAttachmentIsActive (carrier index) = false →
      (∀ identity, endpoint.session.retiringAttachment = some identity →
        identity.carrier ≠ carrier index) →
      ∃ failure, (endpoint.dispatchers index).dispatch hmac
        endpoint.session frame =
          (.err failure, endpoint.dispatchers index, endpoint.session)) ∧
    (∀ index flowId outcome dispatcher after,
      (endpoint.dispatchers index).dispatch hmac endpoint.session
        (.streamOpen flowId) = (outcome, dispatcher, after) →
      after ≠ endpoint.session →
      endpoint.session.carrierAttachmentIsActive (carrier index) = true) ∧
    (∀ retired, endpoint.session.retiringAttachment = some retired →
      endpoint.session.completeTransition.carrierAttachmentIsActive
        retired.carrier = false →
      ∀ continuation later,
        Run (Endpoint.Step hmac)
          { endpoint with session := endpoint.session.completeTransition }
          continuation later →
        (∀ identity ∈
            continuation.filterMap (EndpointEvent.accepted carrier),
          identity.carrier ≠ retired.carrier) →
        ∀ index frame, carrier index = retired.carrier →
          ¬frame.IsAttach →
          ∃ failure, (later.dispatchers index).dispatch hmac later.session
            frame = (.err failure, later.dispatchers index,
              later.session)) ∧
    (∀ index frame error,
      .dispatched index frame (.ok (.connectionClosed error)) ∈ trace →
      ∀ later, (endpoint.dispatchers index).dispatch hmac endpoint.session
        later = (.err .closed, endpoint.dispatchers index,
          endpoint.session)) := by
  have history : Endpoint.History hmac (.new epoch limits limitsAccepted)
      carrier trace endpoint := Endpoint.run_history run fun _ => rfl
  have aligned := history.live.slotsAligned
  have carriers := history.carriers
  refine ⟨⟨fun _ => aligned.accepted, fun _ => aligned.retiring⟩, ?_, ?_,
    ?_, ?_⟩
  · intro index frame notAttach inactive notRetiring
    apply SessionFrameDispatcher.dispatch_unattached hmac notAttach
    intro identity held sameCarrier
    rw [carriers index] at sameCarrier
    rcases held with accepted | retiring
    · have active := SessionTracer.carrierAttachmentIsActive_iff.mpr
        ⟨identity, accepted, sameCarrier, aligned.accepted accepted⟩
      rw [active] at inactive
      cases inactive
    · exact notRetiring identity retiring sameCarrier
  · intro index flowId outcome dispatcher after made changed
    rw [← carriers index]
    exact SessionFrameDispatcher.dispatch_open_active made changed
  · intro retired retiring inactive continuation later following
      notReattached index frame same notAttach
    have laterHistory := Endpoint.run_history following carriers
    apply SessionFrameDispatcher.dispatch_unattached hmac notAttach
    intro identity held sameCarrier
    rw [laterHistory.carriers index, same] at sameCarrier
    rcases laterHistory.holds_cases held with kept | accepted
    · rcases kept with accepted | retiring
      · have active := SessionTracer.carrierAttachmentIsActive_iff.mpr
          ⟨identity, accepted, sameCarrier, aligned.accepted accepted⟩
        rw [active] at inactive
        cases inactive
      · cases retiring
    · exact notReattached identity accepted sameCarrier
  · intro index frame error closing later
    exact SessionFrameDispatcher.dispatch_closed (history.closed closing)
      endpoint.session later

/-! ## Making moves -/

inductive Move (Index : Type) where
  | dispatch (index : Index) (frame : Frame)
  | call (call : Call)

/-- The event was one that a step can be. -/
def EndpointEvent.Admitted {Index : Type} : EndpointEvent Index → Prop
  | .dispatched _ _ outcome => outcome.Returned
  | .called exchange => exchange.outcome.Returned ∧ exchange.call.IsLocal

instance : DecidablePred Call.IsLocal
  | .authenticateCarrierAttachment _ _ _ => .isFalse id
  | .bindNegotiatedParameters _ | .openReliableFlow
  | .openReliableFlowWithId _ | .closeReliableFlow _ | .send _ _
  | .acknowledge _ | .receive _ | .finishReceiving _ _ _
  | .resetReliableFlow _ | .advanceTime _ | .beginTransition
  | .beginExplainedTransition _ _ _ | .negotiateTransitionVersion _ _
  | .completeTransition => .isTrue trivial

instance {Index : Type} (event : EndpointEvent Index) :
    Decidable event.Admitted :=
  match event with
  | .dispatched _ _ outcome => inferInstanceAs (Decidable outcome.Returned)
  | .called exchange =>
      inferInstanceAs
        (Decidable (exchange.outcome.Returned ∧ exchange.call.IsLocal))

namespace Endpoint

variable {Index : Type} [DecidableEq Index]

/-- Makes the moves one after the other and records every event. -/
def runMoves (hmac : Hmac) :
    Endpoint Index → List (Move Index) →
      List (EndpointEvent Index) × Endpoint Index
  | endpoint, [] => ([], endpoint)
  | endpoint, .dispatch index frame :: rest =>
      let (outcome, next) := endpoint.dispatch hmac index frame
      let (events, last) := runMoves hmac next rest
      (.dispatched index frame outcome :: events, last)
  | endpoint, .call call :: rest =>
      let (outcome, session) := endpoint.session.perform hmac call
      let (events, last) := runMoves hmac { endpoint with session } rest
      (.called ⟨call, outcome⟩ :: events, last)

/-- Moves that are all admitted make a run. -/
theorem runMoves_run (hmac : Hmac) (endpoint : Endpoint Index)
    (moves : List (Move Index))
    (admitted : ∀ event ∈ (runMoves hmac endpoint moves).1,
      event.Admitted) :
    Run (Step hmac) endpoint (runMoves hmac endpoint moves).1
      (runMoves hmac endpoint moves).2 := by
  induction moves generalizing endpoint with
  | nil => exact .nil
  | cons move rest induction =>
      cases move with
      | dispatch index frame =>
          have first : Step hmac endpoint
              (.dispatched index frame
                (endpoint.dispatch hmac index frame).1)
              (endpoint.dispatch hmac index frame).2 :=
            .dispatch rfl (admitted _ List.mem_cons_self)
          have later := induction (endpoint.dispatch hmac index frame).2
            fun event member =>
              admitted event (List.mem_cons_of_mem _ member)
          exact (Run.single first).append later
      | call call =>
          have allowed := admitted _ List.mem_cons_self
          have first : Step hmac endpoint
              (.called ⟨call, (endpoint.session.perform hmac call).1⟩)
              { endpoint with
                session := (endpoint.session.perform hmac call).2 } :=
            .call ⟨rfl, allowed.1⟩ allowed.2
          have later := induction
            { endpoint with
              session := (endpoint.session.perform hmac call).2 }
            fun event member =>
              admitted event (List.mem_cons_of_mem _ member)
          exact (Run.single first).append later

end Endpoint

/-! ## The endpoint of the dispatcher tests -/

/-- The old carrier 4 and its replacement 6 in front of one session. -/
def testEndpoint : Endpoint Bool :=
  .new ⟨0⟩ smallLimits (by decide) (fun _ => testSessionId)
    (fun replacement => if replacement then ⟨6⟩ else ⟨4⟩)
    fun _ => testAuthenticator

def testAttachFrame (epoch : Epoch) (attachmentId : AttachmentId) : Frame :=
  .attach testSessionId epoch attachmentId testParameters
    (testAuthenticator.prove testHmac testSessionId epoch attachmentId
      testParameters).bytes

/-- The old carrier attaches and opens flow 5, and a transition begins. -/
def retiringMoves : List (Move Bool) :=
  [.call (.bindNegotiatedParameters testParameters),
    .dispatch false (testAttachFrame ⟨0⟩ testAttachmentId),
    .dispatch false (.streamOpen ⟨5⟩),
    .call .beginTransition]

theorem retiring_run :
    Run (Endpoint.Step testHmac) testEndpoint
      (testEndpoint.runMoves testHmac retiringMoves).1
      (testEndpoint.runMoves testHmac retiringMoves).2 :=
  Endpoint.runMoves_run testHmac testEndpoint retiringMoves (by decide)

theorem dispatch_gated_retired :
    ∃ trace endpoint,
      Run (Endpoint.Step testHmac) testEndpoint trace endpoint ∧
      endpoint.session.retiringAttachment =
        some ⟨⟨4⟩, ⟨0⟩, testAttachmentId⟩ ∧
      endpoint.session.transition.retiring = some ⟨0⟩ ∧
      ∃ failure, (endpoint.dispatchers false).dispatch testHmac
        endpoint.session.completeTransition (.streamData ⟨5⟩ ⟨0⟩ ⟨0⟩ [7]) =
          (.err failure, endpoint.dispatchers false,
            endpoint.session.completeTransition) := by
  have gated := dispatch_gated testHmac _ _ _ _ _ _ _ _ retiring_run
  refine ⟨_, _, retiring_run, rfl, gated.1.2 _ rfl, ?_⟩
  exact gated.2.2.2.1 _ rfl rfl [] _ .nil (by simp) false _ rfl id

end Velum.Session
