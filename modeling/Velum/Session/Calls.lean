import Velum.Session.Effects

/-!
# Calls on a session and their runs

A run of a session is a sequence of calls with their outcomes.  A call that
panics ends the run, so only calls that returned are recorded.  Every call of
a run is explained by primitive effects that it is permitted to have.
-/

namespace Velum.Session

open Foundation
open Velum.Protocol
open Velum.Crypto

/-- The mutating operations of `SessionTracer`. -/
inductive Call where
  | bindNegotiatedParameters (parameters : NegotiatedParameters)
  | openReliableFlow
  | openReliableFlowWithId (flowId : FlowId)
  | closeReliableFlow (flowId : FlowId)
  | send (flowId : FlowId) (bytes : List UInt8)
  | acknowledge (acknowledgement : Acknowledgement)
  | receive (segment : Segment)
  | finishReceiving (flowId : FlowId) (epoch : Epoch)
      (finalNextSequence : Sequence)
  | resetReliableFlow (flowId : FlowId)
  | advanceTime (ticks : UInt64)
  | beginTransition
  | beginExplainedTransition (source target : CarrierKind)
      (reason : TransitionReason)
  | negotiateTransitionVersion (localRange peer : VersionRange)
  | authenticateCarrierAttachment (authenticator : AttachmentAuthenticator)
      (sessionId : SessionId) (attachment : CarrierAttachment)
  | completeTransition
  deriving DecidableEq

/-- Values returned by the calls. -/
inductive Answer where
  | done
  | flow (flowId : FlowId)
  | segment (segment : Segment)
  | received (result : ReceiveResult)
  | timedOut (flows : List FlowId)
  | epoch (epoch : Epoch)
  | version (version : UInt16)
  | attachment (acceptance : AttachmentAcceptance)
  deriving DecidableEq

inductive CallError where
  | binding (error : NegotiationBindingError)
  | trace (error : TraceError)
  | compatibility (error : TransitionCompatibilityError)
  | attachment (error : AttachmentError)
  deriving DecidableEq, Repr

abbrev CallOutcome := Outcome Panic CallError Answer

/-- One call with the outcome its caller saw. -/
structure Exchange where
  call : Call
  outcome : CallOutcome
  deriving DecidableEq

namespace SessionTracer

/-- Tags the typed result of an operation. -/
def tag {Error Value : Type} (onValue : Value → Answer)
    (onError : Error → CallError)
    (result : Outcome Panic Error Value × SessionTracer) :
    CallOutcome × SessionTracer :=
  (result.1.bimap onValue onError, result.2)

def perform (hmac : Hmac) (session : SessionTracer) :
    Call → CallOutcome × SessionTracer
  | .bindNegotiatedParameters parameters =>
      tag (fun _ => .done) .binding
        (session.bindNegotiatedParameters parameters)
  | .openReliableFlow => tag .flow .trace session.openReliableFlow
  | .openReliableFlowWithId flowId =>
      tag (fun _ => .done) .trace (session.openReliableFlowWithId flowId)
  | .closeReliableFlow flowId =>
      tag (fun _ => .done) .trace (session.closeReliableFlow flowId)
  | .send flowId bytes => tag .segment .trace (session.send flowId bytes)
  | .acknowledge acknowledgement =>
      tag (fun _ => .done) .trace (session.acknowledge acknowledgement)
  | .receive segment => tag .received .trace (session.receive segment)
  | .finishReceiving flowId epoch finalNextSequence =>
      tag (fun _ => .done) .trace
        (session.finishReceiving flowId epoch finalNextSequence)
  | .resetReliableFlow flowId =>
      tag (fun _ => .done) .trace (session.resetReliableFlow flowId)
  | .advanceTime ticks =>
      tag .timedOut Empty.elim (session.advanceTime ticks)
  | .beginTransition => tag .epoch .trace session.beginTransition
  | .beginExplainedTransition source target reason =>
      tag .epoch .trace
        (session.beginExplainedTransition source target reason)
  | .negotiateTransitionVersion localRange peer =>
      tag .version .compatibility
        (session.negotiateTransitionVersion localRange peer)
  | .authenticateCarrierAttachment authenticator sessionId attachment =>
      tag .attachment .attachment
        (session.authenticateCarrierAttachment hmac authenticator sessionId
          attachment)
  | .completeTransition => (.ok .done, session.completeTransition)

/-- A call that returned, as a step between session states. -/
def Step (hmac : Hmac) (before : SessionTracer) (exchange : Exchange)
    (after : SessionTracer) : Prop :=
  before.perform hmac exchange.call = (exchange.outcome, after) ∧
    exchange.outcome.Returned

/-- States of a session created by `new` and driven by any calls. -/
def Live (hmac : Hmac) (session : SessionTracer) : Prop :=
  ∃ (epoch : Epoch) (limits : FlowLimits) (accepted : limits.Accepted),
    Reachable (Step hmac) (new epoch limits accepted) session

end SessionTracer

/-- The effects a call with this outcome is permitted to have. -/
def Permits : Call → CallOutcome → Action → Prop
  | _, _, .noted _ => True
  | .bindNegotiatedParameters parameters, .ok _, .bound bound =>
      bound = parameters
  | .openReliableFlow, .ok (.flow flowId), .opened opened =>
      opened = flowId
  | .openReliableFlowWithId flowId, .ok _, .opened opened =>
      opened = flowId
  | .closeReliableFlow flowId, .ok _, .closed closed => closed = flowId
  | .send flowId bytes, .ok (.segment segment), .retained retained =>
      retained = segment ∧ segment.flowId = flowId ∧ segment.bytes = bytes
  | .acknowledge acknowledgement, .ok _, .released released =>
      released = acknowledgement
  | .receive segment, .ok (.received (.delivered _)), .delivered delivered =>
      delivered = segment
  | .finishReceiving flowId _ finalNext, .ok _, .finished flow final =>
      flow = flowId ∧ final = finalNext
  | .resetReliableFlow flowId, .ok _, .dropped dropped => dropped = flowId
  | .advanceTime _, .ok _, .ticked => True
  | .advanceTime _, .ok (.timedOut flows), .dropped dropped =>
      dropped ∈ flows
  | .beginTransition, .ok _, .begun => True
  | .beginExplainedTransition _ _ _, .ok _, .begun => True
  | .authenticateCarrierAttachment _ _ attachment,
      .ok (.attachment .accepted), .attached identity =>
      identity = attachment.identity
  | .completeTransition, .ok _, .completed => True
  | _, _, _ => False

/-- The call adds to a 64-bit counter. -/
def Call.Counts : Call → Prop
  | .send _ _ => True
  | .receive _ => True
  | .advanceTime _ => True
  | .beginTransition => True
  | .beginExplainedTransition _ _ _ => True
  | _ => False

/-- The call works on the send side of the flow. -/
def Call.SendsOn (flowId : FlowId) : Call → Prop
  | .send target _ => target = flowId
  | .acknowledge acknowledgement => acknowledgement.flowId = flowId
  | _ => False

/-- The call works on the receive cursor of the flow. -/
def Call.DeliversOn (flowId : FlowId) : Call → Prop
  | .receive segment => segment.flowId = flowId
  | _ => False

theorem Permits.sendsOn {call : Call} {outcome : CallOutcome}
    {action : Action} {flowId : FlowId}
    (permitted : Permits call outcome action)
    (sends : action.SendsOn flowId) : call.SendsOn flowId := by
  unfold Permits at permitted
  split at permitted <;> simp_all [Action.SendsOn, Call.SendsOn]

theorem Permits.deliversOn {call : Call} {outcome : CallOutcome}
    {action : Action} {flowId : FlowId}
    (permitted : Permits call outcome action)
    (delivers : action.DeliversOn flowId) : call.DeliversOn flowId := by
  unfold Permits at permitted
  split at permitted <;> simp_all [Action.DeliversOn, Call.DeliversOn]

namespace SessionTracer

/-- The call changed the session by effects it is permitted to have. -/
def Explained (call : Call) (outcome : CallOutcome)
    (before after : SessionTracer) : Prop :=
  ∃ actions, Run Effect before actions after ∧
    ∀ action ∈ actions, Permits call outcome action

theorem explained_of_quiet {call : Call} {outcome : CallOutcome}
    {before after : SessionTracer} (quiet : Quiet before after) :
    Explained call outcome before after := by
  obtain ⟨actions, run, noted⟩ := quiet.effects
  refine ⟨actions, run, ?_⟩
  intro action member
  obtain ⟨event, rfl⟩ := noted action member
  simp [Permits]

theorem explained_of_effect {call : Call} {outcome : CallOutcome}
    {action : Action} {before after : SessionTracer}
    (effect : Effect before action after)
    (permitted : Permits call outcome action) :
    Explained call outcome before after := by
  refine ⟨[action], .single effect, ?_⟩
  intro other member
  rw [List.mem_singleton.mp member]
  exact permitted

/-- An effect followed by an event record. -/
theorem explained_of_recorded {call : Call} {outcome : CallOutcome}
    {action : Action} {before middle : SessionTracer}
    (effect : Effect before action middle) (event : SessionEvent)
    (permitted : Permits call outcome action) :
    Explained call outcome before (middle.recordEvent event) := by
  refine ⟨[action, .noted event],
    (Run.single effect).append (.single (.noted event)), ?_⟩
  intro other member
  rcases List.mem_cons.mp member with rfl | recorded
  · exact permitted
  · rw [List.mem_singleton.mp recorded]
    simp [Permits]

/-- The typed result behind a tagged one. -/
theorem tag_eq_iff {Error Value : Type} {onValue : Value → Answer}
    {onError : Error → CallError}
    {result : Outcome Panic Error Value × SessionTracer}
    {outcome : CallOutcome} {after : SessionTracer} :
    tag onValue onError result = (outcome, after) ↔
      ∃ typed, result = (typed, after) ∧
        typed.bimap onValue onError = outcome := by
  obtain ⟨typed, reached⟩ := result
  constructor
  · intro tagged
    cases tagged
    exact ⟨typed, rfl, rfl⟩
  · intro found
    obtain ⟨_, same, rfl⟩ := found
    cases same
    rfl

theorem panic_of_tag {Error Value : Type} {onValue : Value → Answer}
    {onError : Error → CallError}
    {result : Outcome Panic Error Value × SessionTracer} {cause : Panic}
    {after : SessionTracer}
    (tagged : tag onValue onError result = (.panic cause, after)) :
    result = (.panic cause, after) := by
  obtain ⟨typed, same, stopped⟩ := tag_eq_iff.mp tagged
  rw [same, Outcome.bimap_eq_panic_iff.mp stopped]

/-- The effects of `advance_time`, when it returns the flows it removed. -/
private theorem explained_advanceTime {before after : SessionTracer}
    {ticks : UInt64} {expired : List FlowId}
    (effects : Run Effect before
      (.ticked :: expired.map .dropped ++
        expired.map fun _ => .noted .flowTimedOut) after) :
    Explained (.advanceTime ticks) (.ok (.timedOut expired)) before
      after := by
  refine ⟨_, effects, ?_⟩
  intro action member
  simp only [List.cons_append, List.mem_cons, List.mem_append,
    List.mem_map] at member
  rcases member with rfl | ⟨flowId, present, rfl⟩ | ⟨_, _, rfl⟩
  · simp [Permits]
  · exact present
  · simp [Permits]

/-- Every call that returns is explained by effects permitted to it. -/
theorem Step.explained {hmac : Hmac} {before after : SessionTracer}
    {exchange : Exchange} (step : Step hmac before exchange after) :
    Explained exchange.call exchange.outcome before after := by
  obtain ⟨call, outcome⟩ := exchange
  obtain ⟨called, returned⟩ := step
  cases call with
  | bindNegotiatedParameters parameters =>
      obtain ⟨typed, result, rfl⟩ := tag_eq_iff.mp called
      rcases bindNegotiatedParameters_cases result with
        ⟨_, rfl⟩ | ⟨rfl, effect⟩
      · exact explained_of_quiet (.inl rfl)
      · exact explained_of_effect effect rfl
  | openReliableFlow =>
      obtain ⟨typed, result, rfl⟩ := tag_eq_iff.mp called
      obtain ⟨inner, opening, rfl⟩ := openReliableFlow_eq_iff.mp result
      rcases openReliableFlowWithId_cases opening with
        ⟨_, rfl⟩ | ⟨rfl, opened, effect, rfl⟩
      · exact explained_of_quiet (.inl rfl)
      · exact explained_of_recorded effect _ rfl
  | openReliableFlowWithId flowId =>
      obtain ⟨typed, result, rfl⟩ := tag_eq_iff.mp called
      rcases openReliableFlowWithId_cases result with
        ⟨_, rfl⟩ | ⟨rfl, opened, effect, rfl⟩
      · exact explained_of_quiet (.inl rfl)
      · exact explained_of_recorded effect _ rfl
  | closeReliableFlow flowId =>
      obtain ⟨typed, result, rfl⟩ := tag_eq_iff.mp called
      rcases closeReliableFlow_cases result with ⟨_, rfl⟩ | ⟨rfl, effect⟩
      · exact explained_of_quiet (.inl rfl)
      · exact explained_of_effect effect rfl
  | send flowId bytes =>
      obtain ⟨typed, result, rfl⟩ := tag_eq_iff.mp called
      rcases send_cases result with
        ⟨_, quiet⟩ | ⟨_, rfl, _⟩ | ⟨segment, rfl, owned, same, effect⟩
      · exact explained_of_quiet quiet
      · exact absurd returned (by simp)
      · exact explained_of_effect effect ⟨rfl, owned, same⟩
  | acknowledge acknowledgement =>
      obtain ⟨typed, result, rfl⟩ := tag_eq_iff.mp called
      rcases acknowledge_cases result with
        ⟨_, rfl⟩ | ⟨_, _, rfl, _⟩ | ⟨rfl, effect⟩
      · exact explained_of_quiet (.inl rfl)
      · exact absurd returned (by simp)
      · exact explained_of_effect effect rfl
  | receive segment =>
      obtain ⟨typed, result, rfl⟩ := tag_eq_iff.mp called
      rcases receive_cases result with
        ⟨_, rfl⟩ | ⟨rfl, rfl⟩ | ⟨rfl, rfl⟩ | rfl | ⟨rfl, effect⟩
      · exact explained_of_quiet (.inl rfl)
      · exact explained_of_quiet (.inr ⟨_, rfl⟩)
      · exact explained_of_quiet (.inr ⟨_, rfl⟩)
      · exact absurd returned (by simp)
      · exact explained_of_effect effect rfl
  | finishReceiving flowId epoch finalNext =>
      obtain ⟨typed, result, rfl⟩ := tag_eq_iff.mp called
      rcases finishReceiving_cases result with ⟨_, rfl⟩ | ⟨rfl, effect⟩
      · exact explained_of_quiet (.inl rfl)
      · exact explained_of_effect effect ⟨rfl, rfl⟩
  | resetReliableFlow flowId =>
      obtain ⟨typed, result, rfl⟩ := tag_eq_iff.mp called
      rcases resetReliableFlow_cases result with
        ⟨_, rfl⟩ | ⟨_, _, rfl, _⟩ | ⟨rfl, effect⟩
      · exact explained_of_quiet (.inl rfl)
      · exact absurd returned (by simp)
      · exact explained_of_effect effect rfl
  | advanceTime ticks =>
      obtain ⟨typed, result, rfl⟩ := tag_eq_iff.mp called
      rcases advanceTime_cases result with
        rfl | ⟨_, _, _, _, _, rfl, _⟩ | ⟨expired, rfl, effects⟩
      · exact absurd returned (by simp)
      · exact absurd returned (by simp)
      · exact explained_advanceTime effects
  | beginTransition =>
      obtain ⟨typed, result, rfl⟩ := tag_eq_iff.mp called
      rcases beginTransition_cases result with
        ⟨_, _, rfl⟩ | rfl | ⟨rfl, effect⟩
      · exact explained_of_quiet (.inl rfl)
      · exact absurd returned (by simp)
      · exact explained_of_effect effect trivial
  | beginExplainedTransition source target reason =>
      obtain ⟨typed, result, rfl⟩ := tag_eq_iff.mp called
      rcases beginExplainedTransition_cases result with
        ⟨_, rfl⟩ | rfl | ⟨rfl, begun, event, effect, rfl⟩
      · exact explained_of_quiet (.inl rfl)
      · exact absurd returned (by simp)
      · exact explained_of_recorded effect event trivial
  | negotiateTransitionVersion localRange peer =>
      obtain ⟨typed, result, rfl⟩ := tag_eq_iff.mp called
      exact explained_of_quiet (negotiateTransitionVersion_cases result).2
  | authenticateCarrierAttachment authenticator sessionId attachment =>
      obtain ⟨typed, result, rfl⟩ := tag_eq_iff.mp called
      rcases authenticateCarrierAttachment_cases result with
        ⟨_, quiet, _⟩ | ⟨rfl, rfl, _⟩ | ⟨rfl, _, _, _, effect⟩
      · exact explained_of_quiet quiet
      · exact explained_of_quiet (.inl rfl)
      · exact explained_of_effect effect rfl
  | completeTransition =>
      cases called
      refine ⟨_, completeTransition_effects before, ?_⟩
      intro action member
      simp only [List.mem_cons, List.not_mem_nil, or_false] at member
      rcases member with rfl | rfl
      · simp [Permits]
      · simp [Permits]

/-- A call panics because a counter that it adds to is exhausted, or because
it met a flow that the accounts do not cover. -/
theorem perform_panic_cases {hmac : Hmac} {session after : SessionTracer}
    {call : Call} {cause : Panic}
    (called : session.perform hmac call = (.panic cause, after)) :
    (call.Counts ∧ cause.Exhaustion) ∨
      ∃ actions middle flowId flow, Run Effect session actions middle ∧
        middle.flows.get? flowId = some flow ∧ middle.Overdrawn flow := by
  cases call with
  | bindNegotiatedParameters parameters =>
      have result := panic_of_tag called
      rcases bindNegotiatedParameters_cases result with
        ⟨failed, _⟩ | ⟨impossible, _⟩
      · exact absurd failed (by simp)
      · cases impossible
  | openReliableFlow =>
      have result := panic_of_tag called
      obtain ⟨inner, opening, stoppedInner⟩ :=
        openReliableFlow_eq_iff.mp result
      obtain rfl := Outcome.bimap_eq_panic_iff.mp stoppedInner
      rcases openReliableFlowWithId_cases opening with
        ⟨failed, _⟩ | ⟨impossible, _⟩
      · exact absurd failed (by simp)
      · cases impossible
  | openReliableFlowWithId flowId =>
      have result := panic_of_tag called
      rcases openReliableFlowWithId_cases result with
        ⟨failed, _⟩ | ⟨impossible, _⟩
      · exact absurd failed (by simp)
      · cases impossible
  | closeReliableFlow flowId =>
      have result := panic_of_tag called
      rcases closeReliableFlow_cases result with
        ⟨failed, _⟩ | ⟨impossible, _⟩
      · exact absurd failed (by simp)
      · cases impossible
  | send flowId bytes =>
      have result := panic_of_tag called
      rcases send_cases result with
        ⟨failed, _⟩ | ⟨_, same, reason⟩ | ⟨_, impossible, _⟩
      · exact absurd failed (by simp)
      · cases same
        rcases reason with exhausted | ⟨flow, found, overdrawn⟩
        · exact .inl ⟨trivial, exhausted⟩
        · exact .inr ⟨[], session, flowId, flow, .nil, found, overdrawn⟩
      · cases impossible
  | acknowledge acknowledgement =>
      have result := panic_of_tag called
      rcases acknowledge_cases result with
        ⟨failed, _⟩ | ⟨_, flow, _, found, overdrawn⟩ | ⟨impossible, _⟩
      · exact absurd failed (by simp)
      · exact .inr ⟨[], session, _, flow, .nil, found, overdrawn⟩
      · cases impossible
  | receive segment =>
      have result := panic_of_tag called
      rcases receive_cases result with
        ⟨failed, _⟩ | ⟨impossible, _⟩ | ⟨impossible, _⟩ | same |
        ⟨impossible, _⟩
      · exact absurd failed (by simp)
      · cases impossible
      · cases impossible
      · cases same
        exact .inl ⟨trivial, trivial⟩
      · cases impossible
  | finishReceiving flowId epoch finalNext =>
      have result := panic_of_tag called
      rcases finishReceiving_cases result with
        ⟨returned, _⟩ | ⟨impossible, _⟩
      · exact absurd returned (by simp)
      · cases impossible
  | resetReliableFlow flowId =>
      have result := panic_of_tag called
      rcases resetReliableFlow_cases result with
        ⟨failed, _⟩ | ⟨_, flow, _, found, overdrawn⟩ | ⟨impossible, _⟩
      · exact absurd failed (by simp)
      · exact .inr ⟨[], session, flowId, flow, .nil, found, overdrawn⟩
      · cases impossible
  | advanceTime ticks =>
      have result := panic_of_tag called
      rcases advanceTime_cases result with
        same | ⟨_, _, flowId, flow, middle, _, run, found, overdrawn⟩ |
        ⟨_, impossible, _⟩
      · cases same
        exact .inl ⟨trivial, trivial⟩
      · exact .inr ⟨_, middle, flowId, flow, run, found, overdrawn⟩
      · cases impossible
  | beginTransition =>
      have result := panic_of_tag called
      rcases beginTransition_cases result with
        ⟨failed, _⟩ | same | ⟨impossible, _⟩
      · exact absurd failed (by simp)
      · cases same
        exact .inl ⟨trivial, trivial⟩
      · cases impossible
  | beginExplainedTransition source target reason =>
      have result := panic_of_tag called
      rcases beginExplainedTransition_cases result with
        ⟨failed, _⟩ | same | ⟨impossible, _⟩
      · exact absurd failed (by simp)
      · cases same
        exact .inl ⟨trivial, trivial⟩
      · cases impossible
  | negotiateTransitionVersion localRange peer =>
      have result := panic_of_tag called
      exact absurd (negotiateTransitionVersion_cases result).1 (by simp)
  | authenticateCarrierAttachment authenticator sessionId attachment =>
      have result := panic_of_tag called
      rcases authenticateCarrierAttachment_cases result with
        ⟨failed, _⟩ | ⟨impossible, _⟩ | ⟨impossible, _⟩
      · exact absurd failed (by simp)
      · cases impossible
      · cases impossible
  | completeTransition => cases called

/-- An invariant of the permitted effects is an invariant of the call. -/
theorem Step.invariant_on {hmac : Hmac} {before after : SessionTracer}
    {exchange : Exchange} (holds : SessionTracer → Prop)
    (preserved : ∀ {session action next}, holds session →
      Permits exchange.call exchange.outcome action →
      Effect session action next → holds next)
    (held : holds before) (step : Step hmac before exchange after) :
    holds after := by
  obtain ⟨actions, run, permitted⟩ := step.explained
  exact run.invariant_on held preserved permitted

/-- An invariant of the effects is an invariant of the calls. -/
theorem Step.invariant {hmac : Hmac} {holds : SessionTracer → Prop}
    (preserved : ∀ {session action next}, holds session →
      Effect session action next → holds next)
    {before after : SessionTracer} {exchange : Exchange}
    (held : holds before) (step : Step hmac before exchange after) :
    holds after := by
  obtain ⟨actions, run, _⟩ := step.explained
  exact run.invariant held preserved

theorem Live.invariant {hmac : Hmac} {holds : SessionTracer → Prop}
    (fresh : ∀ epoch limits accepted, holds (new epoch limits accepted))
    (preserved : ∀ {session action next}, holds session →
      Effect session action next → holds next)
    {session : SessionTracer} (live : Live hmac session) :
    holds session := by
  obtain ⟨epoch, limits, accepted, reached⟩ := live
  exact reached.invariant (fresh epoch limits accepted)
    (Step.invariant preserved)

theorem Live.step {hmac : Hmac} {before after : SessionTracer}
    {exchange : Exchange} (live : Live hmac before)
    (step : Step hmac before exchange after) : Live hmac after := by
  obtain ⟨epoch, limits, accepted, reached⟩ := live
  exact ⟨epoch, limits, accepted, reached.snoc step⟩

/-- Makes the calls one after the other and records every exchange. -/
def runCalls (hmac : Hmac) :
    SessionTracer → List Call → List Exchange × SessionTracer
  | session, [] => ([], session)
  | session, call :: rest =>
      let (outcome, next) := session.perform hmac call
      let (exchanges, last) := runCalls hmac next rest
      (⟨call, outcome⟩ :: exchanges, last)

theorem call_mem_of_runCalls {hmac : Hmac} {session : SessionTracer}
    {calls : List Call} {exchange : Exchange}
    (recorded : exchange ∈ (runCalls hmac session calls).1) :
    exchange.call ∈ calls := by
  induction calls generalizing session with
  | nil => cases recorded
  | cons call rest induction =>
      rcases List.mem_cons.mp recorded with rfl | later
      · exact List.mem_cons_self
      · exact List.mem_cons_of_mem _ (induction later)

/-- Calls that all return make a run. -/
theorem runCalls_run (hmac : Hmac) (session : SessionTracer)
    (calls : List Call)
    (returned : ∀ exchange ∈ (runCalls hmac session calls).1,
      exchange.outcome.Returned) :
    Run (Step hmac) session (runCalls hmac session calls).1
      (runCalls hmac session calls).2 := by
  induction calls generalizing session with
  | nil => exact .nil
  | cons call rest induction =>
      have first : Step hmac session
          ⟨call, (session.perform hmac call).1⟩
          (session.perform hmac call).2 :=
        ⟨rfl, returned _ List.mem_cons_self⟩
      have later := induction (session.perform hmac call).2
        fun exchange member =>
          returned exchange (List.mem_cons_of_mem _ member)
      exact (Run.single first).append later

end SessionTracer

/-- The limits of the dispatcher tests. -/
def smallLimits : FlowLimits where
  maxFlows := 4
  maxPendingSegments := 4
  maxPendingBytes := 64
  maxSessionPendingSegments := 8
  maxSessionPendingBytes := 128
  maxPendingAge := 4
  maxEvents := 8

theorem smallLimits_accepted : smallLimits.Accepted := by decide

/-! ## Calls that are refused -/

/-- The call failed, or it was a receive that did not deliver. -/
def Exchange.Refused (exchange : Exchange) : Prop :=
  exchange.outcome.Failed ∨
    ∃ segment, exchange.call = .receive segment ∧
      (exchange.outcome = .ok (.received .duplicate) ∨
        exchange.outcome = .ok (.received .outOfOrder))

/-- A refused call may add to the event log, and nothing else. -/
theorem Exchange.Refused.noted {exchange : Exchange} {action : Action}
    (refused : exchange.Refused)
    (permitted : Permits exchange.call exchange.outcome action) :
    ∃ event, action = .noted event := by
  obtain ⟨call, outcome⟩ := exchange
  rcases refused with failed | ⟨segment, rfl, rfl | rfl⟩
  · cases outcome with
    | ok answer => exact absurd failed (Outcome.not_failed_ok answer)
    | panic cause => exact absurd failed (Outcome.not_failed_panic cause)
    | err error =>
        unfold Permits at permitted
        split at permitted <;> simp_all
  · unfold Permits at permitted
    split at permitted <;> simp_all
  · unfold Permits at permitted
    split at permitted <;> simp_all

/-- A call that is refused leaves everything but the event log as it was. -/
theorem refused_call_keeps_session (hmac : Hmac) (session : SessionTracer)
    (call : Call) (outcome : CallOutcome) (after : SessionTracer)
    (called : session.perform hmac call = (outcome, after))
    (refused : Exchange.Refused ⟨call, outcome⟩) :
    after = { session with events := after.events } := by
  have returned : outcome.Returned := by
    rcases refused with failed | ⟨_, _, same | same⟩
    · cases outcome with
      | ok answer => trivial
      | err error => trivial
      | panic cause => exact absurd failed (Outcome.not_failed_panic cause)
    · change outcome = _ at same
      rw [same]
      trivial
    · change outcome = _ at same
      rw [same]
      trivial
  have step : SessionTracer.Step hmac session ⟨call, outcome⟩ after :=
    ⟨called, returned⟩
  apply step.invariant_on fun reached =>
    reached = { session with events := reached.events }
  · intro middle action next same permitted effect
    obtain ⟨event, rfl⟩ := refused.noted permitted
    cases effect
    rw [same]
    rfl
  · rfl

/-- A send above the byte limit of its flow is refused and logged. -/
theorem refused_call_keeps_session_send :
    ∃ session after : SessionTracer,
      session.send ⟨0⟩ (List.replicate 65 0) =
        (.err .pendingByteLimit, after) ∧
      after.events = [.flowOpened, .pendingLimitReached] ∧
      after = { session with events := after.events } := by
  let start := SessionTracer.new ⟨0⟩ smallLimits (by decide)
  let session := (SessionTracer.runCalls (.ofTags []) start
    [.openReliableFlow, .send ⟨0⟩ [1, 2]]).2
  have called : session.send ⟨0⟩ (List.replicate 65 0) =
      (.err .pendingByteLimit, session.recordEvent .pendingLimitReached) := by
    rfl
  refine ⟨session, _, called, rfl, ?_⟩
  exact refused_call_keeps_session (.ofTags []) session
    (.send ⟨0⟩ (List.replicate 65 0)) (.err (.trace .pendingByteLimit))
    (session.recordEvent .pendingLimitReached) rfl (.inl trivial)

end Velum.Session
