import Velum.Crypto.Attachment
import Velum.Foundation.OrderedMap
import Velum.Session.Transition

/-!
# The session tracer

One value owns every delivery cursor of a logical session.  Each operation
returns its outcome together with the state it leaves behind, also when it
panics part of the way through.

Sizes are natural numbers with explicit overflow and underflow checks;
identifiers, ticks, and limits are 64-bit words.
-/

namespace Velum.Session

open Foundation
open Velum.Protocol
open Velum.Crypto

/-! ## Data -/

/-- Process-local carrier handle. -/
structure CarrierId where
  value : UInt64
  deriving DecidableEq, Repr

inductive CarrierKind where
  | quic
  | tls
  deriving DecidableEq, Repr

inductive CarrierClass where
  | quic
  | tls
  deriving DecidableEq, Repr

inductive TransitionReason where
  | primaryUnhealthy
  | primaryRecovered
  | lossThresholdExceeded
  | latencyThresholdExceeded
  deriving DecidableEq, Repr

inductive TransitionRejection where
  | incompatibleVersion
  | datagramFlow
  | flowControlExhausted
  | attachmentRejected
  deriving DecidableEq, Repr

inductive SessionEvent where
  | flowOpened
  | flowTimedOut
  | pendingLimitReached
  | duplicateIgnored
  | outOfOrderRejected
  | transitionStarted (source target : CarrierClass)
      (reason : TransitionReason)
  | transitionCompleted
  | transitionRejected (reason : TransitionRejection)
  deriving DecidableEq, Repr

structure Segment where
  flowId : FlowId
  epoch : Epoch
  sequence : Sequence
  bytes : List UInt8
  deriving DecidableEq, Repr

structure Acknowledgement where
  flowId : FlowId
  epoch : Epoch
  through : Sequence
  deriving DecidableEq, Repr

structure FlowLimits where
  maxFlows : UInt64
  maxPendingSegments : UInt64
  maxPendingBytes : UInt64
  maxSessionPendingSegments : UInt64
  maxSessionPendingBytes : UInt64
  maxPendingAge : UInt64
  maxEvents : UInt64
  deriving DecidableEq, Repr

/-- The assertions of `SessionTracer::new`. -/
structure FlowLimits.Accepted (limits : FlowLimits) : Prop where
  pendingSegments : 0 < limits.maxPendingSegments.toNat
  pendingBytes : 0 < limits.maxPendingBytes.toNat
  sessionPendingSegments : 0 < limits.maxSessionPendingSegments.toNat
  sessionPendingBytes : 0 < limits.maxSessionPendingBytes.toNat
  pendingAge : 0 < limits.maxPendingAge.toNat
  flows : 0 < limits.maxFlows.toNat
  events : 0 < limits.maxEvents.toNat

instance (limits : FlowLimits) : Decidable limits.Accepted :=
  decidable_of_iff
    (0 < limits.maxPendingSegments.toNat ∧
      0 < limits.maxPendingBytes.toNat ∧
      0 < limits.maxSessionPendingSegments.toNat ∧
      0 < limits.maxSessionPendingBytes.toNat ∧
      0 < limits.maxPendingAge.toNat ∧ 0 < limits.maxFlows.toNat ∧
      0 < limits.maxEvents.toNat)
    ⟨fun ⟨segments, bytes, sessionSegments, sessionBytes, age, flows,
        events⟩ =>
      ⟨segments, bytes, sessionSegments, sessionBytes, age, flows, events⟩,
    fun accepted =>
      ⟨accepted.pendingSegments, accepted.pendingBytes,
        accepted.sessionPendingSegments, accepted.sessionPendingBytes,
        accepted.pendingAge, accepted.flows, accepted.events⟩⟩

inductive TraceError where
  | unknownFlow
  | flowLimit
  | pendingSegmentLimit
  | pendingByteLimit
  | sessionPendingSegmentLimit
  | sessionPendingByteLimit
  | flowHasPendingSegments
  | flowFinished
  | invalidAcknowledgement
  | transitionInProgress
  | staleEpoch
  | futureEpoch
  deriving DecidableEq, Repr

structure CarrierAttachment where
  carrier : CarrierId
  epoch : Epoch
  attachmentId : AttachmentId
  parameters : NegotiatedParameters
  proof : AttachmentProof
  deriving DecidableEq

inductive AttachmentError where
  | missingNegotiation
  | negotiationMismatch
  | authentication (error : AttachmentAuthenticationError)
  | staleEpoch
  | futureEpoch
  | replay
  deriving DecidableEq, Repr

inductive AttachmentAcceptance where
  | accepted
  | alreadyAccepted
  deriving DecidableEq, Repr

inductive NegotiationBindingError where
  | alreadyBound
  | attachmentAlreadyAccepted
  deriving DecidableEq, Repr

inductive TransitionCompatibilityError where
  | noSharedVersion
  deriving DecidableEq, Repr

inductive ReceiveResult where
  | delivered (bytes : List UInt8)
  | duplicate
  | outOfOrder
  deriving DecidableEq, Repr

structure PendingSegment where
  segment : Segment
  expiresAt : UInt64
  deriving DecidableEq, Repr

structure ReliableFlow where
  nextSend : Sequence
  nextReceive : Sequence
  receiveFinalNext : Option Sequence
  pending : List PendingSegment
  pendingBytes : Nat
  deriving DecidableEq, Repr

def ReliableFlow.opened : ReliableFlow where
  nextSend := ⟨0⟩
  nextReceive := ⟨0⟩
  receiveFinalNext := none
  pending := []
  pendingBytes := 0

structure AcceptedCarrierAttachment where
  carrier : CarrierId
  epoch : Epoch
  attachmentId : AttachmentId
  deriving DecidableEq

/-- The identity under which an attachment would be recorded. -/
def CarrierAttachment.identity
    (attachment : CarrierAttachment) : AcceptedCarrierAttachment where
  carrier := attachment.carrier
  epoch := attachment.epoch
  attachmentId := attachment.attachmentId

/-- Owns all flow delivery cursors for one logical session.  The limits have
passed the assertions of `new`, so the event log always has room for one
entry. -/
structure SessionTracer where
  transition : TransitionState
  attachmentReplay : ReplayWindow
  negotiated : Option NegotiatedParameters
  acceptedAttachment : Option AcceptedCarrierAttachment
  retiringAttachment : Option AcceptedCarrierAttachment
  tick : UInt64
  nextFlow : UInt64
  pendingSegments : Nat
  pendingBytes : Nat
  limits : FlowLimits
  limitsAccepted : limits.Accepted
  flows : OrderedMap FlowId ReliableFlow
  events : List SessionEvent

namespace SessionTracer

def new (epoch : Epoch) (limits : FlowLimits)
    (limitsAccepted : limits.Accepted) : SessionTracer where
  transition := .new epoch
  attachmentReplay := .empty
  negotiated := none
  acceptedAttachment := none
  retiringAttachment := none
  tick := 0
  nextFlow := 0
  pendingSegments := 0
  pendingBytes := 0
  limits
  limitsAccepted
  flows := .empty
  events := []

def epoch (session : SessionTracer) : Epoch :=
  session.transition.current

/-- Appends to the bounded log, dropping its oldest entry when it is full. -/
def recordEvent (session : SessionTracer) (event : SessionEvent) :
    SessionTracer :=
  { session with
    events :=
      (if session.limits.maxEvents.toNat ≤ session.events.length then
        session.events.drop 1
      else session.events) ++ [event] }

def setFlow (session : SessionTracer) (flowId : FlowId)
    (flow : ReliableFlow) : SessionTracer :=
  { session with flows := session.flows.insert flowId flow }

/-! ## Carrier attachment state -/

def carrierAttachmentIsActive (session : SessionTracer)
    (carrier : CarrierId) : Bool :=
  match session.acceptedAttachment with
  | none => false
  | some attachment =>
      attachment.carrier = carrier && attachment.epoch = session.epoch

def carrierAttachmentIsDispatchable (session : SessionTracer)
    (carrier : CarrierId) : Bool :=
  session.carrierAttachmentIsActive carrier ||
    match session.retiringAttachment with
    | none => false
    | some attachment => attachment.carrier = carrier

def bindNegotiatedParameters (session : SessionTracer)
    (parameters : NegotiatedParameters) :
    Outcome Panic NegotiationBindingError Unit × SessionTracer :=
  if session.acceptedAttachment.isSome ||
      !session.attachmentReplay.isEmpty then
    (.err .attachmentAlreadyAccepted, session)
  else if session.negotiated.isSome then (.err .alreadyBound, session)
  else (.ok (), { session with negotiated := some parameters })

/-! ## Reliable flows -/

/-- The all-ones identifier is unavailable, so the successor is always
representable. -/
def openReliableFlowWithId (session : SessionTracer) (flowId : FlowId) :
    Outcome Panic TraceError Unit × SessionTracer :=
  if session.limits.maxFlows.toNat ≤ session.flows.size then
    (.err .flowLimit, session)
  else if flowId.value < session.nextFlow ||
      flowId.value = 0xffffffffffffffff then
    (.err .flowFinished, session)
  else
    (.ok (),
      { session with
        nextFlow := flowId.value + 1
        flows := session.flows.insert flowId .opened }.recordEvent
          .flowOpened)

def openReliableFlow (session : SessionTracer) :
    Outcome Panic TraceError FlowId × SessionTracer :=
  let flowId : FlowId := ⟨session.nextFlow⟩
  let (outcome, after) := session.openReliableFlowWithId flowId
  (outcome.bimap (fun _ => flowId) id, after)

def closeReliableFlow (session : SessionTracer) (flowId : FlowId) :
    Outcome Panic TraceError Unit × SessionTracer :=
  match session.flows.get? flowId with
  | none => (.err .unknownFlow, session)
  | some flow =>
      if !flow.pending.isEmpty then (.err .flowHasPendingSegments, session)
      else (.ok (), { session with flows := session.flows.erase flowId })

/-- The mutations of `send` after its checks, in the order of the source.  A
panic leaves the writes that precede it. -/
def retain (session : SessionTracer) (flowId : FlowId) (flow : ReliableFlow)
    (bytes : List UInt8) :
    Outcome Panic TraceError Segment × SessionTracer :=
  let segment : Segment :=
    { flowId, epoch := session.epoch, sequence := flow.nextSend, bytes }
  match checkedAdd flow.nextSend.value 1 with
  | none => (.panic .sequenceExhausted, session)
  | some nextSend =>
      let numbered := { flow with nextSend := ⟨nextSend⟩ }
      match sizeAdd flow.pendingBytes bytes.length with
      | none =>
          (.panic .additionOverflow, session.setFlow flowId numbered)
      | some flowBytes =>
          let charged := { numbered with pendingBytes := flowBytes }
          match checkedAdd session.tick session.limits.maxPendingAge with
          | none =>
              (.panic .pendingTimeoutExhausted,
                session.setFlow flowId charged)
          | some expiresAt =>
              let queued := session.setFlow flowId
                { charged with
                  pending := flow.pending ++ [{ segment, expiresAt }] }
              match sizeAdd session.pendingSegments 1 with
              | none => (.panic .additionOverflow, queued)
              | some segments =>
                  let counted := { queued with pendingSegments := segments }
                  match sizeAdd session.pendingBytes bytes.length with
                  | none => (.panic .additionOverflow, counted)
                  | some sessionBytes =>
                      (.ok segment,
                        { counted with pendingBytes := sessionBytes })

def send (session : SessionTracer) (flowId : FlowId) (bytes : List UInt8) :
    Outcome Panic TraceError Segment × SessionTracer :=
  if !session.flows.contains flowId then (.err .unknownFlow, session)
  else if session.limits.maxSessionPendingSegments.toNat ≤
      session.pendingSegments then
    (.err .sessionPendingSegmentLimit,
      session.recordEvent .pendingLimitReached)
  else if bytes.length >
      session.limits.maxSessionPendingBytes.toNat -
        session.pendingBytes then
    (.err .sessionPendingByteLimit, session.recordEvent .pendingLimitReached)
  else
    match session.flows.get? flowId with
    | none => (.err .unknownFlow, session)
    | some flow =>
        if flow.pending.length = session.limits.maxPendingSegments.toNat then
          (.err .pendingSegmentLimit,
            session.recordEvent .pendingLimitReached)
        else if bytes.length >
            session.limits.maxPendingBytes.toNat - flow.pendingBytes then
          (.err .pendingByteLimit, session.recordEvent .pendingLimitReached)
        else session.retain flowId flow bytes

def requireValidEpoch (session : SessionTracer) (epoch : Epoch) :
    Except TraceError Unit :=
  match session.transition.validate epoch with
  | .current => .ok ()
  | .retiring => .ok ()
  | .stale => .error .staleEpoch
  | .future => .error .futureEpoch

end SessionTracer

/-- The release loop of `acknowledge` over a queue: pops from the front while
the sequence is covered.  Returns the released counts and the flow, which is
updated in place. -/
def releaseThrough (through : Sequence) :
    List PendingSegment → ReliableFlow → Nat → Nat →
      Outcome Panic Empty (Nat × Nat) × ReliableFlow
  | [], flow, segments, bytes =>
      (.ok (segments, bytes), { flow with pending := [] })
  | front :: rest, flow, segments, bytes =>
      if front.segment.sequence ≤ through then
        let popped := { flow with pending := rest }
        match sizeSub flow.pendingBytes front.segment.bytes.length with
        | none => (.panic .subtractionOverflow, popped)
        | some left =>
            let released := { popped with pendingBytes := left }
            match sizeAdd segments 1 with
            | none => (.panic .additionOverflow, released)
            | some segments' =>
                match sizeAdd bytes front.segment.bytes.length with
                | none => (.panic .additionOverflow, released)
                | some bytes' =>
                    releaseThrough through rest released segments' bytes'
      else
        (.ok (segments, bytes), { flow with pending := front :: rest })

namespace SessionTracer

/-- Returns released memory to the session counters. -/
def releaseCounts {Error : Type} (session : SessionTracer)
    (segments bytes : Nat) : Outcome Panic Error Unit × SessionTracer :=
  match sizeSub session.pendingSegments segments with
  | none => (.panic .segmentAccounting, session)
  | some remaining =>
      let counted := { session with pendingSegments := remaining }
      match sizeSub session.pendingBytes bytes with
      | none => (.panic .byteAccounting, counted)
      | some remainingBytes =>
          (.ok (), { counted with pendingBytes := remainingBytes })

/-- Applies a cumulative acknowledgement for every sequence up to
`through`. -/
def acknowledge (session : SessionTracer)
    (acknowledgement : Acknowledgement) :
    Outcome Panic TraceError Unit × SessionTracer :=
  match session.requireValidEpoch acknowledgement.epoch with
  | .error failure => (.err failure, session)
  | .ok () =>
      match session.flows.get? acknowledgement.flowId with
      | none => (.err .unknownFlow, session)
      | some flow =>
          if flow.nextSend ≤ acknowledgement.through then
            (.err .invalidAcknowledgement, session)
          else if flow.pending.any fun pending =>
              pending.segment.sequence ≤ acknowledgement.through &&
                acknowledgement.epoch < pending.segment.epoch then
            (.err .invalidAcknowledgement, session)
          else
            match releaseThrough acknowledgement.through flow.pending flow
                0 0 with
            | (.ok (segments, bytes), released) =>
                (session.setFlow acknowledgement.flowId
                  released).releaseCounts segments bytes
            | (.err impossible, _) => nomatch impossible
            | (.panic cause, released) =>
                (.panic cause,
                  session.setFlow acknowledgement.flowId released)

def receive (session : SessionTracer) (segment : Segment) :
    Outcome Panic TraceError ReceiveResult × SessionTracer :=
  match session.requireValidEpoch segment.epoch with
  | .error failure => (.err failure, session)
  | .ok () =>
      match session.flows.get? segment.flowId with
      | none => (.err .unknownFlow, session)
      | some flow =>
          if flow.receiveFinalNext.any fun finalNext =>
              finalNext ≤ segment.sequence then
            (.err .flowFinished, session)
          else if segment.sequence < flow.nextReceive then
            (.ok .duplicate, session.recordEvent .duplicateIgnored)
          else if flow.nextReceive < segment.sequence then
            (.ok .outOfOrder, session.recordEvent .outOfOrderRejected)
          else
            match checkedAdd flow.nextReceive.value 1 with
            | none => (.panic .sequenceExhausted, session)
            | some next =>
                (.ok (.delivered segment.bytes),
                  session.setFlow segment.flowId
                    { flow with nextReceive := ⟨next⟩ })

/-- Records a peer's exclusive final receive cursor. -/
def finishReceiving (session : SessionTracer) (flowId : FlowId)
    (epoch : Epoch) (finalNextSequence : Sequence) :
    Outcome Panic TraceError Unit × SessionTracer :=
  match session.requireValidEpoch epoch with
  | .error failure => (.err failure, session)
  | .ok () =>
      match session.flows.get? flowId with
      | none => (.err .unknownFlow, session)
      | some flow =>
          if finalNextSequence < flow.nextReceive then
            (.err .flowFinished, session)
          else
            match flow.receiveFinalNext with
            | some existing =>
                if existing = finalNextSequence then (.ok (), session)
                else (.err .flowFinished, session)
            | none =>
                (.ok (), session.setFlow flowId
                  { flow with receiveFinalNext := some finalNextSequence })

/-- Removes a flow and returns its retained memory to the session. -/
def releaseFlow {Error : Type} (session : SessionTracer) (flowId : FlowId)
    (flow : ReliableFlow) : Outcome Panic Error Unit × SessionTracer :=
  { session with flows := session.flows.erase flowId }.releaseCounts
    flow.pending.length flow.pendingBytes

def resetReliableFlow (session : SessionTracer) (flowId : FlowId) :
    Outcome Panic TraceError Unit × SessionTracer :=
  match session.flows.get? flowId with
  | none => (.err .unknownFlow, session)
  | some flow => session.releaseFlow flowId flow

def pending (session : SessionTracer) (flowId : FlowId) :
    Except TraceError (List Segment) :=
  match session.flows.get? flowId with
  | none => .error .unknownFlow
  | some flow => .ok (flow.pending.map fun pending => pending.segment)

/-- Reissues every unacknowledged segment on the current epoch. -/
def resumeUnacknowledged (session : SessionTracer) (flowId : FlowId) :
    Except TraceError (List Segment) :=
  match session.flows.get? flowId with
  | none => .error .unknownFlow
  | some flow =>
      .ok (flow.pending.map fun pending =>
        { pending.segment with epoch := session.epoch })

/-! ## Time -/

/-- Flows whose oldest unacknowledged segment has expired, in key order. -/
def timedOut (session : SessionTracer) : List FlowId :=
  (session.flows.entries.filter fun entry =>
    entry.2.pending.head?.any fun oldest =>
      oldest.expiresAt ≤ session.tick).map Prod.fst

def removeTimedOut : List FlowId → SessionTracer →
    Outcome Panic Empty Unit × SessionTracer
  | [], session => (.ok (), session)
  | flowId :: rest, session =>
      match session.flows.get? flowId with
      | none => (.panic .timedOutFlowMissing, session)
      | some flow =>
          match (session.releaseFlow flowId flow :
              Outcome Panic Empty Unit × SessionTracer) with
          | (.ok (), removed) => removeTimedOut rest removed
          | (.err impossible, _) => nomatch impossible
          | (.panic cause, removed) => (.panic cause, removed)

/-- Advances deterministic time and removes the flows that timed out. -/
def advanceTime (session : SessionTracer) (ticks : UInt64) :
    Outcome Panic Empty (List FlowId) × SessionTracer :=
  match checkedAdd session.tick ticks with
  | none => (.panic .sessionTickExhausted, session)
  | some tick =>
      let ticked := { session with tick }
      let expired := ticked.timedOut
      match removeTimedOut expired ticked with
      | (.ok (), removed) =>
          (.ok expired, expired.foldl
            (fun session _ => session.recordEvent .flowTimedOut) removed)
      | (.err impossible, _) => nomatch impossible
      | (.panic cause, removed) => (.panic cause, removed)

/-! ## Transitions and attachments -/

/-- Opens a one-epoch receive window for traffic still in flight on the
retiring carrier. -/
def beginTransition (session : SessionTracer) :
    Outcome Panic TraceError Epoch × SessionTracer :=
  match session.transition.advance with
  | (.ok none, transition) =>
      (.err .transitionInProgress, { session with transition })
  | (.ok (some next), transition) =>
      (.ok next,
        { session with
          transition
          retiringAttachment := session.acceptedAttachment
          acceptedAttachment := none })
  | (.err impossible, _) => nomatch impossible
  | (.panic cause, transition) =>
      (.panic cause, { session with transition })

def carrierClass : CarrierKind → CarrierClass
  | .quic => .quic
  | .tls => .tls

def beginExplainedTransition (session : SessionTracer)
    (source target : CarrierKind) (reason : TransitionReason) :
    Outcome Panic TraceError Epoch × SessionTracer :=
  match session.beginTransition with
  | (.ok epoch, begun) =>
      (.ok epoch, begun.recordEvent (.transitionStarted
        (carrierClass source) (carrierClass target) reason))
  | (.err failure, begun) => (.err failure, begun)
  | (.panic cause, begun) => (.panic cause, begun)

def negotiateTransitionVersion (session : SessionTracer)
    (localRange peer : VersionRange) :
    Outcome Panic TransitionCompatibilityError UInt16 × SessionTracer :=
  match localRange.negotiate peer with
  | some version => (.ok version, session)
  | none =>
      (.err .noSharedVersion,
        session.recordEvent (.transitionRejected .incompatibleVersion))

def rejectAttachment (session : SessionTracer) (error : AttachmentError) :
    Outcome Panic AttachmentError AttachmentAcceptance × SessionTracer :=
  (.err error,
    session.recordEvent (.transitionRejected .attachmentRejected))

def authenticateCarrierAttachment (hmac : Hmac) (session : SessionTracer)
    (authenticator : AttachmentAuthenticator) (sessionId : SessionId)
    (attachment : CarrierAttachment) :
    Outcome Panic AttachmentError AttachmentAcceptance × SessionTracer :=
  match session.negotiated with
  | none => (.err .missingNegotiation, session)
  | some negotiated =>
      if attachment.parameters ≠ negotiated then
        session.rejectAttachment .negotiationMismatch
      else
        match session.transition.validate attachment.epoch with
        | .retiring => session.rejectAttachment .staleEpoch
        | .stale => session.rejectAttachment .staleEpoch
        | .future => session.rejectAttachment .futureEpoch
        | .current =>
            match authenticator.verify hmac sessionId attachment.epoch
                attachment.attachmentId negotiated attachment.proof with
            | .error failure =>
                session.rejectAttachment (.authentication failure)
            | .ok () =>
                if session.acceptedAttachment =
                    some attachment.identity then
                  (.ok .alreadyAccepted, session)
                else
                  match session.attachmentReplay.accept
                      attachment.epoch with
                  | (false, _) => session.rejectAttachment .replay
                  | (true, attachmentReplay) =>
                      (.ok .accepted,
                        { session with
                          attachmentReplay
                          acceptedAttachment :=
                            some attachment.identity })

/-- Closes the retiring epoch after its carrier detaches. -/
def completeTransition (session : SessionTracer) : SessionTracer :=
  { session with
    transition := session.transition.retirePrevious
    retiringAttachment := none }.recordEvent .transitionCompleted

end SessionTracer

end Velum.Session
