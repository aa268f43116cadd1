import Velum.Protocol.Frame
import Velum.Session.Attachment

/-!
# Dispatch of authenticated frames

A dispatcher belongs to one local carrier.  It maps each frame to at most one
call on the session, behind a gate on the carrier's attachment.  The gate and
the call together are all that a frame can do.
-/

namespace Velum.Session

open Foundation
open Velum.Protocol
open Velum.Crypto

inductive DispatchOutcome where
  | attachmentAccepted (response : Frame)
  | attachmentAlreadyAccepted (response : Frame)
  | flowOpened
  | acknowledged
  | delivered (bytes : List UInt8)
  | duplicate
  | outOfOrder
  | flowFinished
  | flowReset (error : ProtocolErrorCode)
  | connectionClosed (error : ProtocolErrorCode)
  | optionalFrameIgnored
  deriving DecidableEq

inductive DispatchError where
  | closed
  | carrierNotAttached
  | sessionMismatch
  | unexpectedFrame
  | attachment (error : AttachmentError)
  | trace (error : TraceError)
  deriving DecidableEq, Repr

/-- Per-carrier dispatch state.  The session is supplied by the caller. -/
structure SessionFrameDispatcher where
  sessionId : SessionId
  carrier : CarrierId
  authenticator : AttachmentAuthenticator
  closed : Bool
  deriving DecidableEq

abbrev Dispatched := Outcome Panic DispatchError DispatchOutcome

namespace SessionFrameDispatcher

def new (sessionId : SessionId) (carrier : CarrierId)
    (authenticator : AttachmentAuthenticator) : SessionFrameDispatcher :=
  { sessionId, carrier, authenticator, closed := false }

def requireActiveAttachment (dispatcher : SessionFrameDispatcher)
    (session : SessionTracer) : Except DispatchError Unit :=
  if session.carrierAttachmentIsActive dispatcher.carrier then .ok ()
  else .error .carrierNotAttached

def requireDispatchableAttachment (dispatcher : SessionFrameDispatcher)
    (session : SessionTracer) : Except DispatchError Unit :=
  if session.carrierAttachmentIsDispatchable dispatcher.carrier then .ok ()
  else .error .carrierNotAttached

def attach (hmac : Hmac) (dispatcher : SessionFrameDispatcher)
    (session : SessionTracer) (sessionId : SessionId) (epoch : Epoch)
    (attachmentId : AttachmentId) (parameters : NegotiatedParameters)
    (proof : List.Vector UInt8 32) : Dispatched × SessionTracer :=
  if sessionId ≠ dispatcher.sessionId then (.err .sessionMismatch, session)
  else
    let (outcome, after) := session.authenticateCarrierAttachment hmac
      dispatcher.authenticator dispatcher.sessionId
      { carrier := dispatcher.carrier
        epoch
        attachmentId
        parameters
        proof := ⟨proof⟩ }
    let response : Frame :=
      .attachAccepted dispatcher.sessionId epoch attachmentId
    (outcome.bimap
      (fun
        | .accepted => .attachmentAccepted response
        | .alreadyAccepted => .attachmentAlreadyAccepted response)
      .attachment, after)

/-- The outcome of a frame, the dispatcher, and the session after it. -/
def dispatch (hmac : Hmac) (dispatcher : SessionFrameDispatcher)
    (session : SessionTracer) (frame : Frame) :
    Dispatched × SessionFrameDispatcher × SessionTracer :=
  if dispatcher.closed then (.err .closed, dispatcher, session)
  else
    match frame with
    | .attach sessionId epoch attachmentId parameters proof =>
        let (outcome, after) := dispatcher.attach hmac session sessionId
          epoch attachmentId parameters proof
        (outcome, dispatcher, after)
    | .streamOpen flowId =>
        match dispatcher.requireActiveAttachment session with
        | .error failure => (.err failure, dispatcher, session)
        | .ok () =>
            let (outcome, after) := session.openReliableFlowWithId flowId
            (outcome.bimap (fun _ => .flowOpened) .trace, dispatcher, after)
    | .streamData flowId epoch sequence bytes =>
        match dispatcher.requireDispatchableAttachment session with
        | .error failure => (.err failure, dispatcher, session)
        | .ok () =>
            let (outcome, after) := session.receive
              { flowId, epoch, sequence, bytes }
            (outcome.bimap
              (fun
                | .delivered bytes => .delivered bytes
                | .duplicate => .duplicate
                | .outOfOrder => .outOfOrder)
              .trace, dispatcher, after)
    | .streamAcknowledgement flowId epoch through =>
        match dispatcher.requireDispatchableAttachment session with
        | .error failure => (.err failure, dispatcher, session)
        | .ok () =>
            let (outcome, after) := session.acknowledge
              { flowId, epoch, through }
            (outcome.bimap (fun _ => .acknowledged) .trace, dispatcher,
              after)
    | .streamFinish flowId epoch finalNextSequence =>
        match dispatcher.requireDispatchableAttachment session with
        | .error failure => (.err failure, dispatcher, session)
        | .ok () =>
            let (outcome, after) := session.finishReceiving flowId epoch
              finalNextSequence
            (outcome.bimap (fun _ => .flowFinished) .trace, dispatcher,
              after)
    | .streamReset flowId error =>
        match dispatcher.requireDispatchableAttachment session with
        | .error failure => (.err failure, dispatcher, session)
        | .ok () =>
            let (outcome, after) := session.resetReliableFlow flowId
            (outcome.bimap (fun _ => .flowReset error) .trace, dispatcher,
              after)
    | .connectionClose error =>
        match dispatcher.requireDispatchableAttachment session with
        | .error failure => (.err failure, dispatcher, session)
        | .ok () =>
            (.ok (.connectionClosed error), { dispatcher with closed := true },
              session)
    | .unknownOptional _ _ =>
        match dispatcher.requireDispatchableAttachment session with
        | .error failure => (.err failure, dispatcher, session)
        | .ok () => (.ok .optionalFrameIgnored, dispatcher, session)
    | .negotiationOffer _ => (.err .unexpectedFrame, dispatcher, session)
    | .negotiationAccept _ => (.err .unexpectedFrame, dispatcher, session)
    | .attachAccepted _ _ _ => (.err .unexpectedFrame, dispatcher, session)

/-! ## Frames as calls -/

/-- The call on the session that a frame asks for. -/
def callOf (dispatcher : SessionFrameDispatcher) : Frame → Option Call
  | .attach _ epoch attachmentId parameters proof =>
      some (.authenticateCarrierAttachment dispatcher.authenticator
        dispatcher.sessionId
        { carrier := dispatcher.carrier
          epoch
          attachmentId
          parameters
          proof := ⟨proof⟩ })
  | .streamOpen flowId => some (.openReliableFlowWithId flowId)
  | .streamData flowId epoch sequence bytes =>
      some (.receive { flowId, epoch, sequence, bytes })
  | .streamAcknowledgement flowId epoch through =>
      some (.acknowledge { flowId, epoch, through })
  | .streamFinish flowId epoch finalNextSequence =>
      some (.finishReceiving flowId epoch finalNextSequence)
  | .streamReset flowId _ => some (.resetReliableFlow flowId)
  | _ => none

/-- The gate in front of the call. -/
def Passes (dispatcher : SessionFrameDispatcher) (session : SessionTracer) :
    Frame → Prop
  | .attach sessionId _ _ _ _ => sessionId = dispatcher.sessionId
  | .streamOpen _ =>
      session.carrierAttachmentIsActive dispatcher.carrier = true
  | .negotiationOffer _ => False
  | .negotiationAccept _ => False
  | .attachAccepted _ _ _ => False
  | _ => session.carrierAttachmentIsDispatchable dispatcher.carrier = true

/-- What the outcome of a frame tells about the outcome of its call. -/
structure Reports (outcome : Dispatched) (answer : CallOutcome) :
    Prop where
  returned : outcome.Returned ↔ answer.Returned
  failed : outcome.Failed ↔ answer.Failed
  accepted : (∃ response, outcome = .ok (.attachmentAccepted response)) ↔
    answer = .ok (.attachment .accepted)
  alreadyAccepted :
    (∃ response, outcome = .ok (.attachmentAlreadyAccepted response)) ↔
      answer = .ok (.attachment .alreadyAccepted)
  notClosed : ∀ error, outcome ≠ .ok (.connectionClosed error)

/-- A translated result of an operation other than an attachment. -/
private theorem reports_of_stream {Error Value : Type}
    {typed : Outcome Panic Error Value} {onValue : Value → DispatchOutcome}
    {onError : Error → DispatchError} {tagValue : Value → Answer}
    {tagError : Error → CallError}
    (notAccepted : ∀ value response,
      onValue value ≠ .attachmentAccepted response)
    (notRepeated : ∀ value response,
      onValue value ≠ .attachmentAlreadyAccepted response)
    (notClosed : ∀ value error, onValue value ≠ .connectionClosed error)
    (otherTag : ∀ value acceptance,
      tagValue value ≠ .attachment acceptance) :
    Reports (typed.bimap onValue onError)
      (typed.bimap tagValue tagError) := by
  refine ⟨by simp, by simp, ?_, ?_, ?_⟩
  · cases typed with
    | ok value => simp [notAccepted, otherTag]
    | err failure => simp
    | panic cause => simp
  · cases typed with
    | ok value => simp [notRepeated, otherTag]
    | err failure => simp
    | panic cause => simp
  · intro error
    cases typed with
    | ok value => simp [notClosed]
    | err failure => simp
    | panic cause => simp

private theorem reports_of_attach
    {typed : Outcome Panic AttachmentError AttachmentAcceptance}
    {response : Frame} :
    Reports
      (typed.bimap
        (fun
          | .accepted => .attachmentAccepted response
          | .alreadyAccepted => .attachmentAlreadyAccepted response)
        .attachment)
      (typed.bimap .attachment .attachment) := by
  refine ⟨by simp, by simp, ?_, ?_, ?_⟩
  · cases typed with
    | ok acceptance => cases acceptance <;> simp
    | err failure => simp
    | panic cause => simp
  · cases typed with
    | ok acceptance => cases acceptance <;> simp
    | err failure => simp
    | panic cause => simp
  · intro error
    cases typed with
    | ok acceptance => cases acceptance <;> simp
    | err failure => simp
    | panic cause => simp

/-- Everything that dispatching a frame can do: it is refused by the gate, it
closes the dispatcher, it is ignored, or it makes its call. -/
inductive Effects (hmac : Hmac) (dispatcher : SessionFrameDispatcher)
    (session : SessionTracer) (frame : Frame) :
    Dispatched → SessionFrameDispatcher → SessionTracer → Prop where
  | refused {failure : DispatchError}
      (gated : dispatcher.closed = true ∨
        ¬dispatcher.Passes session frame) :
      Effects hmac dispatcher session frame (.err failure) dispatcher session
  | closes {error : ProtocolErrorCode}
      (closing : frame = .connectionClose error)
      (live : dispatcher.closed = false)
      (passes : dispatcher.Passes session frame) :
      Effects hmac dispatcher session frame (.ok (.connectionClosed error))
        { dispatcher with closed := true } session
  | ignored {frameType : UInt8} {payload : List UInt8}
      (optional : frame = .unknownOptional frameType payload)
      (live : dispatcher.closed = false)
      (passes : dispatcher.Passes session frame) :
      Effects hmac dispatcher session frame (.ok .optionalFrameIgnored)
        dispatcher session
  | called {call : Call} {answer : CallOutcome} {outcome : Dispatched}
      {after : SessionTracer}
      (asks : dispatcher.callOf frame = some call)
      (live : dispatcher.closed = false)
      (passes : dispatcher.Passes session frame)
      (performed : session.perform hmac call = (answer, after))
      (reports : Reports outcome answer) :
      Effects hmac dispatcher session frame outcome dispatcher after

theorem requireActiveAttachment_eq_ok_iff
    {dispatcher : SessionFrameDispatcher} {session : SessionTracer} :
    dispatcher.requireActiveAttachment session = .ok () ↔
      session.carrierAttachmentIsActive dispatcher.carrier = true := by
  unfold requireActiveAttachment
  split <;> simp_all

theorem requireDispatchableAttachment_eq_ok_iff
    {dispatcher : SessionFrameDispatcher} {session : SessionTracer} :
    dispatcher.requireDispatchableAttachment session = .ok () ↔
      session.carrierAttachmentIsDispatchable dispatcher.carrier = true := by
  unfold requireDispatchableAttachment
  split <;> simp_all

/-- A frame behind the gate for dispatchable carriers. -/
private theorem effects_of_dispatchable {hmac : Hmac}
    {dispatcher after : SessionFrameDispatcher}
    {session next : SessionTracer} {frame : Frame} {outcome : Dispatched}
    {body : Dispatched × SessionFrameDispatcher × SessionTracer}
    (gate : dispatcher.Passes session frame ↔
      session.carrierAttachmentIsDispatchable dispatcher.carrier = true)
    (dispatched : (match dispatcher.requireDispatchableAttachment session with
      | .error failure => (.err failure, dispatcher, session)
      | .ok () => body) = (outcome, after, next))
    (through : dispatcher.Passes session frame →
      body = (outcome, after, next) →
      dispatcher.Effects hmac session frame outcome after next) :
    dispatcher.Effects hmac session frame outcome after next := by
  cases required : dispatcher.requireDispatchableAttachment session with
  | ok value =>
      rw [required] at dispatched
      exact through (gate.mpr
        (requireDispatchableAttachment_eq_ok_iff.mp required)) dispatched
  | error failure =>
      rw [required] at dispatched
      cases dispatched
      refine .refused (.inr ?_)
      intro passes
      rw [requireDispatchableAttachment_eq_ok_iff.mpr (gate.mp passes)]
        at required
      cases required

theorem dispatch_effects {hmac : Hmac}
    {dispatcher after : SessionFrameDispatcher}
    {session next : SessionTracer} {frame : Frame} {outcome : Dispatched}
    (dispatched : dispatcher.dispatch hmac session frame =
      (outcome, after, next)) :
    dispatcher.Effects hmac session frame outcome after next := by
  unfold dispatch at dispatched
  split at dispatched
  · rename_i closed
    cases dispatched
    exact .refused (.inl closed)
  rename_i notClosed
  have live : dispatcher.closed = false := by simpa using notClosed
  cases frame with
  | attach sessionId epoch attachmentId parameters proof =>
      simp only [attach] at dispatched
      split at dispatched
      · rename_i mismatch
        cases dispatched
        exact .refused (.inr mismatch)
      · rename_i matching
        cases dispatched
        exact .called rfl live (not_not.mp matching) rfl reports_of_attach
  | streamOpen flowId =>
      cases required : dispatcher.requireActiveAttachment session with
      | ok value =>
          rw [required] at dispatched
          cases dispatched
          exact .called rfl live
            (requireActiveAttachment_eq_ok_iff.mp required) rfl
            (reports_of_stream (by simp) (by simp) (by simp) (by simp))
      | error failure =>
          rw [required] at dispatched
          cases dispatched
          refine .refused (.inr ?_)
          intro passes
          rw [requireActiveAttachment_eq_ok_iff.mpr passes] at required
          cases required
  | streamData flowId epoch sequence bytes =>
      refine effects_of_dispatchable Iff.rfl dispatched ?_
      intro passes made
      cases made
      refine .called rfl live passes rfl (reports_of_stream ?_ ?_ ?_ ?_)
      · intro result response
        cases result <;> simp
      · intro result response
        cases result <;> simp
      · intro result error
        cases result <;> simp
      · simp
  | streamAcknowledgement flowId epoch through =>
      refine effects_of_dispatchable Iff.rfl dispatched ?_
      intro passes made
      cases made
      exact .called rfl live passes rfl
        (reports_of_stream (by simp) (by simp) (by simp) (by simp))
  | streamFinish flowId epoch finalNextSequence =>
      refine effects_of_dispatchable Iff.rfl dispatched ?_
      intro passes made
      cases made
      exact .called rfl live passes rfl
        (reports_of_stream (by simp) (by simp) (by simp) (by simp))
  | streamReset flowId error =>
      refine effects_of_dispatchable Iff.rfl dispatched ?_
      intro passes made
      cases made
      exact .called rfl live passes rfl
        (reports_of_stream (by simp) (by simp) (by simp) (by simp))
  | connectionClose error =>
      refine effects_of_dispatchable Iff.rfl dispatched ?_
      intro passes made
      cases made
      exact .closes rfl live passes
  | unknownOptional frameType payload =>
      refine effects_of_dispatchable Iff.rfl dispatched ?_
      intro passes made
      cases made
      exact .ignored rfl live passes
  | negotiationOffer offer =>
      cases dispatched
      exact .refused (.inr id)
  | negotiationAccept parameters =>
      cases dispatched
      exact .refused (.inr id)
  | attachAccepted sessionId epoch attachmentId =>
      cases dispatched
      exact .refused (.inr id)

end SessionFrameDispatcher

end Velum.Session
