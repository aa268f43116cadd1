import Velum.Protocol.FrameCodec
import Velum.Session.Accounting
import Velum.Session.Dispatcher

/-!
# Segments on the wire

A segment leaves the session as a `STREAM_DATA` frame.  The session admits a
payload by its budgets and the codec by the shape of the frame, so a segment
that the session retains need not be one that the codec can carry.  The two
agree exactly on the payloads named here.
-/

namespace Velum.Session

open Foundation
open Velum.Protocol
open Velum.Crypto

def Segment.frame (segment : Segment) : Frame :=
  .streamData segment.flowId segment.epoch segment.sequence segment.bytes

/-- Flow, epoch, and sequence in front of the data. -/
def streamDataPrefixBytes : Nat := 24

/-- The payloads of a `STREAM_DATA` frame. -/
def Carriable (bytes : List UInt8) : Prop :=
  bytes ≠ [] ∧ streamDataPrefixBytes + bytes.length ≤ maxFramePayload

instance : DecidablePred Carriable :=
  fun _ => inferInstanceAs (Decidable (_ ∧ _))

def DispatchOutcome.ofReceive : ReceiveResult → DispatchOutcome
  | .delivered bytes => .delivered bytes
  | .duplicate => .duplicate
  | .outOfOrder => .outOfOrder

/-- The segment reaches every attached peer as `receive` would see it. -/
def Segment.CrossesWire (hmac : Hmac) (segment : Segment) : Prop :=
  ∃ encoded,
    segment.frame.encode = .ok encoded ∧
    Frame.decodeExact encoded maxFramePayload = .ok segment.frame ∧
    ∀ (dispatcher : SessionFrameDispatcher) (peer : SessionTracer),
      dispatcher.closed = false →
      peer.carrierAttachmentIsDispatchable dispatcher.carrier = true →
      dispatcher.dispatch hmac peer segment.frame =
        ((peer.receive segment).1.bimap .ofReceive .trace, dispatcher,
          (peer.receive segment).2)

namespace Segment

/-- An attached peer hands the frame to `receive`. -/
theorem dispatch_frame {hmac : Hmac} {dispatcher : SessionFrameDispatcher}
    {peer : SessionTracer} (segment : Segment)
    (opened : dispatcher.closed = false)
    (attached :
      peer.carrierAttachmentIsDispatchable dispatcher.carrier = true) :
    dispatcher.dispatch hmac peer segment.frame =
      ((peer.receive segment).1.bimap .ofReceive .trace, dispatcher,
        (peer.receive segment).2) := by
  have passed : dispatcher.requireDispatchableAttachment peer = .ok () :=
    SessionFrameDispatcher.requireDispatchableAttachment_eq_ok_iff.mpr
      attached
  unfold SessionFrameDispatcher.dispatch
  rw [if_neg (by simp [opened])]
  simp only [frame, passed]
  rfl

theorem encodes_iff {segment : Segment} :
    (∃ encoded, segment.frame.encode = .ok encoded) ↔
      Carriable segment.bytes := by
  have payloadLength : ∀ bytes : List UInt8,
      (flowIdBytes segment.flowId ++ epochBytes segment.epoch ++
        sequenceBytes segment.sequence ++ bytes).length =
      streamDataPrefixBytes + bytes.length := by
    intro bytes
    simp only [flowIdBytes, epochBytes, sequenceBytes, List.length_append,
      length_wordBytes64, streamDataPrefixBytes]
  by_cases empty : segment.bytes = []
  · simp [Frame.encode, Frame.encodePayload, frame, Carriable, empty]
  · constructor
    · intro encodes
      obtain ⟨encoded, success⟩ := encodes
      obtain ⟨frameType, payload, body, fits, _⟩ :=
        Frame.encode_eq_ok_iff.mp success
      simp only [frame, Frame.encodePayload, List.isEmpty_iff, empty,
        if_false] at body
      cases body
      rw [payloadLength] at fits
      exact ⟨empty, fits⟩
    · intro carriable
      refine ⟨_, Frame.encode_eq_ok_iff.mpr ⟨FrameType.streamData, _, ?_,
        Eq.trans_le (payloadLength segment.bytes) carriable.2, rfl⟩⟩
      simp only [frame, Frame.encodePayload, List.isEmpty_iff, empty,
        if_false]

/-- The codec decides whether a segment crosses. -/
theorem crossesWire_iff {hmac : Hmac} {segment : Segment} :
    segment.CrossesWire hmac ↔ Carriable segment.bytes := by
  rw [← encodes_iff]
  constructor
  · intro crosses
    obtain ⟨encoded, success, _⟩ := crosses
    exact ⟨encoded, success⟩
  · intro encodes
    obtain ⟨encoded, success⟩ := encodes
    have decodes : Frame.decodeExact encoded maxFramePayload =
        .ok segment.frame :=
      Frame.decodeExact_eq_ok_iff.mpr
        ⟨success, trivial, Frame.encode_length_le success⟩
    refine ⟨encoded, success, decodes, ?_⟩
    intro dispatcher peer opened attached
    exact dispatch_frame segment opened attached

end Segment

/-! ## Where a retained segment comes from -/

/-- The exchange in which `send` returned the segment. -/
def Segment.sending (segment : Segment) : Exchange :=
  ⟨.send segment.flowId segment.bytes, .ok (.segment segment)⟩

theorem Permits.retained {call : Call} {outcome : CallOutcome}
    {segment : Segment} (permitted : Permits call outcome (.retained segment)) :
    (⟨call, outcome⟩ : Exchange) = segment.sending := by
  unfold Permits at permitted
  split at permitted <;> simp_all [Segment.sending]

namespace SessionTracer

/-- Every segment the session still retains is of the given origin. -/
def RetainsOnly (origin : Segment → Prop) (session : SessionTracer) : Prop :=
  ∀ flowId flow, session.flows.get? flowId = some flow →
    ∀ pending ∈ flow.pending, origin pending.segment

theorem RetainsOnly.effect {origin : Segment → Prop}
    {session next : SessionTracer} {action : Action}
    (retains : session.RetainsOnly origin)
    (admitted : ∀ segment, action = .retained segment → origin segment)
    (effect : Effect session action next) : next.RetainsOnly origin := by
  intro flowId flow found pending member
  rcases effect.flow_frame found with
    ⟨_, rfl⟩ | ⟨old, known, sendSide, _⟩
  · cases member
  by_cases sends : action.SendsOn flowId
  · -- Only `send` and `acknowledge` touch the queue of this flow.
    cases effect with
    | retained present =>
        rcases OrderedMap.get?_insert_eq_some_iff.mp found with
          ⟨rfl, rfl⟩ | ⟨_, untouched⟩
        · rcases List.mem_append.mp member with older | newest
          · exact retains _ _ present pending older
          · rw [List.mem_singleton.mp newest]
            exact admitted _ rfl
        · exact retains _ _ untouched pending member
    | released present valid sent notNewer split =>
        rcases OrderedMap.get?_insert_eq_some_iff.mp found with
          ⟨rfl, rfl⟩ | ⟨_, untouched⟩
        · apply retains _ _ present pending
          rw [split]
          exact List.mem_append_right _ member
        · exact retains _ _ untouched pending member
    | _ => cases sends
  · rw [(sendSide sends).2] at member
    exact retains _ _ known pending member

/-- A retained segment was returned by a `send` of the run. -/
theorem run_retainsOnly {hmac : Hmac} {epoch : Epoch} {limits : FlowLimits}
    {accepted : limits.Accepted} {trace : List Exchange}
    {session : SessionTracer}
    (run : Run (Step hmac) (new epoch limits accepted) trace session) :
    session.RetainsOnly fun segment => segment.sending ∈ trace := by
  have fresh : (new epoch limits accepted).RetainsOnly
      fun segment => segment.sending ∈ trace := by
    intro flowId flow found
    simp [new] at found
  have preserved : ∀ {before exchange after},
      before.RetainsOnly (fun segment => segment.sending ∈ trace) →
      exchange ∈ trace → Step hmac before exchange after →
      after.RetainsOnly fun segment => segment.sending ∈ trace := by
    intro before exchange after retains recorded step
    refine step.invariant_on (RetainsOnly _) ?_ retains
    intro state action next held permitted effect
    refine held.effect ?_ effect
    intro segment same
    subst same
    rw [← permitted.retained]
    exact recorded
  exact run.invariant_on fresh preserved fun exchange member => member

/-- What `resume_unacknowledged` lists was sent on the flow before, and only
the epoch is written anew. -/
theorem run_resumed {hmac : Hmac} {epoch : Epoch} {limits : FlowLimits}
    {accepted : limits.Accepted} {trace : List Exchange}
    {session : SessionTracer} {flowId : FlowId} {segments : List Segment}
    {segment : Segment}
    (run : Run (Step hmac) (new epoch limits accepted) trace session)
    (listed : session.resumeUnacknowledged flowId = .ok segments)
    (member : segment ∈ segments) :
    ∃ sent, ⟨.send flowId segment.bytes, .ok (.segment sent)⟩ ∈ trace ∧
      segment = { sent with epoch := session.epoch } := by
  unfold resumeUnacknowledged at listed
  split at listed
  · cases listed
  rename_i flow found
  cases listed
  obtain ⟨pending, queued, rfl⟩ := List.mem_map.mp member
  have live : Live hmac session := ⟨epoch, limits, accepted, trace, run⟩
  have owned := live.accounted.owner found pending queued
  have sent := run_retainsOnly run _ _ found pending queued
  refine ⟨pending.segment, ?_, rfl⟩
  rw [← owned]
  exact sent

end SessionTracer

/-- In every reachable state: a segment that `send` returns crosses the wire
exactly when its payload is one of `STREAM_DATA`; a segment listed for
recovery was returned by an earlier send of its payload, under another epoch,
and crosses exactly when that payload is one; and when the run sent such
payloads only, every segment listed for recovery crosses. -/
theorem segments_cross_wire_iff {hmac : Hmac} {epoch : Epoch}
    {limits : FlowLimits} {accepted : limits.Accepted}
    {trace : List Exchange} {session : SessionTracer}
    (run : Run (SessionTracer.Step hmac)
      (SessionTracer.new epoch limits accepted) trace session) :
    (∀ flowId bytes segment after,
      session.send flowId bytes = (.ok segment, after) →
      (segment.CrossesWire hmac ↔ Carriable bytes)) ∧
    (∀ flowId segments segment,
      session.resumeUnacknowledged flowId = .ok segments →
      segment ∈ segments →
      ∃ sent,
        ⟨.send flowId segment.bytes, .ok (.segment sent)⟩ ∈ trace ∧
        segment = { sent with epoch := session.epoch } ∧
        (segment.CrossesWire hmac ↔ Carriable segment.bytes)) ∧
    ((∀ flowId bytes outcome, ⟨.send flowId bytes, outcome⟩ ∈ trace →
        Carriable bytes) →
      ∀ flowId segments segment,
        session.resumeUnacknowledged flowId = .ok segments →
        segment ∈ segments → segment.CrossesWire hmac) := by
  refine ⟨?_, ?_, ?_⟩
  · intro flowId bytes segment after called
    rw [← SessionTracer.send_bytes called]
    exact Segment.crossesWire_iff
  · intro flowId segments segment listed member
    obtain ⟨sent, recorded, reissued⟩ :=
      SessionTracer.run_resumed run listed member
    exact ⟨sent, recorded, reissued, Segment.crossesWire_iff⟩
  · intro carriable flowId segments segment listed member
    obtain ⟨sent, recorded, _⟩ :=
      SessionTracer.run_resumed run listed member
    exact Segment.crossesWire_iff.mpr (carriable _ _ _ recorded)

/-- After a transition the one byte sent before it is listed again, and its
frame crosses. -/
theorem segments_cross_wire_resumed :
    ∃ (session : SessionTracer) (segment : Segment),
      SessionTracer.Live (.ofTags []) session ∧
      session.resumeUnacknowledged ⟨0⟩ = .ok [segment] ∧
      segment.epoch = ⟨1⟩ ∧
      segment.CrossesWire (.ofTags []) := by
  have run := SessionTracer.runCalls_run (.ofTags [])
    (.new ⟨0⟩ smallLimits (by decide))
    [.openReliableFlow, .send ⟨0⟩ [7], .beginTransition] (by decide)
  refine ⟨_, _, ⟨_, _, _, _, run⟩, rfl, rfl, ?_⟩
  refine (segments_cross_wire_iff run).2.2 ?_ ⟨0⟩ _ _ rfl
    List.mem_cons_self
  intro flowId bytes outcome recorded
  have called := SessionTracer.call_mem_of_runCalls recorded
  obtain ⟨_, rfl⟩ : flowId = ⟨0⟩ ∧ bytes = [7] := by
    simpa using called
  decide

/-- An empty payload takes a sequence number, and its frame does not
encode. -/
theorem empty_segment_stays :
    ∃ (session after : SessionTracer) (segment : Segment)
      (flow : ReliableFlow),
      SessionTracer.Live (.ofTags []) session ∧
      session.send ⟨0⟩ [] = (.ok segment, after) ∧
      after.flows.get? ⟨0⟩ = some flow ∧ flow.nextSend = ⟨1⟩ ∧
      segment.frame.encode = .error .emptyStreamData ∧
      ¬segment.CrossesWire (.ofTags []) := by
  have run := SessionTracer.runCalls_run (.ofTags [])
    (.new ⟨0⟩ smallLimits (by decide)) [.openReliableFlow] (by decide)
  refine ⟨_, _, _, _, ⟨_, _, _, _, run⟩, rfl, rfl, rfl, rfl, ?_⟩
  intro crosses
  exact (Segment.crossesWire_iff.mp crosses).1 rfl

end Velum.Session
