import Velum.Protocol.DecoderErrors
import Velum.Session.Acknowledgements
import Velum.Session.Attachment
import Velum.Session.Delivery
import Velum.Session.Wire

/-!
# Migration over carriers that break

A session advances to a new epoch before it attaches a replacement carrier,
and the sender then reissues what it retains.  A carrier may be lost after any
byte and may hand over its bytes in any chunks.  Whatever was lost, the next
carrier starts from the queue of the sender and the cursor of the receiver.
-/

namespace Velum.Session

open Foundation
open Velum.Protocol
open Velum.Crypto

/-- Dispatches frames one after the other. -/
def SessionFrameDispatcher.dispatchAll (hmac : Hmac) :
    SessionFrameDispatcher → SessionTracer → List Frame →
      List Dispatched × SessionFrameDispatcher × SessionTracer
  | dispatcher, session, [] => ([], dispatcher, session)
  | dispatcher, session, frame :: rest =>
      let (outcome, next, after) := dispatcher.dispatch hmac session frame
      let (outcomes, last) := dispatchAll hmac next after rest
      (outcome :: outcomes, last)

/-- Byte strings among the outcomes of dispatched frames. -/
def deliveredBy (outcomes : List Dispatched) : List (List UInt8) :=
  outcomes.filterMap fun
    | .ok (.delivered bytes) => some bytes
    | _ => none

/-- The chunks of the given sizes from the front of a stream. -/
def arriving : List Nat → List UInt8 → List (List UInt8)
  | [], _ => []
  | size :: rest, bytes => bytes.take size :: arriving rest (bytes.drop size)

namespace Migration

/-- What both sides share. -/
structure Shared where
  authenticator : AttachmentAuthenticator
  sessionId : SessionId
  parameters : NegotiatedParameters
  flowId : FlowId

/-- A carrier and the sizes of the chunks that arrive before it is lost. -/
structure Replacement where
  carrier : CarrierId
  attachmentId : AttachmentId
  sizes : List Nat

/-- What became of one carrier. -/
structure Migrated where
  /-- All that was written to the carrier. -/
  stream : List UInt8
  /-- All that the other side got of it. -/
  arrived : List UInt8
  read : List FrameDecoder.Pushed
  dispatched : List Dispatched

def attachFrame (hmac : Hmac) (shared : Shared) (epoch : Epoch)
    (attachmentId : AttachmentId) : Frame :=
  .attach shared.sessionId epoch attachmentId shared.parameters
    (shared.authenticator.prove hmac shared.sessionId epoch attachmentId
      shared.parameters).bytes

/-- A carrier opens with its attachment, and the retained segments follow. -/
def frames (hmac : Hmac) (shared : Shared) (epoch : Epoch)
    (attachmentId : AttachmentId) (segments : List Segment) : List Frame :=
  attachFrame hmac shared epoch attachmentId :: segments.map Segment.frame

/-- The receiving end of one carrier. -/
def read (hmac : Hmac) (shared : Shared) (replacement : Replacement)
    (decoder : FrameDecoder) (receiver : SessionTracer)
    (stream : List UInt8) : Migrated × SessionTracer :=
  let chunks := arriving replacement.sizes stream
  let pushed := (decoder.pushAll chunks).1
  let answered := (SessionFrameDispatcher.new shared.sessionId
    replacement.carrier shared.authenticator).dispatchAll hmac receiver
      (framesReceived pushed)
  ({ stream
     arrived := chunks.flatten
     read := pushed
     dispatched := answered.1 }, answered.2.2)

/-- Both sides begin the next epoch, and one carrier carries what it can. -/
def migrate (hmac : Hmac) (shared : Shared)
    (sender receiver : SessionTracer) (replacement : Replacement) :
    Option (Migrated × SessionTracer × SessionTracer) :=
  match sender.completeTransition.beginTransition,
    receiver.completeTransition.beginTransition with
  | (.ok epoch, sending), (.ok _, receiving) =>
      match sending.resumeUnacknowledged shared.flowId,
        FrameDecoder.new maxFramePayload with
      | .ok segments, .ok decoder =>
          match (frames hmac shared epoch replacement.attachmentId
            segments).mapM Frame.encode with
          | .ok encodings =>
              let (migrated, after) := read hmac shared replacement decoder
                receiving encodings.flatten
              some (migrated, sending, after)
          | .error _ => none
      | _, _ => none
  | _, _ => none

/-- One carrier after the other. -/
def migrateAll (hmac : Hmac) (shared : Shared) :
    SessionTracer → SessionTracer → List Replacement →
      Option (List Migrated × SessionTracer × SessionTracer)
  | sender, receiver, [] => some ([], sender, receiver)
  | sender, receiver, replacement :: rest => do
      let (migrated, sending, receiving) ←
        migrate hmac shared sender receiver replacement
      let (others, last) ← migrateAll hmac shared sending receiving rest
      some (migrated :: others, last)

/-- The outcome of a frame that takes part in a migration. -/
def Smooth (outcome : Dispatched) : Prop :=
  (∃ response, outcome = .ok (.attachmentAccepted response)) ∨
    outcome = .ok .duplicate ∨ ∃ bytes, outcome = .ok (.delivered bytes)

/-! ## Streams that break -/

theorem arriving_flatten (sizes : List Nat) (bytes : List UInt8) :
    (arriving sizes bytes).flatten = bytes.take sizes.sum := by
  induction sizes generalizing bytes with
  | nil => simp [arriving]
  | cons size rest induction =>
      rw [arriving, List.flatten_cons, induction, List.sum_cons,
        List.take_add]

/-- A stream of admissible frames that breaks after some byte still gives its
first frames, and nothing of it is refused. -/
theorem cutAll_broken {maximum : Nat} {frames : List Frame}
    {encodings : List (List UInt8)}
    (admissible : List.Forall₂ (FrameDecoder.Admissible maximum) frames
      encodings)
    {bytes missing : List UInt8}
    (broken : encodings.flatten = bytes ++ missing) :
    ((Frame.cutter maximum).cutAll bytes).1 <+: frames ∧
      Frame.cut maximum ((Frame.cutter maximum).cutAll bytes).2 =
        .incomplete ∧
      (missing = [] → ((Frame.cutter maximum).cutAll bytes).1 = frames) := by
  have whole := FrameDecoder.cutAll_admissible admissible []
  rw [List.append_nil, Frame.cutAll_nil, List.append_nil, broken] at whole
  refine ⟨?_, ?_, ?_⟩
  · rw [Cutter.cutAll_append] at whole
    exact ⟨_, congrArg Prod.fst whole⟩
  · cases found : Frame.cut maximum
        ((Frame.cutter maximum).cutAll bytes).2 with
    | incomplete => rfl
    | piece frame size => exact absurd found (Frame.cut_rest _ _ _ _)
    | refused failure =>
        -- A refusal would have stayed in front of the missing bytes.
        rw [Cutter.cutAll_append_of_refused found] at whole
        have rest := (List.append_eq_nil_iff.mp
          (congrArg Prod.snd whole)).1
        change ((Frame.cutter maximum).cutAll bytes).2 = [] at rest
        rw [rest] at found
        cases found
  · rintro rfl
    rw [List.append_nil] at whole
    exact congrArg Prod.fst whole

/-- A fresh decoder reads a broken stream without an error. -/
theorem pushAll_broken {frames : List Frame} {encodings : List (List UInt8)}
    (admissible : List.Forall₂ (FrameDecoder.Admissible maxFramePayload)
      frames encodings)
    {decoder : FrameDecoder}
    (fresh : FrameDecoder.new maxFramePayload = .ok decoder)
    {chunks : List (List UInt8)} {missing : List UInt8}
    (broken : encodings.flatten = chunks.flatten ++ missing) :
    Clean (decoder.pushAll chunks).1 ∧
      framesReceived (decoder.pushAll chunks).1 <+: frames ∧
      (missing = [] → framesReceived (decoder.pushAll chunks).1 = frames) := by
  obtain ⟨maximum, empty, waiting⟩ := FrameDecoder.waiting_of_new fresh
  obtain ⟨front, rest, complete⟩ := cutAll_broken admissible broken
  have onBytes : decoder.cutWith chunks.flatten =
      (Frame.cutter maxFramePayload).cutAll chunks.flatten := by
    rw [FrameDecoder.cutWith, empty, List.nil_append, maximum]
  have clean : Clean (decoder.pushAll chunks).1 := by
    rw [FrameDecoder.pushAll_clean_iff waiting, onBytes, maximum]
    exact rest
  have received := (FrameDecoder.pushAll_of_clean waiting clean).1
  rw [onBytes] at received
  rw [received]
  exact ⟨clean, front, complete⟩

/-! ## Segments of one carrier -/

/-- Everything about epochs and carriers; flows and log may differ. -/
structure Steady (before after : SessionTracer) : Prop where
  transition : after.transition = before.transition
  negotiated : after.negotiated = before.negotiated
  replay : after.attachmentReplay = before.attachmentReplay
  accepted : after.acceptedAttachment = before.acceptedAttachment
  retiring : after.retiringAttachment = before.retiringAttachment

theorem Steady.refl (session : SessionTracer) : Steady session session :=
  ⟨rfl, rfl, rfl, rfl, rfl⟩

theorem Steady.trans {first second third : SessionTracer}
    (before : Steady first second) (after : Steady second third) :
    Steady first third :=
  ⟨after.transition.trans before.transition,
    after.negotiated.trans before.negotiated,
    after.replay.trans before.replay,
    after.accepted.trans before.accepted,
    after.retiring.trans before.retiring⟩

theorem Steady.dispatchable {before after : SessionTracer}
    (steady : Steady before after) {carrier : CarrierId} :
    after.carrierAttachmentIsDispatchable carrier =
      before.carrierAttachmentIsDispatchable carrier := by
  simp only [SessionTracer.carrierAttachmentIsDispatchable,
    SessionTracer.carrierAttachmentIsActive, SessionTracer.epoch,
    steady.accepted, steady.retiring, steady.transition]
  rfl

theorem steady_of_settled {session after : SessionTracer}
    {segment : Segment} {outcome : Outcome Panic TraceError ReceiveResult}
    (called : session.receive segment = (outcome, after))
    (settled : Settled outcome) : Steady session after := by
  rcases SessionTracer.receive_cases called with
    ⟨_, rfl⟩ | ⟨_, rfl⟩ | ⟨_, rfl⟩ | rfl | ⟨_, effect⟩
  · exact .refl _
  · exact ⟨rfl, rfl, rfl, rfl, rfl⟩
  · exact ⟨rfl, rfl, rfl, rfl, rfl⟩
  · rcases settled with impossible | ⟨_, impossible⟩
    · cases impossible
    · cases impossible
  · cases effect
    exact ⟨rfl, rfl, rfl, rfl, rfl⟩

/-- A settled receive is a smooth dispatch of the same bytes. -/
theorem smooth_of_settled
    {outcome : Outcome Panic TraceError ReceiveResult}
    (settled : Settled outcome) :
    Smooth (outcome.bimap .ofReceive .trace) ∧
      deliveredBy [outcome.bimap .ofReceive .trace] =
        deliveredAmong [outcome] := by
  rcases settled with rfl | ⟨bytes, rfl⟩
  · exact ⟨.inr (.inl rfl), rfl⟩
  · exact ⟨.inr (.inr ⟨bytes, rfl⟩), rfl⟩

theorem deliveredBy_append (front back : List Dispatched) :
    deliveredBy (front ++ back) = deliveredBy front ++ deliveredBy back :=
  List.filterMap_append

section Segments

variable {hmac : Hmac} {dispatcher : SessionFrameDispatcher}
  {flowId : FlowId} {epoch : Epoch} {finalNext : Option Sequence}
  {sent : List (List UInt8)}

variable (hmac dispatcher) in
/-- The first segments of the window, sent over an attached carrier, advance
the delivery as `accept` says. -/
theorem dispatchAll_segments {delivered : List (List UInt8)} {base : Nat}
    {segments : List Segment} {session : SessionTracer}
    (awaiting : Awaiting flowId epoch finalNext delivered.length session)
    (opened : dispatcher.closed = false)
    (attached :
      session.carrierAttachmentIsDispatchable dispatcher.carrier = true)
    (carried : segments.map Segment.copy <+: window sent base)
    (reached : base ≤ delivered.length) (inOrder : delivered <+: sent)
    (representable : sent.length < 2 ^ 64)
    (onFlow : ∀ segment ∈ segments, segment.flowId = flowId)
    (stamped : ∀ segment ∈ segments, segment.epoch = epoch)
    (unfinished : ∀ final, finalNext = some final →
      sent.length ≤ final.value.toNat) :
    ∃ outcomes after,
      dispatcher.dispatchAll hmac session (segments.map Segment.frame) =
        (outcomes, dispatcher, after) ∧
      (∀ outcome ∈ outcomes, Smooth outcome) ∧
      delivered ++ deliveredBy outcomes =
        (segments.map Segment.copy).foldl accept delivered ∧
      Steady session after ∧
      Awaiting flowId epoch finalNext
        ((segments.map Segment.copy).foldl accept delivered).length after ∧
      (segments.map Segment.copy).foldl accept delivered <+: sent := by
  induction segments generalizing base delivered session with
  | nil =>
      exact ⟨[], session, rfl, nofun, List.append_nil _, .refl session,
        awaiting, inOrder⟩
  | cons segment rest induction =>
      have within : base < sent.length := by
        have lengths := carried.length_le
        rw [List.length_map, List.length_cons, window_length] at lengths
        omega
      rw [window_cons within, List.map_cons, List.cons_prefix_cons]
        at carried
      obtain ⟨head, tail⟩ := carried
      have position : segment.sequence.value.toNat = base :=
        congrArg Prod.snd head
      have faithful : Faithful sent segment.copy := by
        rw [head]
        exact List.getElem?_eq_getElem within
      obtain rfl := onFlow segment List.mem_cons_self
      obtain rfl := stamped segment List.mem_cons_self
      have remaining : ∀ final, finalNext = some final →
          segment.sequence < final := by
        intro final recorded
        have beyond := unfinished final recorded
        rw [Sequence.lt_iff]
        omega
      obtain ⟨outcome, next, received, settled, taken, later⟩ :=
        awaiting.receive remaining (by omega) (by omega)
      have steady := steady_of_settled received settled
      obtain ⟨smooth, same⟩ := smooth_of_settled settled
      have advanced : base + 1 ≤
          (accept delivered segment.copy).length := by
        unfold accept
        split
        · rw [List.length_append, List.length_singleton]
          omega
        · rename_i passed
          change segment.sequence.value.toNat ≠ _ at passed
          omega
      obtain ⟨outcomes, last, answered, restSmooth, restTaken, restSteady,
        reaches, further⟩ := induction later
          (by rw [steady.dispatchable]; exact attached) tail advanced
          (accept_inOrder inOrder faithful)
          (fun other member => onFlow other (List.mem_cons_of_mem _ member))
          (fun other member => stamped other (List.mem_cons_of_mem _ member))
      refine ⟨outcome.bimap .ofReceive .trace :: outcomes, last, ?_, ?_, ?_,
        steady.trans restSteady, reaches, further⟩
      · simp only [List.map_cons, SessionFrameDispatcher.dispatchAll,
          Segment.dispatch_frame segment opened attached, received, answered]
      · intro other member
        rcases List.mem_cons.mp member with rfl | older
        · exact smooth
        · exact restSmooth other older
      · rw [← List.singleton_append, deliveredBy_append, same,
          ← List.append_assoc, taken]
        exact restTaken

end Segments

/-! ## One carrier -/

/-- Closing the last window and beginning the next one. -/
theorem begin_next {session : SessionTracer}
    (room : session.epoch.value.toNat + 1 < 2 ^ 64) :
    ∃ epoch after,
      session.completeTransition.beginTransition = (.ok epoch, after) ∧
      epoch.value.toNat = session.epoch.value.toNat + 1 ∧
      after.epoch = epoch ∧ after.acceptedAttachment = none ∧
      after.negotiated = session.negotiated ∧
      after.attachmentReplay = session.attachmentReplay ∧
      after.flows = session.flows := by
  obtain ⟨next, counted⟩ : ∃ next,
      checkedAdd session.transition.current.value 1 = some next := by
    rw [← Option.isSome_iff_exists, Option.isSome_iff_ne_none]
    intro overflow
    have large := checkedAdd_eq_none_iff.mp overflow
    rw [UInt64.toNat_one] at large
    rw [SessionTracer.epoch] at room
    omega
  have advanced := checkedAdd_eq_some_iff.mp counted
  rw [UInt64.toNat_one] at advanced
  have begun : session.completeTransition.transition.advance =
      (.ok (some ⟨next⟩),
        { current := ⟨next⟩
          retiring := some session.transition.current }) := by
    simp only [SessionTracer.completeTransition, SessionTracer.recordEvent,
      TransitionState.retirePrevious, TransitionState.advance, counted]
    rfl
  cases called : session.completeTransition.beginTransition with
  | mk outcome after =>
      rw [SessionTracer.beginTransition, begun] at called
      cases called
      exact ⟨⟨next⟩, _, rfl, advanced, rfl, rfl, rfl, rfl, rfl⟩

/-- The queue of a sender holds the window of what it has sent. -/
structure Retaining (flowId : FlowId) (epoch : Nat)
    (sent : List (List UInt8)) (base : Nat) (sender : SessionTracer) :
    Prop where
  current : sender.epoch.value.toNat = epoch
  flow : ∃ flow, sender.flows.get? flowId = some flow ∧
    flow.pending.map (fun pending => pending.segment.copy) =
      window sent base ∧
    ∀ pending ∈ flow.pending, pending.segment.flowId = flowId

/-- A receiver that the next carrier can attach to. -/
structure Attachable (shared : Shared) (finalNext : Option Sequence)
    (epoch cursor : Nat) (receiver : SessionTracer) : Prop where
  current : receiver.epoch.value.toNat = epoch
  bound : receiver.negotiated = some shared.parameters
  replay : ∀ latest, receiver.attachmentReplay.latest = some latest →
    latest.value.toNat ≤ epoch
  flow : ∃ flow, receiver.flows.get? shared.flowId = some flow ∧
    flow.nextReceive.value.toNat = cursor ∧
    flow.receiveFinalNext = finalNext

/-- What a sender reissues on the next epoch. -/
structure Reissued (flowId : FlowId) (epoch : Epoch)
    (sent : List (List UInt8)) (base : Nat) (segments : List Segment) :
    Prop where
  carried : segments.map Segment.copy = window sent base
  onFlow : ∀ segment ∈ segments, segment.flowId = flowId
  stamped : ∀ segment ∈ segments, segment.epoch = epoch

theorem Retaining.next {flowId : FlowId} {epoch : Nat}
    {sent : List (List UInt8)} {base : Nat} {sender : SessionTracer}
    (retaining : Retaining flowId epoch sent base sender)
    (room : epoch + 1 < 2 ^ 64) :
    ∃ current after segments,
      sender.completeTransition.beginTransition = (.ok current, after) ∧
      after.resumeUnacknowledged flowId = .ok segments ∧
      current.value.toNat = epoch + 1 ∧
      Reissued flowId current sent base segments ∧
      Retaining flowId (epoch + 1) sent base after := by
  rw [← retaining.current] at room
  obtain ⟨current, after, begun, following, same, _, _, _, kept⟩ :=
    begin_next room
  rw [retaining.current] at following
  obtain ⟨flow, found, queue, owned⟩ := retaining.flow
  refine ⟨current, after, flow.pending.map fun pending =>
    { pending.segment with epoch := current }, begun, ?_, following,
    ⟨?_, ?_, ?_⟩, ?_⟩
  · rw [SessionTracer.resumeUnacknowledged, kept, found, same]
  · rw [← queue, List.map_map]
    rfl
  · intro segment member
    obtain ⟨pending, queued, rfl⟩ := List.mem_map.mp member
    exact owned pending queued
  · intro segment member
    obtain ⟨pending, queued, rfl⟩ := List.mem_map.mp member
    rfl
  · exact ⟨by rw [same]; exact following, flow, by rw [kept]; exact found,
      queue, owned⟩

/-- The next epoch is beyond the replay window, and an empty slot waits for
its attachment. -/
theorem Attachable.next {shared : Shared} {finalNext : Option Sequence}
    {epoch cursor : Nat} {receiver : SessionTracer}
    (attachable : Attachable shared finalNext epoch cursor receiver)
    (room : epoch + 1 < 2 ^ 64) :
    ∃ current after,
      receiver.completeTransition.beginTransition = (.ok current, after) ∧
      current.value.toNat = epoch + 1 ∧ after.epoch = current ∧
      after.acceptedAttachment = none ∧
      after.attachmentReplay.accepts current = true ∧
      Attachable shared finalNext (epoch + 1) cursor after := by
  rw [← attachable.current] at room
  obtain ⟨current, after, begun, following, same, empty, negotiated, replay,
    kept⟩ := begin_next room
  rw [attachable.current] at following
  refine ⟨current, after, begun, following, same, empty, ?_, ?_⟩
  · rw [replay]
    apply accepts_iff.mpr
    intro latest recorded
    have older := attachable.replay latest recorded
    rw [Epoch.lt_iff]
    omega
  · refine ⟨by rw [same]; exact following, negotiated.trans attachable.bound,
      ?_, ?_⟩
    · intro latest recorded
      rw [replay] at recorded
      exact (attachable.replay latest recorded).trans (Nat.le_succ epoch)
    · rw [kept]
      exact attachable.flow

/-- The attachment frame of the current epoch is accepted. -/
theorem dispatch_attach (hmac : Hmac) {shared : Shared}
    {receiver : SessionTracer} (carrier : CarrierId)
    (attachmentId : AttachmentId)
    (bound : receiver.negotiated = some shared.parameters)
    (empty : receiver.acceptedAttachment = none)
    (fresh : receiver.attachmentReplay.accepts receiver.epoch = true) :
    ∃ response after,
      (SessionFrameDispatcher.new shared.sessionId carrier
        shared.authenticator).dispatch hmac receiver
          (attachFrame hmac shared receiver.epoch attachmentId) =
        (.ok (.attachmentAccepted response),
          .new shared.sessionId carrier shared.authenticator, after) ∧
      after.transition = receiver.transition ∧
      after.negotiated = receiver.negotiated ∧
      after.flows = receiver.flows ∧
      after.attachmentReplay.latest = some receiver.epoch ∧
      after.carrierAttachmentIsDispatchable carrier = true := by
  cases called : receiver.authenticateCarrierAttachment hmac
      shared.authenticator shared.sessionId
      { carrier
        epoch := receiver.epoch
        attachmentId
        parameters := shared.parameters
        proof := shared.authenticator.prove hmac shared.sessionId
          receiver.epoch attachmentId shared.parameters } with
  | mk outcome after =>
      have verified : receiver.Verified hmac shared.authenticator
          shared.sessionId
          { carrier
            epoch := receiver.epoch
            attachmentId
            parameters := shared.parameters
            proof := shared.authenticator.prove hmac shared.sessionId
              receiver.epoch attachmentId shared.parameters } :=
        ⟨bound, rfl, rfl⟩
      rcases SessionTracer.authenticateCarrierAttachment_cases called with
        ⟨_, _, refused⟩ | ⟨_, _, _, repeated⟩ | ⟨rfl, _, _, _, effect⟩
      · exact absurd (refused verified).2 (by simp [fresh])
      · rw [empty] at repeated
        cases repeated
      · refine ⟨.attachAccepted shared.sessionId receiver.epoch attachmentId,
          after, ?_, ?_⟩
        · simp only [SessionFrameDispatcher.dispatch, attachFrame,
            SessionFrameDispatcher.attach, SessionFrameDispatcher.new,
            Bool.false_eq_true, if_false, ne_eq, not_true_eq_false, called]
          rfl
        · cases effect
          refine ⟨rfl, rfl, rfl, rfl, ?_⟩
          simp [SessionTracer.carrierAttachmentIsDispatchable,
            SessionTracer.carrierAttachmentIsActive, SessionTracer.epoch,
            CarrierAttachment.identity]

/-- The frames of a carrier encode when the segments carry payloads. -/
theorem encode_frames (hmac : Hmac) (shared : Shared) (epoch : Epoch)
    (attachmentId : AttachmentId) {segments : List Segment}
    (carriable : ∀ segment ∈ segments, Carriable segment.bytes) :
    ∃ encodings,
      (frames hmac shared epoch attachmentId segments).mapM Frame.encode =
        .ok encodings ∧
      List.Forall₂ (FrameDecoder.Admissible maxFramePayload)
        (frames hmac shared epoch attachmentId segments) encodings := by
  have admissible : ∀ frame ∈ frames hmac shared epoch attachmentId segments,
      ∃ bytes, FrameDecoder.Admissible maxFramePayload frame bytes := by
    intro frame member
    rcases List.mem_cons.mp member with rfl | reissued
    · have body : ∃ payload, (attachFrame hmac shared epoch
          attachmentId).encodePayload = .ok (FrameType.attach, payload) :=
        ⟨_, rfl⟩
      obtain ⟨payload, body⟩ := body
      have length := Frame.length_of_fixed body
        (show Frame.fixedPayloadLength FrameType.attach = some 114 from rfl)
      have encoded := Frame.encode_eq_ok_iff.mpr ⟨_, _, body,
        (by rw [length]; decide), rfl⟩
      exact ⟨_, encoded, trivial, Frame.encode_length_le encoded⟩
    · obtain ⟨segment, listed, rfl⟩ := List.mem_map.mp reissued
      obtain ⟨bytes, encoded⟩ :=
        Segment.encodes_iff.mpr (carriable segment listed)
      exact ⟨bytes, encoded, trivial, Frame.encode_length_le encoded⟩
  obtain ⟨encodings, all⟩ : ∃ encodings,
      List.Forall₂ (FrameDecoder.Admissible maxFramePayload)
        (frames hmac shared epoch attachmentId segments) encodings := by
    generalize frames hmac shared epoch attachmentId segments = listed
      at admissible
    induction listed with
    | nil => exact ⟨[], .nil⟩
    | cons frame rest induction =>
        obtain ⟨bytes, first⟩ := admissible frame List.mem_cons_self
        obtain ⟨others, later⟩ := induction fun other member =>
          admissible other (List.mem_cons_of_mem _ member)
        exact ⟨bytes :: others, .cons first later⟩
  exact ⟨encodings, mapM_eq_ok_iff.mpr (all.imp fun _ _ fits => fits.1), all⟩

section Carrier

variable {hmac : Hmac} {shared : Shared} {replacement : Replacement}
  {finalNext : Option Sequence} {sent delivered : List (List UInt8)}
  {base epoch : Nat} {segments : List Segment} {receiver : SessionTracer}

variable (hmac replacement) in
/-- The receiving end delivers what arrives of the attachment and the
segments. -/
theorem dispatchAll_frames
    (attachable : Attachable shared finalNext epoch delivered.length receiver)
    (empty : receiver.acceptedAttachment = none)
    (fresh : receiver.attachmentReplay.accepts receiver.epoch = true)
    (reissued : Reissued shared.flowId receiver.epoch sent base segments)
    (reached : base ≤ delivered.length) (inOrder : delivered <+: sent)
    (representable : sent.length < 2 ^ 64)
    (unfinished : ∀ final, finalNext = some final →
      sent.length ≤ final.value.toNat)
    {received : List Frame}
    (front : received <+: frames hmac shared receiver.epoch
      replacement.attachmentId segments) :
    ∃ outcomes dispatcher after,
      (SessionFrameDispatcher.new shared.sessionId replacement.carrier
        shared.authenticator).dispatchAll hmac receiver received =
          (outcomes, dispatcher, after) ∧
      (∀ outcome ∈ outcomes, Smooth outcome) ∧
      delivered ++ deliveredBy outcomes <+: sent ∧
      (received = frames hmac shared receiver.epoch replacement.attachmentId
        segments → delivered ++ deliveredBy outcomes = sent) ∧
      Attachable shared finalNext epoch
        (delivered ++ deliveredBy outcomes).length after := by
  rcases List.prefix_cons_iff.mp front with rfl | ⟨later, rfl, isFront⟩
  · -- Not even the attachment arrived.
    refine ⟨[], _, receiver, rfl, nofun, ?_, nofun, ?_⟩
    · rw [show deliveredBy [] = [] from rfl, List.append_nil]
      exact inOrder
    · rw [show deliveredBy [] = [] from rfl, List.append_nil]
      exact attachable
  obtain ⟨response, attached, dispatched, staged, negotiated, kept, replay,
    opened⟩ := dispatch_attach hmac replacement.carrier
      replacement.attachmentId attachable.bound empty fresh
  obtain ⟨flow, found, cursor, final⟩ := attachable.flow
  have awaiting : Awaiting shared.flowId receiver.epoch finalNext
      delivered.length attached := by
    refine ⟨?_, flow, by rw [kept]; exact found, cursor, final⟩
    apply SessionTracer.requireValidEpoch_eq_ok_iff.mpr
    rw [SessionTracer.epoch, SessionTracer.epoch, staged]
    exact .inl rfl
  have isTaken : later =
      (segments.take later.length).map Segment.frame := by
    rw [List.map_take]
    exact List.prefix_iff_eq_take.mp isFront
  have carried : (segments.take later.length).map Segment.copy <+:
      window sent base := by
    rw [List.map_take, reissued.carried]
    exact List.take_prefix _ _
  obtain ⟨outcomes, after, answered, smooth, taken, steady, awaits,
    further⟩ := dispatchAll_segments hmac
      (.new shared.sessionId replacement.carrier shared.authenticator)
      awaiting rfl opened carried reached inOrder
      representable
      (fun segment member =>
        reissued.onFlow segment (List.mem_of_mem_take member))
      (fun segment member =>
        reissued.stamped segment (List.mem_of_mem_take member))
      unfinished
  rw [← isTaken] at answered
  have together : delivered ++
      deliveredBy (.ok (.attachmentAccepted response) :: outcomes) =
        ((segments.take later.length).map Segment.copy).foldl accept
          delivered := taken
  refine ⟨.ok (.attachmentAccepted response) :: outcomes,
    .new shared.sessionId replacement.carrier shared.authenticator, after,
    ?_, ?_, ?_, ?_, ?_⟩
  · simp only [SessionFrameDispatcher.dispatchAll, dispatched, answered]
  · intro outcome member
    rcases List.mem_cons.mp member with rfl | older
    · exact .inl ⟨response, rfl⟩
    · exact smooth outcome older
  · rw [together]
    exact further
  · intro every
    have whole : later.length = segments.length := by
      have lengths := congrArg List.length every
      simpa [frames] using lengths
    rw [together, whole, List.take_length, reissued.carried]
    exact accept_window inOrder reached
  · rw [together]
    refine ⟨?_, ?_, ?_, awaits.flow⟩
    · rw [SessionTracer.epoch, steady.transition, staged]
      exact attachable.current
    · rw [steady.negotiated, negotiated]
      exact attachable.bound
    · intro latest recorded
      rw [steady.replay, replay] at recorded
      cases recorded
      exact Nat.le_of_eq attachable.current

variable (hmac replacement) in
/-- One carrier, whatever arrives of it. -/
theorem migrate_delivers {sender : SessionTracer}
    (retaining : Retaining shared.flowId epoch sent base sender)
    (attachable : Attachable shared finalNext epoch delivered.length receiver)
    (room : epoch + 1 < 2 ^ 64) (reached : base ≤ delivered.length)
    (inOrder : delivered <+: sent) (representable : sent.length < 2 ^ 64)
    (unfinished : ∀ final, finalNext = some final →
      sent.length ≤ final.value.toNat)
    (carriable : ∀ bytes ∈ sent, Carriable bytes) :
    ∃ migrated sending receiving,
      migrate hmac shared sender receiver replacement =
        some (migrated, sending, receiving) ∧
      Clean migrated.read ∧
      (∀ outcome ∈ migrated.dispatched, Smooth outcome) ∧
      delivered ++ deliveredBy migrated.dispatched <+: sent ∧
      (migrated.arrived = migrated.stream →
        delivered ++ deliveredBy migrated.dispatched = sent) ∧
      Retaining shared.flowId (epoch + 1) sent base sending ∧
      Attachable shared finalNext (epoch + 1)
        (delivered ++ deliveredBy migrated.dispatched).length receiving := by
  obtain ⟨current, sending, segments, senderBegins, resumed, following,
    reissued, retains⟩ := retaining.next room
  obtain ⟨same, receiving, receiverBegins, alike, onEpoch, empty, fresh,
    attachable⟩ := attachable.next room
  obtain rfl : same = current := by
    obtain ⟨number⟩ := same
    obtain ⟨other⟩ := current
    have equal : number = other :=
      UInt64.toNat_inj.mp (alike.trans following.symm)
    rw [equal]
  have payloads : ∀ segment ∈ segments, Carriable segment.bytes := by
    intro segment member
    have listed : segment.copy ∈ window sent base := by
      rw [← reissued.carried]
      exact List.mem_map_of_mem member
    have faithful := (mem_window_iff.mp listed).2
    exact carriable _ (List.mem_of_getElem? faithful)
  obtain ⟨encodings, encodes, admissible⟩ := encode_frames hmac shared
    same replacement.attachmentId payloads
  obtain ⟨decoder, created⟩ : ∃ decoder,
      FrameDecoder.new maxFramePayload = .ok decoder := ⟨_, rfl⟩
  have broken : encodings.flatten =
      (arriving replacement.sizes encodings.flatten).flatten ++
        encodings.flatten.drop replacement.sizes.sum := by
    rw [arriving_flatten, List.take_append_drop]
  obtain ⟨clean, front, complete⟩ := pushAll_broken admissible created broken
  subst onEpoch
  obtain ⟨outcomes, dispatcher, after, answered, smooth, further, all,
    attaches⟩ := dispatchAll_frames hmac replacement attachable empty
      fresh reissued reached inOrder representable unfinished front
  refine ⟨{
    stream := encodings.flatten
    arrived := (arriving replacement.sizes encodings.flatten).flatten
    read :=
      (decoder.pushAll (arriving replacement.sizes encodings.flatten)).1
    dispatched := outcomes }, sending, after, ?_, ?_⟩
  · simp only [migrate, senderBegins, receiverBegins, resumed, created,
      encodes, read, answered]
  refine ⟨clean, smooth, further, ?_, retains, attaches⟩
  intro whole
  apply all
  apply complete
  apply List.eq_nil_of_length_eq_zero
  have lengths := congrArg List.length broken
  have arrived : (arriving replacement.sizes encodings.flatten).flatten =
      encodings.flatten := whole
  rw [arrived, List.length_append] at lengths
  omega

/-- One carrier after the other, whatever arrives of each. -/
theorem migrateAll_delivers {replacements : List Replacement}
    {sender : SessionTracer}
    (retaining : Retaining shared.flowId epoch sent base sender)
    (attachable : Attachable shared finalNext epoch delivered.length receiver)
    (room : epoch + replacements.length < 2 ^ 64)
    (reached : base ≤ delivered.length) (inOrder : delivered <+: sent)
    (representable : sent.length < 2 ^ 64)
    (unfinished : ∀ final, finalNext = some final →
      sent.length ≤ final.value.toNat)
    (carriable : ∀ bytes ∈ sent, Carriable bytes) :
    ∃ migrations sending receiving,
      migrateAll hmac shared sender receiver replacements =
        some (migrations, sending, receiving) ∧
      migrations.length = replacements.length ∧
      (∀ migrated ∈ migrations, Clean migrated.read ∧
        ∀ outcome ∈ migrated.dispatched, Smooth outcome) ∧
      delivered ++ deliveredBy (migrations.flatMap Migrated.dispatched) <+:
        sent ∧
      ((∃ migrated ∈ migrations, migrated.arrived = migrated.stream) →
        delivered ++ deliveredBy (migrations.flatMap Migrated.dispatched) =
          sent) := by
  induction replacements generalizing epoch delivered sender receiver with
  | nil =>
      refine ⟨[], sender, receiver, rfl, rfl, nofun, ?_, nofun⟩
      rw [show deliveredBy ([].flatMap Migrated.dispatched) = [] from rfl,
        List.append_nil]
      exact inOrder
  | cons replacement rest induction =>
      rw [List.length_cons] at room
      obtain ⟨migrated, sending, receiving, carried, clean, smooth, further,
        complete, retains, attaches⟩ := migrate_delivers hmac
          replacement retaining attachable (by omega)
          reached inOrder representable unfinished carriable
      have longer : base ≤
          (delivered ++ deliveredBy migrated.dispatched).length := by
        rw [List.length_append]
        omega
      obtain ⟨migrations, lastSender, lastReceiver, others, count, each,
        inFront, whole⟩ := induction retains attaches (by omega) longer
          further
      refine ⟨migrated :: migrations, lastSender, lastReceiver, ?_, ?_, ?_,
        ?_, ?_⟩
      · simp only [migrateAll, carried, others, Option.bind_eq_bind,
          Option.bind_some]
      · rw [List.length_cons, List.length_cons, count]
      · intro other member
        rcases List.mem_cons.mp member with rfl | later
        · exact ⟨clean, smooth⟩
        · exact each other later
      · rw [List.flatMap_cons, deliveredBy_append, ← List.append_assoc]
        exact inFront
      · intro someWhole
        rw [List.flatMap_cons, deliveredBy_append, ← List.append_assoc]
        obtain ⟨other, member, arrived⟩ := someWhole
        rcases List.mem_cons.mp member with rfl | later
        · -- Nothing is left to deliver after a carrier that was not lost.
          have full := complete arrived
          rw [full] at inFront ⊢
          exact inFront.eq_of_length_le (by simp)
        · exact whole ⟨other, later, arrived⟩

end Carrier

/-! ## From any reachable link -/

/-- The replay window never runs ahead of the epoch. -/
def ReplayBounded (session : SessionTracer) : Prop :=
  ∀ latest, session.attachmentReplay.latest = some latest →
    latest.value.toNat ≤ session.epoch.value.toNat

theorem ReplayBounded.effect {session next : SessionTracer} {action : Action}
    (bounded : ReplayBounded session) (effect : Effect session action next) :
    ReplayBounded next := by
  cases effect with
  | begun _ following =>
      intro latest recorded
      exact (bounded latest recorded).trans
        (Nat.le_of_lt (Nat.lt_of_lt_of_eq (Nat.lt_succ_self _)
          following.symm))
  | attached _ current _ =>
      intro latest recorded
      cases recorded
      rw [current]
      exact Nat.le_refl _
  | _ => exact bounded

/-- The receiver of a link is a session that was driven by calls. -/
theorem receiver_live {hmac : Hmac} {flowId : FlowId}
    {senderEpoch receiverEpoch : Epoch}
    {senderLimits receiverLimits : FlowLimits}
    {senderAccepted : senderLimits.Accepted}
    {receiverAccepted : receiverLimits.Accepted}
    {trace : List LinkEvent} {link : Link}
    (run : Run (Link.Step hmac flowId)
      (.new senderEpoch receiverEpoch senderLimits receiverLimits
        senderAccepted receiverAccepted) trace link) :
    SessionTracer.Live hmac link.receiver := by
  induction run with
  | nil => exact ⟨_, _, _, _, .nil⟩
  | @snoc _ before _ _ _ step induction =>
      cases step with
      | @receive segment receiver outcome arriving called returned =>
          have answered : SessionTracer.Step hmac before.receiver
              ⟨.receive segment, outcome.bimap .received .trace⟩ receiver := by
            constructor
            · simp only [SessionTracer.perform, SessionTracer.tag, called]
            · simpa using returned
          exact induction.step answered
      | receiverCall step => exact induction.step step
      | _ => exact induction

/-- From any reachable link with the flow open on both sides at one epoch,
with its parameters bound, no final cursor in front of what was sent, and
payloads that have frames: however many carriers are lost, after whatever
byte and in whatever chunks, no read and no frame fails, the delivered bytes
stay a prefix of the sent ones, and one carrier that is not lost completes
them. -/
theorem migration_delivers (hmac : Hmac) (shared : Shared)
    (senderEpoch receiverEpoch : Epoch)
    (senderLimits receiverLimits : FlowLimits)
    (senderAccepted : senderLimits.Accepted)
    (receiverAccepted : receiverLimits.Accepted)
    (trace : List LinkEvent) (link : Link)
    (run : Run (Link.Step hmac shared.flowId)
      (.new senderEpoch receiverEpoch senderLimits receiverLimits
        senderAccepted receiverAccepted) trace link)
    (sending receiving : ReliableFlow)
    (senderOpen : link.sender.flows.get? shared.flowId = some sending)
    (receiverOpen : link.receiver.flows.get? shared.flowId = some receiving)
    (sameEpoch : link.sender.epoch = link.receiver.epoch)
    (bound : link.receiver.negotiated = some shared.parameters)
    (unfinished : ∀ final, receiving.receiveFinalNext = some final →
      sending.nextSend ≤ final)
    (carriable : ∀ bytes ∈ sentBytes trace, Carriable bytes)
    (replacements : List Replacement)
    (room : link.sender.epoch.value.toNat + replacements.length < 2 ^ 64) :
    ∃ migrations sender receiver,
      migrateAll hmac shared link.sender link.receiver replacements =
        some (migrations, sender, receiver) ∧
      migrations.length = replacements.length ∧
      (∀ migrated ∈ migrations, Clean migrated.read ∧
        ∀ outcome ∈ migrated.dispatched, Smooth outcome) ∧
      deliveredBytes trace ++
          deliveredBy (migrations.flatMap Migrated.dispatched) <+:
        sentBytes trace ∧
      ((∃ migrated ∈ migrations, migrated.arrived = migrated.stream) →
        deliveredBytes trace ++
            deliveredBy (migrations.flatMap Migrated.dispatched) =
          sentBytes trace) := by
  have delivering := Link.run_delivering run
  have cursor := delivering.sender.nextSend senderOpen
  obtain ⟨base, below, queue⟩ := delivering.sender.queue senderOpen
  have retaining : Retaining shared.flowId link.sender.epoch.value.toNat
      (sentBytes trace) base link.sender := by
    refine ⟨rfl, sending, senderOpen, ?_,
      delivering.senderAccounted.owner senderOpen⟩
    have stored := congrArg (List.map Segment.copy) queue
    rw [List.map_drop, delivering.numbered, window_drop, Nat.zero_add]
      at stored
    rw [Link.run_sentBytes run, ← stored, List.map_map]
    rfl
  have attachable : Attachable shared receiving.receiveFinalNext
      link.sender.epoch.value.toNat (deliveredBytes trace).length
      link.receiver := by
    have bounded : ReplayBounded link.receiver :=
      (receiver_live run).invariant (fun _ _ _ => nofun) ReplayBounded.effect
    refine ⟨by rw [sameEpoch], bound, ?_, receiving, receiverOpen,
      delivering.receiver.nextReceive receiverOpen, rfl⟩
    rw [sameEpoch]
    exact bounded
  have length : (sentBytes trace).length = (sentSegments trace).length := by
    rw [Link.run_sentBytes run, List.length_map]
  have representable := sending.nextSend.value.toNat_lt
  refine migrateAll_delivers retaining attachable room below ?_ (by omega) ?_
    carriable
  · rw [Link.run_sentBytes run]
    exact delivering.inOrder
  · intro final recorded
    have beyond := unfinished final recorded
    rw [Sequence.le_iff] at beyond
    omega

/-- A link with one of two segments delivered. -/
private theorem halfDelivered_run :
    ∃ trace link, Run (Link.Step testHmac ⟨0⟩)
        (.new ⟨0⟩ ⟨0⟩ smallLimits smallLimits (by decide) (by decide))
        trace link ∧
      sentBytes trace = [[1, 2], [3]] ∧ deliveredBytes trace = [[1, 2]] ∧
      link.sender.epoch = ⟨0⟩ ∧ link.receiver.epoch = ⟨0⟩ ∧
      link.receiver.negotiated = some testParameters ∧
      (∃ flow, link.sender.flows.get? ⟨0⟩ = some flow) ∧
      (∃ flow, link.receiver.flows.get? ⟨0⟩ = some flow ∧
        flow.receiveFinalNext = none) := by
  let first : Segment := ⟨⟨0⟩, ⟨0⟩, ⟨0⟩, [1, 2]⟩
  have start := (Run.nil : Run (Link.Step testHmac ⟨0⟩)
    (.new ⟨0⟩ ⟨0⟩ smallLimits smallLimits (by decide) (by decide)) [] _)
  have bound := start.snoc (.receiverCall (⟨rfl, by decide⟩ :
    SessionTracer.Step _ _ ⟨.bindNegotiatedParameters testParameters, _⟩ _)
      id)
  have senderOpen := bound.snoc (.senderCall
    (⟨rfl, by decide⟩ : SessionTracer.Step _ _ ⟨.openReliableFlow, _⟩ _) id)
  have bothOpen := senderOpen.snoc (.receiverCall
    (⟨rfl, by decide⟩ : SessionTracer.Step _ _ ⟨.openReliableFlow, _⟩ _) id)
  have firstSent := bothOpen.snoc
    (.send (rfl : SessionTracer.send _ ⟨0⟩ [1, 2] = (.ok first, _)))
  have bothSent := firstSent.snoc
    (.send (rfl : SessionTracer.send _ ⟨0⟩ [3] =
      (.ok ⟨⟨0⟩, ⟨0⟩, ⟨1⟩, [3]⟩, _)))
  have onWire := bothSent.snoc (.transmit (by decide : first ∈ _))
  have arrived := onWire.snoc
    (.receive (by decide : first ∈ _) rfl (by decide))
  exact ⟨_, _, arrived, rfl, rfl, rfl, rfl, rfl, ⟨_, rfl⟩, ⟨_, rfl, rfl⟩⟩

/-- The first carrier is lost inside a segment. -/
theorem migration_delivers_twice :
    ∃ (trace : List LinkEvent) (link : Link) (migrations : List Migrated)
      (sender receiver : SessionTracer),
      sentBytes trace = [[1, 2], [3]] ∧ deliveredBytes trace = [[1, 2]] ∧
      migrateAll testHmac
        ⟨testAuthenticator, testSessionId, testParameters, ⟨0⟩⟩
        link.sender link.receiver
        [⟨⟨5⟩, testAttachmentId, [100, 30]⟩,
          ⟨⟨6⟩, replacementAttachmentId, [7, 500]⟩] =
        some (migrations, sender, receiver) ∧
      (∀ migrated ∈ migrations, Clean migrated.read) ∧
      deliveredBytes trace ++
          deliveredBy (migrations.flatMap Migrated.dispatched) <+:
        [[1, 2], [3]] := by
  obtain ⟨trace, link, run, sent, delivered, sending, receiving, bound,
    ⟨sendingFlow, senderOpen⟩, receivingFlow, receiverOpen, unfinished⟩ :=
      halfDelivered_run
  obtain ⟨migrations, sender, receiver, carried, _, smooth, further, _⟩ :=
    migration_delivers testHmac
      ⟨testAuthenticator, testSessionId, testParameters, ⟨0⟩⟩ _ _ _ _ _ _
      trace link run sendingFlow receivingFlow senderOpen receiverOpen
      (sending.trans receiving.symm) bound (by simp [unfinished])
      (by rw [sent]; decide)
      [⟨⟨5⟩, testAttachmentId, [100, 30]⟩,
        ⟨⟨6⟩, replacementAttachmentId, [7, 500]⟩]
      (by rw [sending]; decide)
  exact ⟨trace, link, migrations, sender, receiver, sent, delivered, carried,
    fun migrated member => (smooth migrated member).1, sent ▸ further⟩

end Migration

end Velum.Session
