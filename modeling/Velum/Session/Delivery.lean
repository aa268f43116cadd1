import Velum.Foundation.OrderedDelivery
import Velum.Session.Accounting

/-!
# Reliable delivery over a lossy network

Two sessions share one flow.  Whatever the sender returns may be put on the
wire any number of times, and a copy on the wire may be lost or arrive at any
later time.  An acknowledgement is honest when it lies below the receiver's
cursor at the time it is issued; it may arrive late and more than once.  All
other calls may happen on either side at any time.
-/

namespace Velum.Session

open Foundation
open Velum.Protocol
open Velum.Crypto

/-- Two sessions and the network between them, as seen by one flow. -/
structure Link where
  sender : SessionTracer
  receiver : SessionTracer
  /-- Every segment that the sender has returned for the flow. -/
  issued : List Segment
  inFlight : List Segment
  acknowledgements : List Acknowledgement

inductive LinkEvent where
  | sent (bytes : List UInt8) (outcome : Outcome Panic TraceError Segment)
  | reissued (segments : List Segment)
  | transmitted (segment : Segment)
  | lost (segment : Segment)
  | received (segment : Segment)
      (outcome : Outcome Panic TraceError ReceiveResult)
  | acknowledgementIssued (acknowledgement : Acknowledgement)
  | acknowledged (acknowledgement : Acknowledgement)
      (outcome : Outcome Panic TraceError Unit)
  | senderCalled (exchange : Exchange)
  | receiverCalled (exchange : Exchange)

/-- Segments returned by the successful sends, oldest first. -/
def sentSegments (trace : List LinkEvent) : List Segment :=
  trace.filterMap fun
    | .sent _ (.ok segment) => some segment
    | _ => none

/-- Byte strings passed to the successful sends. -/
def sentBytes (trace : List LinkEvent) : List (List UInt8) :=
  trace.filterMap fun
    | .sent bytes (.ok _) => some bytes
    | _ => none

/-- Byte strings returned as delivered. -/
def deliveredBytes (trace : List LinkEvent) : List (List UInt8) :=
  trace.filterMap fun
    | .received _ (.ok (.delivered bytes)) => some bytes
    | _ => none

namespace Link

def new (senderEpoch receiverEpoch : Epoch)
    (senderLimits receiverLimits : FlowLimits)
    (senderAccepted : senderLimits.Accepted)
    (receiverAccepted : receiverLimits.Accepted) : Link where
  sender := .new senderEpoch senderLimits senderAccepted
  receiver := .new receiverEpoch receiverLimits receiverAccepted
  issued := []
  inFlight := []
  acknowledgements := []

/-- One step of the two sessions or of the network.  The flow is opened,
closed, reset, and timed out by ordinary calls on either side; only sends and
acknowledgements at the sender and arrivals at the receiver are tied to the
network. -/
inductive Step (hmac : Hmac) (flowId : FlowId) :
    Link → LinkEvent → Link → Prop where
  | send {link : Link} {bytes : List UInt8} {sender : SessionTracer}
      {segment : Segment}
      (called : link.sender.send flowId bytes = (.ok segment, sender)) :
      Step hmac flowId link (.sent bytes (.ok segment))
        { link with sender, issued := segment :: link.issued }
  | sendFailed {link : Link} {bytes : List UInt8} {sender : SessionTracer}
      {failure : TraceError}
      (called : link.sender.send flowId bytes = (.err failure, sender)) :
      Step hmac flowId link (.sent bytes (.err failure)) { link with sender }
  | pending {link : Link} {segments : List Segment}
      (listed : link.sender.pending flowId = .ok segments) :
      Step hmac flowId link (.reissued segments)
        { link with issued := segments ++ link.issued }
  | resume {link : Link} {segments : List Segment}
      (listed : link.sender.resumeUnacknowledged flowId = .ok segments) :
      Step hmac flowId link (.reissued segments)
        { link with issued := segments ++ link.issued }
  | transmit {link : Link} {segment : Segment}
      (known : segment ∈ link.issued) :
      Step hmac flowId link (.transmitted segment)
        { link with inFlight := segment :: link.inFlight }
  | lose {link : Link} {segment : Segment} :
      Step hmac flowId link (.lost segment)
        { link with inFlight := link.inFlight.erase segment }
  | receive {link : Link} {segment : Segment} {receiver : SessionTracer}
      {outcome : Outcome Panic TraceError ReceiveResult}
      (arriving : segment ∈ link.inFlight)
      (called : link.receiver.receive segment = (outcome, receiver))
      (returned : outcome.Returned) :
      Step hmac flowId link (.received segment outcome)
        { link with receiver, inFlight := link.inFlight.erase segment }
  | issueAcknowledgement {link : Link} {acknowledgement : Acknowledgement}
      {flow : ReliableFlow}
      (live : link.receiver.flows.get? flowId = some flow)
      (onFlow : acknowledgement.flowId = flowId)
      (honest : acknowledgement.through < flow.nextReceive) :
      Step hmac flowId link (.acknowledgementIssued acknowledgement)
        { link with
          acknowledgements := acknowledgement :: link.acknowledgements }
  | acknowledge {link : Link} {acknowledgement : Acknowledgement}
      {sender : SessionTracer} {outcome : Outcome Panic TraceError Unit}
      (arriving : acknowledgement ∈ link.acknowledgements)
      (called : link.sender.acknowledge acknowledgement = (outcome, sender))
      (returned : outcome.Returned) :
      Step hmac flowId link (.acknowledged acknowledgement outcome)
        { link with sender }
  | senderCall {link : Link} {exchange : Exchange} {sender : SessionTracer}
      (step : SessionTracer.Step hmac link.sender exchange sender)
      (elsewhere : ¬exchange.call.SendsOn flowId) :
      Step hmac flowId link (.senderCalled exchange) { link with sender }
  | receiverCall {link : Link} {exchange : Exchange}
      {receiver : SessionTracer}
      (step : SessionTracer.Step hmac link.receiver exchange receiver)
      (elsewhere : ¬exchange.call.DeliversOn flowId) :
      Step hmac flowId link (.receiverCalled exchange) { link with receiver }

end Link

/-! ## The sender's queue -/

/-- The copy of a payload that a segment carries. -/
def Segment.copy (segment : Segment) : List UInt8 × Nat :=
  (segment.bytes, segment.sequence.value.toNat)

/-- The send side of the flow against the segments it has returned: the queue
holds what was sent from some position at or below `reached` on. -/
structure SenderSide (flowId : FlowId) (sent : List Segment)
    (reached : Nat) (session : SessionTracer) : Prop where
  unopened : session.nextFlow.toNat ≤ flowId.value.toNat → sent = []
  nextSend : ∀ {flow}, session.flows.get? flowId = some flow →
    flow.nextSend.value.toNat = sent.length
  queue : ∀ {flow}, session.flows.get? flowId = some flow →
    ∃ base ≤ reached,
      flow.pending.map PendingSegment.segment = sent.drop base

/-- The receive cursor of the flow. -/
structure ReceiverSide (flowId : FlowId) (cursor : Nat)
    (session : SessionTracer) : Prop where
  unopened : session.nextFlow.toNat ≤ flowId.value.toNat → cursor = 0
  nextReceive : ∀ {flow}, session.flows.get? flowId = some flow →
    flow.nextReceive.value.toNat = cursor

theorem SenderSide.effect {flowId : FlowId} {sent : List Segment}
    {reached : Nat} {session next : SessionTracer} {action : Action}
    (side : SenderSide flowId sent reached session)
    (elsewhere : ¬action.SendsOn flowId)
    (effect : Effect session action next) :
    SenderSide flowId sent reached next := by
  have grows := effect.nextFlow_le
  refine ⟨?_, ?_, ?_⟩
  · intro fresh
    exact side.unopened (by omega)
  · intro flow found
    rcases effect.flow_frame found with
      ⟨fresh, rfl⟩ | ⟨old, present, unsent, _⟩
    · rw [side.unopened fresh]
      rfl
    · rw [(unsent elsewhere).1]
      exact side.nextSend present
  · intro flow found
    rcases effect.flow_frame found with
      ⟨fresh, rfl⟩ | ⟨old, present, unsent, _⟩
    · rw [side.unopened fresh]
      exact ⟨0, Nat.zero_le _, rfl⟩
    · rw [(unsent elsewhere).2]
      exact side.queue present

theorem ReceiverSide.effect {flowId : FlowId} {cursor : Nat}
    {session next : SessionTracer} {action : Action}
    (side : ReceiverSide flowId cursor session)
    (elsewhere : ¬action.DeliversOn flowId)
    (effect : Effect session action next) :
    ReceiverSide flowId cursor next := by
  have grows := effect.nextFlow_le
  refine ⟨?_, ?_⟩
  · intro fresh
    exact side.unopened (by omega)
  · intro flow found
    rcases effect.flow_frame found with
      ⟨fresh, rfl⟩ | ⟨old, present, _, undelivered⟩
    · rw [side.unopened fresh]
      rfl
    · rw [undelivered elsewhere]
      exact side.nextReceive present

theorem SenderSide.step {hmac : Hmac} {flowId : FlowId}
    {sent : List Segment} {reached : Nat} {session next : SessionTracer}
    {exchange : Exchange} (side : SenderSide flowId sent reached session)
    (elsewhere : ¬exchange.call.SendsOn flowId)
    (step : SessionTracer.Step hmac session exchange next) :
    SenderSide flowId sent reached next :=
  step.invariant_on (SenderSide flowId sent reached)
    (fun held permitted effect =>
      held.effect (fun sends => elsewhere (permitted.sendsOn sends)) effect)
    side

theorem ReceiverSide.step {hmac : Hmac} {flowId : FlowId} {cursor : Nat}
    {session next : SessionTracer} {exchange : Exchange}
    (side : ReceiverSide flowId cursor session)
    (elsewhere : ¬exchange.call.DeliversOn flowId)
    (step : SessionTracer.Step hmac session exchange next) :
    ReceiverSide flowId cursor next :=
  step.invariant_on (ReceiverSide flowId cursor)
    (fun held permitted effect =>
      held.effect (fun delivers => elsewhere (permitted.deliversOn delivers))
        effect)
    side

/-- A send extends the list of sent segments and the queue alike. -/
theorem SenderSide.retain {sent : List Segment} {reached : Nat}
    {session next : SessionTracer} {segment : Segment}
    (side : SenderSide segment.flowId sent reached session)
    (bounded : reached ≤ sent.length) (accounted : session.Accounted)
    (effect : Effect session (.retained segment) next) :
    SenderSide segment.flowId (sent ++ [segment]) reached next ∧
      segment.sequence.value.toNat = sent.length := by
  cases effect with
  | retained found segmentRoom byteRoom flowSegmentRoom flowByteRoom current
      numbered following deadline =>
      have known := accounted.identified found
      have cursor := side.nextSend found
      refine ⟨⟨?_, ?_, ?_⟩, ?_⟩
      · intro fresh
        exact absurd known (Nat.not_lt.mpr fresh)
      · intro flow stored
        simp only [OrderedMap.get?_insert_self, Option.some.injEq] at stored
        subst stored
        rw [List.length_append, List.length_singleton, following, cursor]
      · intro flow stored
        simp only [OrderedMap.get?_insert_self, Option.some.injEq] at stored
        subst stored
        obtain ⟨base, below, queue⟩ := side.queue found
        refine ⟨base, below, ?_⟩
        rw [List.map_append, queue,
          List.drop_append_of_le_length (below.trans bounded)]
        rfl
      · rw [numbered]
        exact cursor

/-- An acknowledgement below `reached` leaves a suffix of the queue that
starts at or below `reached`. -/
theorem SenderSide.release {sent : List Segment} {reached : Nat}
    {session next : SessionTracer} {acknowledgement : Acknowledgement}
    (side : SenderSide acknowledgement.flowId sent reached session)
    (numbered : sent.map Segment.copy = window (sent.map Segment.bytes) 0)
    (honest : acknowledgement.through.value.toNat < reached)
    (accounted : session.Accounted)
    (effect : Effect session (.released acknowledgement) next) :
    SenderSide acknowledgement.flowId sent reached next := by
  cases effect with
  | @released _ flow covered kept _ _ _ found _ _ _ split coveredBelow =>
      have known := accounted.identified found
      refine ⟨?_, ?_, ?_⟩
      · intro fresh
        exact absurd known (Nat.not_lt.mpr fresh)
      · intro stored lookup
        simp only [OrderedMap.get?_insert_self, Option.some.injEq] at lookup
        subst lookup
        change flow.nextSend.value.toNat = sent.length
        exact side.nextSend found
      · intro stored lookup
        simp only [OrderedMap.get?_insert_self, Option.some.injEq] at lookup
        subst lookup
        obtain ⟨base, below, queue⟩ := side.queue found
        rw [split, List.map_append] at queue
        have suffix : kept.map PendingSegment.segment =
            sent.drop (base + covered.length) := by
          rw [← List.drop_drop, ← queue, List.drop_left' (by simp)]
        have copies : window (sent.map Segment.bytes) base =
            (covered.map PendingSegment.segment).map Segment.copy ++
              (kept.map PendingSegment.segment).map Segment.copy := by
          rw [← List.map_append, queue, List.map_drop, numbered,
            window_drop, Nat.zero_add]
        have coveredCopies : ∀ copy ∈
            (covered.map PendingSegment.segment).map Segment.copy,
            copy.2 < reached := by
          intro copy member
          simp only [List.map_map, List.mem_map, Function.comp] at member
          obtain ⟨pending, pendingMember, rfl⟩ := member
          have reachedBy := coveredBelow pending pendingMember
          rw [Sequence.le_iff] at reachedBy
          change pending.segment.sequence.value.toNat < reached
          omega
        have released := window_split copies coveredCopies below
        simp only [List.length_map] at released
        exact ⟨base + covered.length, released, suffix⟩

/-- A delivery advances the cursor past the position of its segment. -/
theorem ReceiverSide.deliver {cursor : Nat} {session next : SessionTracer}
    {segment : Segment}
    (side : ReceiverSide segment.flowId cursor session)
    (accounted : session.Accounted)
    (effect : Effect session (.delivered segment) next) :
    ReceiverSide segment.flowId (cursor + 1) next ∧
      segment.sequence.value.toNat = cursor := by
  cases effect with
  | delivered found valid unfinished inOrder following =>
      have known := accounted.identified found
      have position := side.nextReceive found
      refine ⟨⟨?_, ?_⟩, ?_⟩
      · intro fresh
        exact absurd known (Nat.not_lt.mpr fresh)
      · intro flow lookup
        simp only [SessionTracer.setFlow, OrderedMap.get?_insert_self,
          Option.some.injEq] at lookup
        subst lookup
        rw [following, position]
      · rw [inOrder]
        exact position

theorem SenderSide.mono {flowId : FlowId} {sent : List Segment}
    {reached further : Nat} {session : SessionTracer}
    (side : SenderSide flowId sent reached session)
    (forward : reached ≤ further) :
    SenderSide flowId sent further session := by
  refine ⟨side.unopened, side.nextSend, ?_⟩
  intro flow found
  obtain ⟨base, below, queue⟩ := side.queue found
  exact ⟨base, below.trans forward, queue⟩

/-! ## The joint invariant -/

/-- What holds of both sessions and of every copy on the network, given the
segments sent and the byte strings delivered so far. -/
structure Link.Delivering (flowId : FlowId) (sent : List Segment)
    (delivered : List (List UInt8)) (link : Link) : Prop where
  senderAccounted : link.sender.Accounted
  receiverAccounted : link.receiver.Accounted
  numbered : sent.map Segment.copy = window (sent.map Segment.bytes) 0
  sender : SenderSide flowId sent delivered.length link.sender
  receiver : ReceiverSide flowId delivered.length link.receiver
  inOrder : delivered <+: sent.map Segment.bytes
  issued : ∀ segment ∈ link.issued, segment.flowId = flowId ∧
    Faithful (sent.map Segment.bytes) segment.copy
  inFlight : ∀ segment ∈ link.inFlight, segment ∈ link.issued
  acknowledgements : ∀ acknowledgement ∈ link.acknowledgements,
    acknowledgement.flowId = flowId ∧
      acknowledgement.through.value.toNat < delivered.length

namespace Link.Delivering

variable {flowId : FlowId} {sent : List Segment}
  {delivered : List (List UInt8)} {link : Link}

theorem new (flowId : FlowId) (senderEpoch receiverEpoch : Epoch)
    (senderLimits receiverLimits : FlowLimits)
    (senderAccepted : senderLimits.Accepted)
    (receiverAccepted : receiverLimits.Accepted) :
    (Link.new senderEpoch receiverEpoch senderLimits receiverLimits
      senderAccepted receiverAccepted).Delivering flowId [] [] where
  senderAccounted := .new _ _ _
  receiverAccounted := .new _ _ _
  numbered := rfl
  sender :=
    { unopened := fun _ => rfl
      nextSend := by simp [Link.new, SessionTracer.new]
      queue := by simp [Link.new, SessionTracer.new] }
  receiver :=
    { unopened := fun _ => rfl
      nextReceive := by simp [Link.new, SessionTracer.new] }
  inOrder := List.prefix_rfl
  issued := by simp [Link.new]
  inFlight := by simp [Link.new]
  acknowledgements := by simp [Link.new]

theorem delivered_le_sent (delivering : link.Delivering flowId sent delivered) :
    delivered.length ≤ sent.length := by
  simpa using delivering.inOrder.length_le

/-- A segment of the queue is faithful, whatever epoch it is stamped with. -/
theorem pending_faithful
    (delivering : link.Delivering flowId sent delivered)
    {flow : ReliableFlow}
    (found : link.sender.flows.get? flowId = some flow)
    {pending : PendingSegment} (member : pending ∈ flow.pending) :
    pending.segment.flowId = flowId ∧
      Faithful (sent.map Segment.bytes) pending.segment.copy := by
  refine ⟨delivering.senderAccounted.owner found pending member, ?_⟩
  obtain ⟨base, _, queue⟩ := delivering.sender.queue found
  have queued : pending.segment ∈ sent := by
    apply List.mem_of_mem_drop
    rw [← queue]
    exact List.mem_map_of_mem member
  have copied : pending.segment.copy ∈
      window (sent.map Segment.bytes) 0 := by
    rw [← delivering.numbered]
    exact List.mem_map_of_mem queued
  exact (mem_window_iff.mp copied).2

/-- The sender moved without sending or releasing on the flow. -/
theorem with_sender (delivering : link.Delivering flowId sent delivered)
    {sender : SessionTracer} (accounted : sender.Accounted)
    (side : SenderSide flowId sent delivered.length sender) :
    { link with sender }.Delivering flowId sent delivered :=
  { delivering with senderAccounted := accounted, sender := side }

/-- The receiver moved without delivering on the flow. -/
theorem with_receiver (delivering : link.Delivering flowId sent delivered)
    {receiver : SessionTracer} (accounted : receiver.Accounted)
    (side : ReceiverSide flowId delivered.length receiver) :
    { link with receiver }.Delivering flowId sent delivered :=
  { delivering with receiverAccounted := accounted, receiver := side }

theorem with_inFlight (delivering : link.Delivering flowId sent delivered)
    {inFlight : List Segment}
    (known : ∀ segment ∈ inFlight, segment ∈ link.issued) :
    { link with inFlight }.Delivering flowId sent delivered :=
  { delivering with inFlight := known }

theorem with_issued (delivering : link.Delivering flowId sent delivered)
    {segments : List Segment}
    (faithful : ∀ segment ∈ segments, segment.flowId = flowId ∧
      Faithful (sent.map Segment.bytes) segment.copy) :
    { link with issued := segments ++ link.issued }.Delivering flowId sent
      delivered := by
  refine { delivering with issued := ?_, inFlight := ?_ }
  · intro segment member
    rcases List.mem_append.mp member with reissued | older
    · exact faithful segment reissued
    · exact delivering.issued segment older
  · intro segment member
    exact List.mem_append_right _ (delivering.inFlight segment member)

/-- A successful send. -/
theorem sent_step (delivering : link.Delivering flowId sent delivered)
    {sender : SessionTracer} {segment : Segment}
    (onFlow : segment.flowId = flowId)
    (effect : Effect link.sender (.retained segment) sender) :
    { link with sender, issued := segment :: link.issued }.Delivering flowId
      (sent ++ [segment]) delivered := by
  subst onFlow
  obtain ⟨side, position⟩ := delivering.sender.retain
    delivering.delivered_le_sent delivering.senderAccounted effect
  have copied : segment.copy =
      (segment.bytes, (sent.map Segment.bytes).length) := by
    rw [List.length_map, ← position]
    rfl
  refine
    { senderAccounted := delivering.senderAccounted.effect effect
      receiverAccounted := delivering.receiverAccounted
      numbered := ?_
      sender := side
      receiver := delivering.receiver
      inOrder := ?_
      issued := ?_
      inFlight := fun other member =>
        List.mem_cons_of_mem _ (delivering.inFlight other member)
      acknowledgements := delivering.acknowledgements }
  · rw [List.map_append, List.map_append, delivering.numbered,
      List.map_singleton, List.map_singleton,
      window_append (Nat.zero_le _), copied]
  · rw [List.map_append]
    exact delivering.inOrder.trans (List.prefix_append _ _)
  · intro other member
    rw [List.map_append, List.map_singleton]
    rcases List.mem_cons.mp member with rfl | older
    · refine ⟨rfl, ?_⟩
      rw [copied]
      exact Faithful.last _ _
    · obtain ⟨onFlow, faithful⟩ := delivering.issued other older
      exact ⟨onFlow, faithful.append _⟩

/-- A delivery of a faithful copy. -/
theorem delivered_step (delivering : link.Delivering flowId sent delivered)
    {receiver : SessionTracer} {segment : Segment}
    (arriving : segment ∈ link.inFlight)
    (effect : Effect link.receiver (.delivered segment) receiver) :
    { link with receiver }.Delivering flowId sent
      (delivered ++ [segment.bytes]) := by
  obtain ⟨rfl, faithful⟩ :=
    delivering.issued segment (delivering.inFlight segment arriving)
  obtain ⟨side, position⟩ := delivering.receiver.deliver
    delivering.receiverAccounted effect
  have length : (delivered ++ [segment.bytes]).length =
      delivered.length + 1 := by simp
  have accepted : accept delivered segment.copy =
      delivered ++ [segment.bytes] := by
    rw [accept, if_pos (show segment.copy.2 = _ from position)]
    rfl
  refine
    { senderAccounted := delivering.senderAccounted
      receiverAccounted := delivering.receiverAccounted.effect effect
      numbered := delivering.numbered
      sender := delivering.sender.mono (by omega)
      receiver := length ▸ side
      inOrder := accepted ▸ accept_inOrder delivering.inOrder faithful
      issued := delivering.issued
      inFlight := delivering.inFlight
      acknowledgements := ?_ }
  intro acknowledgement member
  obtain ⟨onFlow, below⟩ :=
    delivering.acknowledgements acknowledgement member
  exact ⟨onFlow, by omega⟩

/-- An event that neither sends nor delivers leaves both histories. -/
private theorem of_silent {event : LinkEvent}
    (delivering : link.Delivering flowId sent delivered)
    (unsent : sentSegments [event] = [])
    (undelivered : deliveredBytes [event] = []) :
    link.Delivering flowId (sent ++ sentSegments [event])
      (delivered ++ deliveredBytes [event]) := by
  rw [unsent, undelivered, List.append_nil, List.append_nil]
  exact delivering

private theorem received_step
    (delivering : link.Delivering flowId sent delivered)
    {segment : Segment} {receiver : SessionTracer}
    {outcome : Outcome Panic TraceError ReceiveResult}
    (arriving : segment ∈ link.inFlight)
    (called : link.receiver.receive segment = (outcome, receiver))
    (returned : outcome.Returned) :
    { link with receiver }.Delivering flowId
      (sent ++ sentSegments [.received segment outcome])
      (delivered ++ deliveredBytes [.received segment outcome]) := by
  have noted : ∀ event, { link with
      receiver := link.receiver.recordEvent event }.Delivering flowId sent
        delivered := by
    intro event
    exact delivering.with_receiver
      (delivering.receiverAccounted.effect (.noted event))
      (delivering.receiver.effect id (.noted event))
  rcases SessionTracer.receive_cases called with
    ⟨failed, rfl⟩ | ⟨rfl, rfl⟩ | ⟨rfl, rfl⟩ | rfl | ⟨rfl, effect⟩
  · cases outcome with
    | err failure => exact delivering.of_silent rfl rfl
    | ok result => exact absurd failed (by simp)
    | panic cause => exact absurd failed (by simp)
  · exact (noted _).of_silent rfl rfl
  · exact (noted _).of_silent rfl rfl
  · exact absurd returned (by simp)
  · change { link with receiver }.Delivering flowId (sent ++ [])
      (delivered ++ [segment.bytes])
    rw [List.append_nil]
    exact delivering.delivered_step arriving effect

/-- Every step of the sessions and of the network keeps the invariant. -/
theorem step {hmac : Hmac} {event : LinkEvent} {next : Link}
    (delivering : link.Delivering flowId sent delivered)
    (step : Link.Step hmac flowId link event next) :
    next.Delivering flowId (sent ++ sentSegments [event])
      (delivered ++ deliveredBytes [event]) := by
  cases step with
  | send called =>
      rcases SessionTracer.send_cases called with
        ⟨failed, _⟩ | ⟨_, stopped, _⟩ | ⟨segment, same, onFlow, _, effect⟩
      · exact absurd failed (by simp)
      · cases stopped
      · cases same
        change Link.Delivering flowId (sent ++ [_]) (delivered ++ []) _
        rw [List.append_nil]
        exact delivering.sent_step onFlow effect
  | sendFailed called =>
      rcases SessionTracer.send_cases called with
        ⟨_, rfl | ⟨event, rfl⟩⟩ | ⟨_, stopped, _⟩ | ⟨_, same, _⟩
      · exact delivering.of_silent rfl rfl
      · refine (delivering.with_sender ?_ ?_).of_silent rfl rfl
        · exact delivering.senderAccounted.effect (.noted event)
        · exact delivering.sender.effect id (.noted event)
      · cases stopped
      · cases same
  | pending listed =>
      refine (delivering.with_issued ?_).of_silent rfl rfl
      unfold SessionTracer.pending at listed
      split at listed
      · cases listed
      rename_i flow found
      cases listed
      intro segment member
      obtain ⟨pending, queued, rfl⟩ := List.mem_map.mp member
      exact delivering.pending_faithful found queued
  | resume listed =>
      refine (delivering.with_issued ?_).of_silent rfl rfl
      unfold SessionTracer.resumeUnacknowledged at listed
      split at listed
      · cases listed
      rename_i flow found
      cases listed
      intro segment member
      obtain ⟨pending, queued, rfl⟩ := List.mem_map.mp member
      exact delivering.pending_faithful found queued
  | transmit known =>
      refine (delivering.with_inFlight ?_).of_silent rfl rfl
      intro segment member
      rcases List.mem_cons.mp member with rfl | older
      · exact known
      · exact delivering.inFlight segment older
  | lose =>
      refine (delivering.with_inFlight ?_).of_silent rfl rfl
      intro segment member
      exact delivering.inFlight segment (List.mem_of_mem_erase member)
  | receive arriving called returned =>
      have received := delivering.received_step arriving called returned
      refine received.with_inFlight ?_
      intro segment member
      exact delivering.inFlight segment (List.mem_of_mem_erase member)
  | issueAcknowledgement live onFlow honest =>
      refine of_silent { delivering with acknowledgements := ?_ } rfl rfl
      intro acknowledgement member
      rcases List.mem_cons.mp member with rfl | older
      · rw [Sequence.lt_iff, delivering.receiver.nextReceive live] at honest
        exact ⟨onFlow, honest⟩
      · exact delivering.acknowledgements acknowledgement older
  | acknowledge arriving called returned =>
      obtain ⟨rfl, honest⟩ := delivering.acknowledgements _ arriving
      rcases SessionTracer.acknowledge_cases called with
        ⟨_, rfl⟩ | ⟨_, _, rfl, _⟩ | ⟨rfl, effect⟩
      · exact delivering.of_silent rfl rfl
      · exact absurd returned (by simp)
      · refine (delivering.with_sender ?_ ?_).of_silent rfl rfl
        · exact delivering.senderAccounted.effect effect
        · exact delivering.sender.release delivering.numbered honest
            delivering.senderAccounted effect
  | senderCall step elsewhere =>
      refine (delivering.with_sender ?_ ?_).of_silent rfl rfl
      · exact step.invariant SessionTracer.Accounted.effect
          delivering.senderAccounted
      · exact delivering.sender.step elsewhere step
  | receiverCall step elsewhere =>
      refine (delivering.with_receiver ?_ ?_).of_silent rfl rfl
      · exact step.invariant SessionTracer.Accounted.effect
          delivering.receiverAccounted
      · exact delivering.receiver.step elsewhere step

end Link.Delivering

theorem sentSegments_append (front back : List LinkEvent) :
    sentSegments (front ++ back) = sentSegments front ++ sentSegments back :=
  List.filterMap_append

theorem deliveredBytes_append (front back : List LinkEvent) :
    deliveredBytes (front ++ back) =
      deliveredBytes front ++ deliveredBytes back :=
  List.filterMap_append

theorem sentBytes_append (front back : List LinkEvent) :
    sentBytes (front ++ back) = sentBytes front ++ sentBytes back :=
  List.filterMap_append

/-- The joint invariant along every run from two new sessions. -/
theorem Link.run_delivering {hmac : Hmac} {flowId : FlowId}
    {senderEpoch receiverEpoch : Epoch}
    {senderLimits receiverLimits : FlowLimits}
    {senderAccepted : senderLimits.Accepted}
    {receiverAccepted : receiverLimits.Accepted}
    {trace : List LinkEvent} {link : Link}
    (run : Run (Link.Step hmac flowId)
      (.new senderEpoch receiverEpoch senderLimits receiverLimits
        senderAccepted receiverAccepted) trace link) :
    link.Delivering flowId (sentSegments trace) (deliveredBytes trace) := by
  induction run with
  | nil => exact .new flowId _ _ _ _ _ _
  | snoc _ step induction =>
      rw [sentSegments_append, deliveredBytes_append]
      exact induction.step step

/-- The segment returned by a send carries the bytes it was given. -/
theorem Link.run_sentBytes {hmac : Hmac} {flowId : FlowId}
    {initial link : Link} {trace : List LinkEvent}
    (run : Run (Link.Step hmac flowId) initial trace link) :
    sentBytes trace = (sentSegments trace).map Segment.bytes := by
  induction run with
  | nil => rfl
  | snoc _ step induction =>
      rw [sentSegments_append, sentBytes_append, induction, List.map_append]
      congr 1
      cases step with
      | send called =>
          have carried := SessionTracer.send_bytes called
          subst carried
          rfl
      | _ => rfl

/-- What is delivered is always a prefix of what was sent, and as long as the
sender's flow is open the queue still holds every segment that has not been
delivered, exactly as the send returned it. -/
theorem delivery_reliable (hmac : Hmac) (flowId : FlowId)
    (senderEpoch receiverEpoch : Epoch)
    (senderLimits receiverLimits : FlowLimits)
    (senderAccepted : senderLimits.Accepted)
    (receiverAccepted : receiverLimits.Accepted)
    (trace : List LinkEvent) (link : Link)
    (run : Run (Link.Step hmac flowId)
      (.new senderEpoch receiverEpoch senderLimits receiverLimits
        senderAccepted receiverAccepted) trace link) :
    deliveredBytes trace <+: sentBytes trace ∧
      ∀ flow, link.sender.flows.get? flowId = some flow →
        ∀ segment ∈ (sentSegments trace).drop (deliveredBytes trace).length,
          ∃ pending ∈ flow.pending, pending.segment = segment := by
  have delivering := Link.run_delivering run
  constructor
  · rw [Link.run_sentBytes run]
    exact delivering.inOrder
  · intro flow found segment undelivered
    obtain ⟨base, below, queue⟩ := delivering.sender.queue found
    have queued : segment ∈ flow.pending.map PendingSegment.segment := by
      rw [queue]
      exact List.drop_subset_drop_left _ below undelivered
    exact List.mem_map.mp queued

/-- A run with a duplicate, a late acknowledgement, and a transition on both
sides, after which one segment is still undelivered. -/
private theorem lossy_run :
    ∃ trace link, Run (Link.Step (.ofTags []) ⟨0⟩)
        (.new ⟨0⟩ ⟨0⟩ smallLimits smallLimits (by decide) (by decide))
        trace link ∧
      sentBytes trace = [[1, 2], [3]] ∧ deliveredBytes trace = [[1, 2]] ∧
      link.receiver.requireValidEpoch link.sender.epoch = .ok () ∧
      (∃ flow, link.sender.flows.get? ⟨0⟩ = some flow) ∧
      (∃ flow, link.receiver.flows.get? ⟨0⟩ = some flow ∧
        flow.receiveFinalNext = none) := by
  let first : Segment := ⟨⟨0⟩, ⟨0⟩, ⟨0⟩, [1, 2]⟩
  have start := (Run.nil : Run (Link.Step (.ofTags []) ⟨0⟩)
    (.new ⟨0⟩ ⟨0⟩ smallLimits smallLimits (by decide) (by decide)) [] _)
  have senderOpen := start.snoc (.senderCall
    (⟨rfl, by decide⟩ : SessionTracer.Step _ _ ⟨.openReliableFlow, _⟩ _) id)
  have bothOpen := senderOpen.snoc (.receiverCall
    (⟨rfl, by decide⟩ : SessionTracer.Step _ _ ⟨.openReliableFlow, _⟩ _) id)
  have firstSent := bothOpen.snoc
    (.send (rfl : SessionTracer.send _ ⟨0⟩ [1, 2] = (.ok first, _)))
  have bothSent := firstSent.snoc
    (.send (rfl : SessionTracer.send _ ⟨0⟩ [3] =
      (.ok ⟨⟨0⟩, ⟨0⟩, ⟨1⟩, [3]⟩, _)))
  have onWire := bothSent.snoc (.transmit (by decide : first ∈ _))
  have twice := onWire.snoc (.transmit (by decide : first ∈ _))
  have arrived := twice.snoc
    (.receive (by decide : first ∈ _) rfl (by decide))
  have repeated := arrived.snoc
    (.receive (by decide : first ∈ _) rfl (by decide))
  have issued := repeated.snoc (.issueAcknowledgement rfl
    (rfl : (⟨⟨0⟩, ⟨0⟩, ⟨0⟩⟩ : Acknowledgement).flowId = _) (by decide))
  have senderMoved := issued.snoc (.senderCall
    (⟨rfl, by decide⟩ : SessionTracer.Step _ _ ⟨.beginTransition, _⟩ _) id)
  have released := senderMoved.snoc
    (.acknowledge (by decide : (⟨⟨0⟩, ⟨0⟩, ⟨0⟩⟩ : Acknowledgement) ∈ _) rfl
      (by decide))
  have bothMoved := released.snoc (.receiverCall
    (⟨rfl, by decide⟩ : SessionTracer.Step _ _ ⟨.beginTransition, _⟩ _) id)
  exact ⟨_, _, bothMoved, rfl, rfl, rfl, ⟨_, rfl⟩, ⟨_, rfl, rfl⟩⟩

theorem delivery_reliable_lossy :
    ∃ (trace : List LinkEvent) (link : Link),
      sentBytes trace = [[1, 2], [3]] ∧
      deliveredBytes trace = [[1, 2]] ∧
      (deliveredBytes trace <+: sentBytes trace ∧
        ∀ flow, link.sender.flows.get? ⟨0⟩ = some flow →
          ∀ segment ∈
              (sentSegments trace).drop (deliveredBytes trace).length,
            ∃ pending ∈ flow.pending, pending.segment = segment) := by
  obtain ⟨trace, link, run, sent, delivered, _⟩ := lossy_run
  exact ⟨trace, link, sent, delivered,
    delivery_reliable _ _ _ _ _ _ _ _ trace link run⟩

/-! ## Recovery -/

namespace SessionTracer

/-- Receives the segments one after the other. -/
def receiveAll : SessionTracer → List Segment →
    List (Outcome Panic TraceError ReceiveResult) × SessionTracer
  | session, [] => ([], session)
  | session, segment :: rest =>
      let (outcome, next) := session.receive segment
      let (outcomes, last) := receiveAll next rest
      (outcome :: outcomes, last)

end SessionTracer

/-- Byte strings among the outcomes of `receive`. -/
def deliveredAmong
    (outcomes : List (Outcome Panic TraceError ReceiveResult)) :
    List (List UInt8) :=
  outcomes.filterMap fun
    | .ok (.delivered bytes) => some bytes
    | _ => none

theorem deliveredAmong_append
    (front back : List (Outcome Panic TraceError ReceiveResult)) :
    deliveredAmong (front ++ back) =
      deliveredAmong front ++ deliveredAmong back :=
  List.filterMap_append

/-- The outcome of a receive that has taken place without a gap. -/
def Settled (outcome : Outcome Panic TraceError ReceiveResult) : Prop :=
  outcome = .ok .duplicate ∨ ∃ bytes, outcome = .ok (.delivered bytes)

/-- The flow is open at a session that accepts the epoch. -/
structure Awaiting (flowId : FlowId) (epoch : Epoch)
    (finalNext : Option Sequence) (cursor : Nat)
    (session : SessionTracer) : Prop where
  valid : session.requireValidEpoch epoch = .ok ()
  flow : ∃ flow, session.flows.get? flowId = some flow ∧
    flow.nextReceive.value.toNat = cursor ∧
    flow.receiveFinalNext = finalNext

/-- A segment at or below the cursor is settled as `accept` says. -/
theorem Awaiting.receive {segment : Segment} {finalNext : Option Sequence}
    {delivered : List (List UInt8)} {session : SessionTracer}
    (awaiting : Awaiting segment.flowId segment.epoch finalNext
      delivered.length session)
    (unfinished : ∀ final, finalNext = some final →
      segment.sequence < final)
    (reached : segment.sequence.value.toNat ≤ delivered.length)
    (representable : segment.sequence.value.toNat + 1 < 2 ^ 64) :
    ∃ outcome next, session.receive segment = (outcome, next) ∧
      Settled outcome ∧
      delivered ++ deliveredAmong [outcome] =
        accept delivered segment.copy ∧
      Awaiting segment.flowId segment.epoch finalNext
        (accept delivered segment.copy).length next := by
  obtain ⟨flow, found, position, rfl⟩ := awaiting.flow
  have notFinished : ¬(flow.receiveFinalNext.any fun final =>
      final ≤ segment.sequence) = true := by
    cases recorded : flow.receiveFinalNext with
    | none => simp
    | some final =>
        have below := unfinished final recorded
        rw [Sequence.lt_iff] at below
        simp only [Option.any_some, decide_eq_true_eq, Sequence.le_iff]
        omega
  have notAbove : ¬flow.nextReceive < segment.sequence := by
    rw [Sequence.lt_iff]
    omega
  unfold SessionTracer.receive
  simp only [awaiting.valid, found, notFinished, if_false, notAbove,
    Bool.false_eq_true]
  by_cases passed : segment.sequence < flow.nextReceive
  · have ignored : accept delivered segment.copy = delivered := by
      rw [Sequence.lt_iff] at passed
      rw [accept, if_neg]
      change segment.sequence.value.toNat ≠ delivered.length
      omega
    rw [ignored, if_pos passed]
    refine ⟨_, _, rfl, .inl rfl, List.append_nil _, ?_⟩
    exact ⟨awaiting.valid, flow, found, position, rfl⟩
  · have expected : segment.sequence.value.toNat = delivered.length := by
      rw [Sequence.lt_iff] at passed
      omega
    have accepted : accept delivered segment.copy =
        delivered ++ [segment.bytes] := by
      rw [accept, if_pos (show segment.copy.2 = _ from expected)]
      rfl
    obtain ⟨next, counted⟩ : ∃ next,
        checkedAdd flow.nextReceive.value 1 = some next := by
      rw [← Option.isSome_iff_exists, Option.isSome_iff_ne_none]
      intro overflow
      have large := checkedAdd_eq_none_iff.mp overflow
      simp only [UInt64.toNat_one] at large
      omega
    rw [accepted, if_neg passed, counted]
    refine ⟨_, _, rfl, .inr ⟨_, rfl⟩, rfl, ?_⟩
    refine ⟨awaiting.valid, _, OrderedMap.get?_insert_self _ _ _, ?_, rfl⟩
    have advanced := checkedAdd_eq_some_iff.mp counted
    simp only [UInt64.toNat_one] at advanced
    rw [List.length_append, List.length_singleton, ← position]
    exact advanced

/-- Segments that carry a window starting at or below the cursor are all
settled, and they deliver what `accept` takes from the window. -/
theorem Awaiting.receiveAll {flowId : FlowId} {epoch : Epoch}
    {finalNext : Option Sequence} {sent delivered : List (List UInt8)}
    {base : Nat} {segments : List Segment} {session : SessionTracer}
    (awaiting : Awaiting flowId epoch finalNext delivered.length session)
    (carried : segments.map Segment.copy = window sent base)
    (reached : base ≤ delivered.length)
    (bounded : delivered.length ≤ sent.length)
    (representable : sent.length < 2 ^ 64)
    (onFlow : ∀ segment ∈ segments, segment.flowId = flowId)
    (stamped : ∀ segment ∈ segments, segment.epoch = epoch)
    (unfinished : ∀ final, finalNext = some final →
      sent.length ≤ final.value.toNat) :
    (∀ outcome ∈ (session.receiveAll segments).1, Settled outcome) ∧
      delivered ++ deliveredAmong (session.receiveAll segments).1 =
        (window sent base).foldl accept delivered := by
  induction segments generalizing base delivered session with
  | nil =>
      rw [← carried]
      exact ⟨by simp [SessionTracer.receiveAll], List.append_nil _⟩
  | cons segment rest induction =>
      have within : base < sent.length := by
        have lengths := congrArg List.length carried
        rw [List.length_map, List.length_cons, window_length] at lengths
        omega
      rw [window_cons within, List.map_cons] at carried
      injection carried with head tail
      have position : segment.sequence.value.toNat = base :=
        congrArg Prod.snd head
      obtain rfl := onFlow segment List.mem_cons_self
      obtain rfl := stamped segment List.mem_cons_self
      have remaining : ∀ final, finalNext = some final →
          segment.sequence < final := by
        intro final recorded
        have beyond := unfinished final recorded
        rw [Sequence.lt_iff]
        omega
      obtain ⟨outcome, next, received, settled, taken, later⟩ :=
        awaiting.receive remaining (by omega) (by omega)
      have advanced : base + 1 ≤ (accept delivered segment.copy).length ∧
          (accept delivered segment.copy).length ≤ sent.length := by
        unfold accept
        split
        · rename_i expected
          change segment.sequence.value.toNat = _ at expected
          rw [List.length_append, List.length_singleton]
          omega
        · rename_i passed
          change segment.sequence.value.toNat ≠ _ at passed
          omega
      obtain ⟨restSettled, restTaken⟩ := induction later tail advanced.1
        advanced.2
        (fun other member => onFlow other (List.mem_cons_of_mem _ member))
        (fun other member => stamped other (List.mem_cons_of_mem _ member))
      simp only [SessionTracer.receiveAll, received]
      constructor
      · intro other member
        rcases List.mem_cons.mp member with rfl | older
        · exact settled
        · exact restSettled other older
      · rw [window_cons within, ← head, List.foldl_cons, ← restTaken,
          ← taken, List.append_assoc, ← deliveredAmong_append]
        rfl

/-- When both flows are open, the receiver accepts the sender's epoch, and its
final cursor does not cut off what was sent, one ordered retransmission of
the queue settles every segment and completes the delivery. -/
theorem recovery_complete (hmac : Hmac) (flowId : FlowId)
    (senderEpoch receiverEpoch : Epoch)
    (senderLimits receiverLimits : FlowLimits)
    (senderAccepted : senderLimits.Accepted)
    (receiverAccepted : receiverLimits.Accepted)
    (trace : List LinkEvent) (link : Link)
    (run : Run (Link.Step hmac flowId)
      (.new senderEpoch receiverEpoch senderLimits receiverLimits
        senderAccepted receiverAccepted) trace link)
    (sending receiving : ReliableFlow)
    (senderOpen : link.sender.flows.get? flowId = some sending)
    (receiverOpen : link.receiver.flows.get? flowId = some receiving)
    (valid : link.receiver.requireValidEpoch link.sender.epoch = .ok ())
    (unfinished : ∀ final, receiving.receiveFinalNext = some final →
      sending.nextSend ≤ final) :
    ∃ segments, link.sender.resumeUnacknowledged flowId = .ok segments ∧
      (∀ outcome ∈ (link.receiver.receiveAll segments).1,
        Settled outcome) ∧
      deliveredBytes trace ++
          deliveredAmong (link.receiver.receiveAll segments).1 =
        sentBytes trace := by
  have delivering := Link.run_delivering run
  have cursor := delivering.sender.nextSend senderOpen
  obtain ⟨base, below, queue⟩ := delivering.sender.queue senderOpen
  have listed : link.sender.resumeUnacknowledged flowId =
      .ok (sending.pending.map fun pending =>
        { pending.segment with epoch := link.sender.epoch }) := by
    simp only [SessionTracer.resumeUnacknowledged, senderOpen]
  refine ⟨_, listed, ?_⟩
  have awaiting : Awaiting flowId link.sender.epoch
      receiving.receiveFinalNext (deliveredBytes trace).length
      link.receiver :=
    ⟨valid, receiving, receiverOpen,
      delivering.receiver.nextReceive receiverOpen, rfl⟩
  have carried : (sending.pending.map fun pending =>
      { pending.segment with epoch := link.sender.epoch }).map
        Segment.copy =
      window ((sentSegments trace).map Segment.bytes) base := by
    have stored := congrArg (List.map Segment.copy) queue
    rw [List.map_drop, delivering.numbered, window_drop, Nat.zero_add]
      at stored
    rw [← stored, List.map_map, List.map_map]
    rfl
  have representable := sending.nextSend.value.toNat_lt
  have replayed := awaiting.receiveAll carried below
    (by simpa using delivering.delivered_le_sent)
    (by rw [List.length_map]; omega) ?_ ?_ ?_
  · rw [accept_window delivering.inOrder below, ← Link.run_sentBytes run]
      at replayed
    exact replayed
  · intro segment member
    obtain ⟨pending, queued, rfl⟩ := List.mem_map.mp member
    exact delivering.senderAccounted.owner senderOpen pending queued
  · intro segment member
    obtain ⟨pending, queued, rfl⟩ := List.mem_map.mp member
    rfl
  · intro final recorded
    have beyond := unfinished final recorded
    rw [Sequence.le_iff] at beyond
    rw [List.length_map]
    omega

theorem recovery_complete_lossy :
    ∃ (trace : List LinkEvent) (link : Link) (segments : List Segment),
      deliveredBytes trace = [[1, 2]] ∧
      link.sender.resumeUnacknowledged ⟨0⟩ = .ok segments ∧
      (∀ outcome ∈ (link.receiver.receiveAll segments).1,
        Settled outcome) ∧
      deliveredBytes trace ++
          deliveredAmong (link.receiver.receiveAll segments).1 =
        [[1, 2], [3]] := by
  obtain ⟨trace, link, run, sent, delivered, valid, ⟨sending, senderOpen⟩,
    receiving, receiverOpen, unfinished⟩ := lossy_run
  obtain ⟨segments, listed, settled, complete⟩ :=
    recovery_complete _ _ _ _ _ _ _ _ trace link run sending receiving
      senderOpen receiverOpen valid (by simp [unfinished])
  exact ⟨trace, link, segments, delivered, listed, settled, sent ▸ complete⟩

end Velum.Session
