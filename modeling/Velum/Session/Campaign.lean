import Mathlib.Algebra.Order.BigOperators.Group.List
import Velum.Foundation.Checked
import Velum.Session.Acknowledgements
import Velum.Session.Delivery
import Velum.Session.Panics
import Velum.Session.Simulator

/-!
# The seeded transition campaign

A trial sends four payloads over a simulated carrier, begins a transition after
one of them, and retransmits on a second carrier.  Its seed decides the
payloads, the faults, and the moment of the transition.
-/

namespace Velum.Session

open Foundation
open Velum.Protocol
open Velum.Crypto

namespace Campaign

structure Generator where
  state : UInt64

namespace Generator

def next (random : Generator) : UInt64 × Generator :=
  let state := random.state * 6364136223846793005 + 1
  (state, ⟨state⟩)

def draw : Nat → Generator → List UInt8 × Generator
  | 0, random => ([], random)
  | count + 1, random =>
      let (value, later) := random.next
      let (rest, last) := draw count later
      (value.toUInt8 :: rest, last)

def bytes (random : Generator) : List UInt8 × Generator :=
  let (length, later) := random.next
  draw (length % 16 + 1).toNat later

end Generator

def limits : FlowLimits where
  maxFlows := 1
  maxPendingSegments := 8
  maxPendingBytes := 128
  maxSessionPendingSegments := 8
  maxSessionPendingBytes := 128
  maxPendingAge := 16
  maxEvents := 16

theorem limits_accepted : limits.Accepted := by decide

def session : SessionTracer :=
  .new ⟨0⟩ limits limits_accepted

def disposition (random : UInt64) : CarrierDisposition :=
  match (random % 4).toNat with
  | 0 => .drop
  | 1 => .duplicate
  | 2 => .delay 1
  | _ => .deliver

/-- The expectations and assertions of a trial that can fail. -/
inductive TrialFailure where
  | openFlow
  | send
  | beginTransition
  | receive
  | resume
  | acknowledge
  | simulator
  | changedBytes
  | unacknowledged
  deriving DecidableEq, Repr

def openFlow (session : SessionTracer) :
    Except TrialFailure (FlowId × SessionTracer) :=
  match session.openReliableFlow with
  | (.ok flowId, after) => .ok (flowId, after)
  | _ => .error .openFlow

def send (session : SessionTracer) (flowId : FlowId) (bytes : List UInt8) :
    Except TrialFailure (Segment × SessionTracer) :=
  match session.send flowId bytes with
  | (.ok segment, after) => .ok (segment, after)
  | _ => .error .send

/-- Asserts that the transition begins the epoch after the first one. -/
def beginTransition (session : SessionTracer) :
    Except TrialFailure SessionTracer :=
  match session.beginTransition with
  | (.ok epoch, after) =>
      if epoch = ⟨1⟩ then .ok after else .error .beginTransition
  | _ => .error .beginTransition

def acknowledge (session : SessionTracer)
    (acknowledgement : Acknowledgement) :
    Except TrialFailure SessionTracer :=
  match session.acknowledge acknowledgement with
  | (.ok (), after) => .ok after
  | _ => .error .acknowledge

def expectTick {Value : Type} :
    Option Value → Except TrialFailure Value
  | some value => .ok value
  | none => .error .simulator

def deliver : SessionTracer → List Segment → List UInt8 →
    Except TrialFailure (SessionTracer × List UInt8)
  | receiver, [], output => .ok (receiver, output)
  | receiver, segment :: rest, output =>
      match receiver.receive segment with
      | (.ok (.delivered bytes), after) =>
          deliver after rest (output ++ bytes)
      | (.ok _, after) => deliver after rest output
      | _ => .error .receive

def checksum (bytes : List UInt8) : UInt64 :=
  bytes.foldl (fun hash byte =>
    (hash ^^^ byte.toUInt64) * 0x100000001b3) 0xcbf29ce484222325

structure Trial where
  random : Generator
  sender : SessionTracer
  receiver : SessionTracer
  carrier : InMemoryCarrier
  expected : List UInt8
  delivered : List UInt8

/-- An attempt that is made while the carrier is down. -/
def blackHole (carrier : InMemoryCarrier) (segment : Segment) :
    Except TrialFailure InMemoryCarrier := do
  let down ← expectTick
    ((carrier.setAvailable false).transmit segment .deliver)
  pure (down.setAvailable true)

def beginTransitionIf (now : Bool) (session : SessionTracer) :
    Except TrialFailure SessionTracer :=
  if now then beginTransition session else .ok session

/-- Half of the segments are also tried while the carrier is down. -/
def blackHoleIf (coin : UInt64) (carrier : InMemoryCarrier)
    (segment : Segment) : Except TrialFailure InMemoryCarrier :=
  if coin &&& 1 = 0 then blackHole carrier segment else .ok carrier

/-- A round after its draws. -/
def roundWith (flowId : FlowId) (transitionAfter : Nat) (trial : Trial)
    (index : Nat) (bytes : List UInt8) (coin chance ticks : UInt64)
    (random : Generator) : Except TrialFailure Trial := do
  let now := index + 1 = transitionAfter
  let sent ← send trial.sender flowId bytes
  let sender ← beginTransitionIf now sent.2
  let receiver ← beginTransitionIf now trial.receiver
  let shaken ← blackHoleIf coin trial.carrier sent.1
  let loaded ← expectTick (shaken.transmit sent.1 (disposition chance))
  let advanced ← expectTick (loaded.advance (ticks % 2))
  let taken ← deliver receiver advanced.1 trial.delivered
  pure {
    random
    sender
    receiver := taken.1
    carrier := advanced.2
    expected := trial.expected ++ bytes
    delivered := taken.2 }

def round (flowId : FlowId) (transitionAfter : Nat) (trial : Trial)
    (index : Nat) : Except TrialFailure Trial :=
  let drawn := trial.random.bytes
  let coin := drawn.2.next
  let chance := coin.2.next
  let ticks := chance.2.next
  roundWith flowId transitionAfter trial index drawn.1 coin.1 chance.1 ticks.1
    ticks.2

/-- A recovered carrier reissues what is unacknowledged, and both epochs are
acknowledged at the end, after the receiver has completed its transition. -/
def recover (flowId : FlowId) (transitionAfter : Nat) (trial : Trial) :
    Except TrialFailure (UInt64 × SessionTracer) := do
  let segments ← (trial.sender.resumeUnacknowledged flowId).mapError
    fun _ => .resume
  let recovery ← segments.foldlM (fun carrier segment =>
    expectTick (carrier.transmit segment .deliver)) InMemoryCarrier.new
  let advanced ← expectTick (recovery.advance 0)
  let taken ← deliver trial.receiver advanced.1 trial.delivered
  let retired ← acknowledge trial.sender
    ⟨flowId, ⟨0⟩, ⟨(transitionAfter - 1).toUInt64⟩⟩
  let receiver := taken.1.completeTransition
  let settled ← acknowledge retired ⟨flowId, retired.epoch, ⟨3⟩⟩
  if taken.2 ≠ trial.expected then .error .changedBytes
  else if settled.pending flowId ≠ .ok [] then .error .unacknowledged
  else .ok (checksum taken.2, receiver)

/-- A trial after the draw that places its transition. -/
def trialFrom (draw : UInt64 × Generator) : Except TrialFailure UInt64 := do
  let sender ← openFlow session
  let receiver ← openFlow session
  let transitionAfter := (draw.1 % 3 + 1).toNat
  let trial ← (List.range 4).foldlM (round sender.1 transitionAfter) {
    random := draw.2
    sender := sender.2
    receiver := receiver.2
    carrier := .new
    expected := []
    delivered := [] }
  let recovered ← recover sender.1 transitionAfter trial
  pure recovered.1

def runTrial (seed : UInt64) : Except TrialFailure UInt64 :=
  trialFrom (Generator.mk seed).next

/-- The sum that the campaign compares with a recorded one. -/
def runCampaign (trials : Nat) : Except TrialFailure UInt64 :=
  (List.range trials).foldlM (fun sum seed => do
    let trial ← runTrial seed.toUInt64
    pure (sum + trial)) 0

/-- The payloads that a generator draws in some rounds, three draws for the
faults of a round after the payload of the round. -/
def payloads : Nat → Generator → List (List UInt8)
  | 0, _ => []
  | rounds + 1, random =>
      random.bytes.1 ::
        payloads rounds random.bytes.2.next.2.next.2.next.2

/-! ## The sender -/

/-- The epochs of either side before and after the transition. -/
def stage (begun : Bool) : TransitionState :=
  if begun then { current := ⟨1⟩, retiring := some ⟨0⟩ }
  else { current := ⟨0⟩, retiring := none }

/-- The sender of a trial keeps everything that it has sent. -/
structure Sending (begun : Bool) (sent : List Segment)
    (sender : SessionTracer) : Prop where
  accounted : sender.Accounted
  limits : sender.limits = limits
  tick : sender.tick = 0
  transition : sender.transition = stage begun
  flow : ∃ flow, sender.flows.get? ⟨0⟩ = some flow ∧
    flow.pending.map PendingSegment.segment = sent ∧
    flow.nextSend.value.toNat = sent.length
  segments : sender.pendingSegments = sent.length
  bytes : sender.pendingBytes =
    (sent.map fun segment => segment.bytes.length).sum

theorem queuedBytes_eq_sum (queue : List PendingSegment) :
    queuedBytes queue = ((queue.map PendingSegment.segment).map
      fun segment => segment.bytes.length).sum := by
  rw [queuedBytes, List.map_map]
  rfl

/-- A few short segments are far from every limit. -/
theorem sum_length_le {sent : List Segment}
    (short : ∀ segment ∈ sent, segment.bytes.length ≤ 16) :
    (sent.map fun segment => segment.bytes.length).sum ≤
      sent.length * 16 := by
  have bounded := List.sum_le_card_nsmul
    (sent.map fun segment => segment.bytes.length) 16 (by simpa using short)
  simpa using bounded

theorem Sending.send {begun : Bool} {sent : List Segment}
    {sender : SessionTracer} (sending : Sending begun sent sender)
    (few : sent.length < 4)
    (short : ∀ segment ∈ sent, segment.bytes.length ≤ 16)
    {bytes : List UInt8} (fits : bytes.length ≤ 16) :
    ∃ segment after,
      Campaign.send sender ⟨0⟩ bytes = .ok (segment, after) ∧
        segment.flowId = ⟨0⟩ ∧ segment.epoch = (stage begun).current ∧
        segment.sequence.value.toNat = sent.length ∧
        segment.bytes = bytes ∧ Sending begun (sent ++ [segment]) after := by
  obtain ⟨flow, found, queue, cursor⟩ := sending.flow
  have flowBytes := (sending.accounted.flows found).bytes
  rw [queuedBytes_eq_sum, queue] at flowBytes
  have queued : flow.pending.length = sent.length := by
    rw [← queue, List.length_map]
  have small := sum_length_le short
  have room : sender.Admits ⟨0⟩ bytes flow := by
    refine ⟨found, ?_, ?_, ?_, ?_⟩
    all_goals rw [sending.limits]
    · rw [sending.segments]
      exact few.trans (by decide)
    · rw [sending.bytes]
      change bytes.length ≤ 128 - _
      omega
    · rw [queued]
      change sent.length ≠ 8
      omega
    · rw [flowBytes]
      change bytes.length ≤ 128 - _
      omega
  have clock : ¬sender.AgeOverflows := by
    rw [SessionTracer.AgeOverflows, sending.tick, sending.limits]
    decide
  cases called : sender.send ⟨0⟩ bytes with
  | mk outcome after =>
      have retained := called
      rw [room.send_eq] at retained
      rcases SessionTracer.retain_cases found room.segmentRoom room.byteRoom
        room.flowSegmentRoom room.flowByteRoom retained with
        ⟨cause, rfl, _⟩ | ⟨segment, rfl, onFlow, carried, effect⟩
      · rcases (room.retain_panics_iff sending.accounted).mp
          ⟨cause, after, retained⟩ with exhausted | aged
        · omega
        · exact absurd aged clock
      · refine ⟨segment, after, by simp [Campaign.send, called], onFlow, ?_⟩
        have accounted := sending.accounted.effect effect
        cases effect with
        | retained stored _ _ _ _ current numbered next _ =>
            rw [onFlow, found] at stored
            cases stored
            have stamped : segment.epoch = (stage begun).current := by
              rw [current, SessionTracer.epoch, sending.transition]
            refine ⟨stamped, by rw [numbered, cursor], carried, accounted,
              sending.limits, sending.tick, sending.transition, ?_, ?_, ?_⟩
            · refine ⟨_,
                by rw [onFlow]; exact OrderedMap.get?_insert_self _ _ _, ?_, ?_⟩
              · simp [queue]
              · simp only [List.length_append, List.length_singleton]
                rw [next, cursor]
            · simp only [List.length_append, List.length_singleton]
              rw [sending.segments]
            · simp only [List.map_append, List.map_singleton,
                List.sum_append, List.sum_singleton]
              rw [sending.bytes]

/-- The session after the one transition of a trial has begun. -/
def begunFrom (session : SessionTracer) : SessionTracer :=
  { session with
    transition := stage true
    retiringAttachment := session.acceptedAttachment
    acceptedAttachment := none }

theorem beginTransition_of_stage {session : SessionTracer}
    (initial : session.transition = stage false) :
    Campaign.beginTransition session = .ok (begunFrom session) ∧
      Effect session .begun (begunFrom session) := by
  have advanced : (stage false).advance =
      (.ok (some ⟨1⟩), stage true) := by decide
  constructor
  · simp [Campaign.beginTransition, SessionTracer.beginTransition, initial,
      advanced, begunFrom]
  · have idle : session.transition.retiring = none := by
      rw [initial]
      rfl
    have following : (1 : UInt64).toNat =
        session.transition.current.value.toNat + 1 := by
      rw [initial]
      rfl
    have effect := @Effect.begun session ⟨1⟩ idle following
    rw [initial] at effect
    exact effect

theorem Sending.begin {sent : List Segment} {sender : SessionTracer}
    (sending : Sending false sent sender) :
    Campaign.beginTransition sender = .ok (begunFrom sender) ∧
      Sending true sent (begunFrom sender) := by
  obtain ⟨begun, effect⟩ := beginTransition_of_stage sending.transition
  exact ⟨begun, sending.accounted.effect effect, sending.limits, sending.tick,
    rfl, sending.flow, sending.segments, sending.bytes⟩

/-! ## The receiver -/

/-- The receiver of a trial has delivered some payloads and waits for the
next one. -/
structure Receiving (begun : Bool) (delivered : List (List UInt8))
    (receiver : SessionTracer) : Prop where
  transition : receiver.transition = stage begun
  flow : ∃ flow, receiver.flows.get? ⟨0⟩ = some flow ∧
    flow.nextReceive.value.toNat = delivered.length ∧
    flow.receiveFinalNext = none

/-- An epoch that has begun. -/
def Reached (begun : Bool) (epoch : Epoch) : Prop :=
  epoch = ⟨0⟩ ∨ begun = true ∧ epoch = ⟨1⟩

theorem Reached.valid {begun : Bool} {epoch : Epoch}
    {session : SessionTracer} (reached : Reached begun epoch)
    (staged : session.transition = stage begun) :
    session.requireValidEpoch epoch = .ok () := by
  rw [SessionTracer.requireValidEpoch_eq_ok_iff, SessionTracer.epoch, staged]
  rcases reached with rfl | ⟨rfl, rfl⟩
  · cases begun
    · exact .inl rfl
    · exact .inr rfl
  · exact .inl rfl

namespace Receiving

variable {begun : Bool} {delivered sent : List (List UInt8)}
  {receiver : SessionTracer}

theorem begin (receiving : Receiving false delivered receiver) :
    Campaign.beginTransition receiver = .ok (begunFrom receiver) ∧
      Receiving true delivered (begunFrom receiver) :=
  ⟨(beginTransition_of_stage receiving.transition).1, rfl, receiving.flow⟩

/-- A receive takes the payload of the next position and passes over any
other segment. -/
theorem receive (receiving : Receiving begun delivered receiver)
    {segment : Segment} (onFlow : segment.flowId = ⟨0⟩)
    (reached : Reached begun segment.epoch) (few : delivered.length ≤ 4) :
    ∃ result after, receiver.receive segment = (.ok result, after) ∧
      accept delivered segment.copy = delivered ++
        deliveredAmong [.ok result] ∧
      Receiving begun (accept delivered segment.copy) after := by
  obtain ⟨flow, found, cursor, unfinished⟩ := receiving.flow
  have valid := reached.valid receiving.transition
  rw [← onFlow] at found
  simp only [SessionTracer.receive, valid, found, unfinished, Option.any_none,
    Bool.false_eq_true, if_false]
  simp only [Sequence.lt_iff]
  rw [onFlow] at found
  by_cases expected : segment.sequence.value.toNat = delivered.length
  · have accepted : accept delivered segment.copy =
        delivered ++ [segment.bytes] := by
      rw [accept, if_pos (show segment.copy.2 = _ from expected)]
      rfl
    obtain ⟨next, counted⟩ : ∃ next,
        checkedAdd flow.nextReceive.value 1 = some next := by
      rw [← Option.isSome_iff_exists, Option.isSome_iff_ne_none]
      intro overflow
      have large := checkedAdd_eq_none_iff.mp overflow
      simp only [UInt64.toNat_one] at large
      omega
    have advanced := checkedAdd_eq_some_iff.mp counted
    rw [UInt64.toNat_one] at advanced
    rw [if_neg (by omega), if_neg (by omega), counted, accepted]
    refine ⟨_, _, rfl, rfl, receiving.transition, ?_⟩
    rw [onFlow]
    refine ⟨_, OrderedMap.get?_insert_self _ _ _, ?_, rfl⟩
    rw [List.length_append, List.length_singleton, ← cursor]
    exact advanced
  · have ignored : accept delivered segment.copy = delivered := by
      rw [accept, if_neg (show segment.copy.2 ≠ _ from expected)]
    rw [ignored]
    by_cases passed : segment.sequence.value.toNat < delivered.length
    · rw [if_pos (by omega)]
      exact ⟨_, _, rfl, (List.append_nil _).symm, receiving.transition, flow,
        found, cursor, unfinished⟩
    · rw [if_neg (by omega), if_pos (by omega)]
      exact ⟨_, _, rfl, (List.append_nil _).symm, receiving.transition, flow,
        found, cursor, unfinished⟩

/-- Delivering copies of what was sent never fails and stays in order. -/
theorem deliver (receiving : Receiving begun delivered receiver)
    {segments : List Segment} (inOrder : delivered <+: sent)
    (few : sent.length ≤ 4)
    (arriving : ∀ segment ∈ segments, segment.flowId = ⟨0⟩ ∧
      Reached begun segment.epoch ∧ Faithful sent segment.copy) :
    ∃ after, Campaign.deliver receiver segments delivered.flatten =
        .ok (after,
          ((segments.map Segment.copy).foldl accept delivered).flatten) ∧
      Receiving begun ((segments.map Segment.copy).foldl accept delivered)
        after ∧
      (segments.map Segment.copy).foldl accept delivered <+: sent := by
  induction segments generalizing delivered receiver with
  | nil => exact ⟨receiver, rfl, receiving, inOrder⟩
  | cons segment rest induction =>
      obtain ⟨onFlow, reached, faithful⟩ :=
        arriving segment List.mem_cons_self
      obtain ⟨result, after, called, accepted, later⟩ :=
        receiving.receive onFlow reached (inOrder.length_le.trans few)
      obtain ⟨last, ended, holds, further⟩ := induction later
        (accept_inOrder inOrder faithful)
        (fun other member => arriving other (List.mem_cons_of_mem _ member))
      refine ⟨last, ?_, holds, further⟩
      rw [accepted] at ended
      rw [List.map_cons, List.foldl_cons, accepted]
      simp only [Campaign.deliver, called]
      cases result with
      | delivered bytes =>
          simpa [deliveredAmong] using ended
      | duplicate => simpa [deliveredAmong] using ended
      | outOfOrder => simpa [deliveredAmong] using ended

end Receiving

/-! ## The carrier -/

/-- A carrier of a trial whose clock has not run further than the rounds, with
nothing scheduled but what was sent. -/
structure Carrying (rounds : Nat) (sent : List Segment)
    (carrier : InMemoryCarrier) : Prop where
  tick : carrier.tick.toNat ≤ rounds
  known : ∀ copy ∈ carrier.scheduled.map InMemoryCarrier.copyOf,
    copy.2 ∈ sent

namespace Carrying

variable {rounds : Nat} {sent : List Segment} {carrier : InMemoryCarrier}

theorem transmit (carrying : Carrying rounds sent carrier) (few : rounds ≤ 4)
    {segment : Segment} (member : segment ∈ sent)
    {disposition : CarrierDisposition}
    (soon : ∀ delay ∈ disposition.copies, delay ≤ 1) :
    ∃ next, expectTick (carrier.transmit segment disposition) = .ok next ∧
      Carrying rounds sent next := by
  have clock := carrying.tick
  obtain ⟨next, called⟩ := carrier.exists_transmit segment
    disposition (by
      intro delay listed
      have short := soon delay listed
      omega)
  obtain ⟨tick, _, scheduled⟩ := InMemoryCarrier.transmit_eq_some called
  refine ⟨next, by rw [called]; rfl, by rw [tick]; exact clock, ?_⟩
  intro copy listed
  rw [scheduled] at listed
  rcases List.mem_append.mp listed with older | newest
  · exact carrying.known copy older
  · split at newest
    · obtain ⟨_, _, rfl⟩ := List.mem_map.mp newest
      exact member
    · cases newest

/-- Nothing reaches the carrier while it is down. -/
theorem blackHole (carrying : Carrying rounds sent carrier)
    (segment : Segment) :
    ∃ next, Campaign.blackHole carrier segment = .ok next ∧
      Carrying rounds sent next :=
  ⟨_, rfl, carrying.tick, carrying.known⟩

theorem blackHoleIf (carrying : Carrying rounds sent carrier)
    (coin : UInt64) (segment : Segment) :
    ∃ next, Campaign.blackHoleIf coin carrier segment = .ok next ∧
      Carrying rounds sent next := by
  rw [Campaign.blackHoleIf]
  by_cases down : coin &&& 1 = 0
  · rw [if_pos down]
    exact carrying.blackHole segment
  · rw [if_neg down]
    exact ⟨carrier, rfl, carrying⟩

theorem advance (carrying : Carrying rounds sent carrier) (few : rounds ≤ 4)
    (ticks : UInt64) :
    ∃ ready next, expectTick (carrier.advance (ticks % 2)) =
        .ok (ready, next) ∧
      (∀ segment ∈ ready, segment ∈ sent) ∧
      Carrying (rounds + 1) sent next := by
  have clock := carrying.tick
  have pace : (ticks % 2).toNat ≤ 1 := by
    rw [UInt64.toNat_mod]
    exact Nat.le_of_lt_succ (Nat.mod_lt _ (by decide))
  cases called : carrier.advance (ticks % 2) with
  | none =>
      have large := checkedAdd_eq_none_iff.mp (Option.map_eq_none_iff.mp called)
      omega
  | some answer =>
      obtain ⟨ready, next⟩ := answer
      obtain ⟨tick, _, isReady, left⟩ :=
        InMemoryCarrier.advance_eq_some called
      refine ⟨ready, next, rfl, ?_, by omega, ?_⟩
      · intro segment member
        rw [isReady] at member
        obtain ⟨copy, due, rfl⟩ := List.mem_map.mp member
        exact carrying.known copy (List.mem_filter.mp due).1
      · intro copy member
        rw [left] at member
        exact carrying.known copy (List.mem_filter.mp member).1

end Carrying

/-! ## Rounds -/

/-- The epoch that a segment was sent in. -/
def Stamped (transitionAfter : Nat) (segment : Segment) : Prop :=
  segment.epoch =
    (stage (transitionAfter ≤ segment.sequence.value.toNat)).current

/-- What holds of a trial after some rounds, given what it has sent and
delivered. -/
structure Holds (transitionAfter : Nat) (sent : List Segment)
    (delivered : List (List UInt8)) (trial : Trial) : Prop where
  numbered : sent.map Segment.copy = window (sent.map Segment.bytes) 0
  owned : ∀ segment ∈ sent, segment.flowId = ⟨0⟩
  stamped : ∀ segment ∈ sent, Stamped transitionAfter segment
  short : ∀ segment ∈ sent, segment.bytes.length ≤ 16
  sender : Sending (transitionAfter ≤ sent.length) sent trial.sender
  receiver : Receiving (transitionAfter ≤ sent.length) delivered
    trial.receiver
  carrier : Carrying sent.length sent trial.carrier
  inOrder : delivered <+: sent.map Segment.bytes
  expected : trial.expected = (sent.map Segment.bytes).flatten
  delivered : trial.delivered = delivered.flatten

theorem length_draw (count : Nat) (random : Generator) :
    (random.draw count).1.length = count := by
  induction count generalizing random with
  | zero => rfl
  | succ count induction =>
      rw [Generator.draw, List.length_cons, induction]

theorem length_bytes_le (random : Generator) :
    random.bytes.1.length ≤ 16 := by
  rw [Generator.bytes, length_draw, UInt64.toNat_add, UInt64.toNat_mod]
  have small := Nat.mod_lt random.next.1.toNat (show 0 < 16 by decide)
  exact (Nat.mod_le _ _).trans small

theorem disposition_soon (random : UInt64) :
    ∀ delay ∈ (disposition random).copies, delay ≤ 1 := by
  unfold disposition
  split
  all_goals simp [CarrierDisposition.copies]

theorem faithful_of_sent {sent : List Segment} {segment : Segment}
    (numbered : sent.map Segment.copy = window (sent.map Segment.bytes) 0)
    (member : segment ∈ sent) :
    Faithful (sent.map Segment.bytes) segment.copy := by
  have listed : segment.copy ∈ window (sent.map Segment.bytes) 0 := by
    rw [← numbered]
    exact List.mem_map_of_mem member
  exact (mem_window_iff.mp listed).2

/-- Both sides begin the transition in the same round. -/
theorem begin_both {transitionAfter count : Nat} {sent : List Segment}
    {delivered : List (List UInt8)} {sender receiver : SessionTracer}
    (sending : Sending (transitionAfter ≤ count) sent sender)
    (receiving : Receiving (transitionAfter ≤ count) delivered receiver) :
    ∃ nextSender nextReceiver,
      beginTransitionIf (count + 1 = transitionAfter) sender =
        .ok nextSender ∧
      beginTransitionIf (count + 1 = transitionAfter) receiver =
        .ok nextReceiver ∧
      Sending (transitionAfter ≤ count + 1) sent nextSender ∧
      Receiving (transitionAfter ≤ count + 1) delivered nextReceiver := by
  by_cases now : count + 1 = transitionAfter
  · have before : decide (transitionAfter ≤ count) = false :=
      decide_eq_false (by omega)
    have after : decide (transitionAfter ≤ count + 1) = true :=
      decide_eq_true (by omega)
    rw [before] at sending receiving
    rw [after, decide_eq_true now]
    exact ⟨_, _, sending.begin.1, receiving.begin.1, sending.begin.2,
      receiving.begin.2⟩
  · have same : decide (transitionAfter ≤ count) =
        decide (transitionAfter ≤ count + 1) :=
      decide_eq_decide.mpr (by omega)
    rw [same] at sending receiving
    rw [decide_eq_false now]
    exact ⟨sender, receiver, rfl, rfl, sending, receiving⟩

/-- A segment of the sent ones is numbered below their count. -/
theorem position_lt {sent : List Segment} {segment : Segment}
    (numbered : sent.map Segment.copy = window (sent.map Segment.bytes) 0)
    (member : segment ∈ sent) :
    segment.sequence.value.toNat < sent.length := by
  have found := (List.getElem?_eq_some_iff.mp
    (faithful_of_sent numbered member)).1
  rw [List.length_map] at found
  exact found

theorem reached_of_stamped {transitionAfter count : Nat} {segment : Segment}
    (stamped : Stamped transitionAfter segment)
    (below : segment.sequence.value.toNat ≤ count) :
    Reached (transitionAfter ≤ count) segment.epoch := by
  by_cases later : transitionAfter ≤ segment.sequence.value.toNat
  · rw [Stamped, decide_eq_true later] at stamped
    exact .inr ⟨decide_eq_true (later.trans below), stamped⟩
  · rw [Stamped, decide_eq_false later] at stamped
    exact .inl stamped

/-- Whatever a round draws, it succeeds and keeps what holds. -/
theorem Holds.roundWith {transitionAfter : Nat} {sent : List Segment}
    {delivered : List (List UInt8)} {trial : Trial}
    (holds : Holds transitionAfter sent delivered trial)
    (few : sent.length < 4) {bytes : List UInt8} (fits : bytes.length ≤ 16)
    (coin chance ticks : UInt64) (random : Generator) :
    ∃ segment further after,
      roundWith ⟨0⟩ transitionAfter trial sent.length bytes coin chance ticks
          random = .ok after ∧
        segment.bytes = bytes ∧ after.random = random ∧
        Holds transitionAfter (sent ++ [segment]) further after := by
  obtain ⟨segment, stored, sending, onFlow, epoch, position, carried,
    sends⟩ := holds.sender.send few holds.short fits
  obtain ⟨nextSender, receiver, senderBegins, receiverBegins, sends,
    receives⟩ := begin_both sends holds.receiver
  have newest : segment ∈ sent ++ [segment] :=
    List.mem_append_right _ List.mem_cons_self
  have count : (sent ++ [segment]).length = sent.length + 1 := by simp
  have numbered : (sent ++ [segment]).map Segment.copy =
      window ((sent ++ [segment]).map Segment.bytes) 0 := by
    rw [List.map_append, List.map_append, holds.numbered]
    change _ = window (sent.map Segment.bytes ++ [segment.bytes]) 0
    rw [window_append (Nat.zero_le _), List.length_map, ← position]
    rfl
  have owned : ∀ other ∈ sent ++ [segment], other.flowId = ⟨0⟩ := by
    simpa [or_imp, forall_and] using ⟨holds.owned, onFlow⟩
  have stamped : ∀ other ∈ sent ++ [segment],
      Stamped transitionAfter other := by
    simpa [or_imp, forall_and, Stamped, position] using
      ⟨holds.stamped, epoch⟩
  have short : ∀ other ∈ sent ++ [segment], other.bytes.length ≤ 16 := by
    simpa [or_imp, forall_and, carried] using ⟨holds.short, fits⟩
  have carrying : Carrying sent.length (sent ++ [segment]) trial.carrier :=
    ⟨holds.carrier.tick, fun copy listed =>
      List.mem_append_left _ (holds.carrier.known copy listed)⟩
  obtain ⟨shaken, darkened, carrying⟩ := carrying.blackHoleIf coin segment
  obtain ⟨loaded, transmitted, carrying⟩ := carrying.transmit
    (Nat.le_of_lt few) newest (disposition_soon chance)
  obtain ⟨ready, emptied, advanced, known, carrying⟩ := carrying.advance
    (Nat.le_of_lt few) ticks
  have inOrder : delivered <+: (sent ++ [segment]).map Segment.bytes := by
    rw [List.map_append]
    exact holds.inOrder.trans (List.prefix_append _ _)
  have arriving : ∀ other ∈ ready, other.flowId = ⟨0⟩ ∧
      Reached (transitionAfter ≤ sent.length + 1) other.epoch ∧
      Faithful ((sent ++ [segment]).map Segment.bytes) other.copy := by
    intro other member
    have below := position_lt numbered (known other member)
    rw [count] at below
    exact ⟨owned other (known other member),
      reached_of_stamped (stamped other (known other member))
        (Nat.le_of_lt below),
      faithful_of_sent numbered (known other member)⟩
  obtain ⟨last, delivering, receives, further⟩ := receives.deliver inOrder
    (by rw [List.length_map, count]; exact few) arriving
  rw [← holds.delivered] at delivering
  have rounded : Campaign.roundWith ⟨0⟩ transitionAfter trial sent.length
      bytes coin chance ticks random = .ok {
        random
        sender := nextSender
        receiver := last
        carrier := emptied
        expected := trial.expected ++ bytes
        delivered :=
          ((ready.map Segment.copy).foldl accept delivered).flatten } := by
    simp only [Campaign.roundWith, sending, senderBegins, receiverBegins,
      darkened, transmitted, advanced, delivering, bind, Except.bind, pure,
      Except.pure]
  refine ⟨segment, _, _, rounded, carried, rfl, numbered, owned, stamped,
    short, ?_, ?_, ?_, further, ?_, rfl⟩
  · rw [count]
    exact sends
  · rw [count]
    exact receives
  · rw [count]
    exact carrying
  · rw [List.map_append, List.flatten_append, ← holds.expected,
      List.map_singleton, carried, List.flatten_singleton]

theorem Holds.round {transitionAfter : Nat} {sent : List Segment}
    {delivered : List (List UInt8)} {trial : Trial}
    (holds : Holds transitionAfter sent delivered trial)
    (few : sent.length < 4) :
    ∃ segment further after,
      round ⟨0⟩ transitionAfter trial sent.length = .ok after ∧
        segment.bytes = trial.random.bytes.1 ∧
        after.random = trial.random.bytes.2.next.2.next.2.next.2 ∧
        Holds transitionAfter (sent ++ [segment]) further after := by
  exact holds.roundWith few (length_bytes_le trial.random) _ _ _ _

theorem rounds {transitionAfter : Nat} {start : Trial}
    (holds : Holds transitionAfter [] [] start) {count : Nat}
    (few : count ≤ 4) :
    ∃ sent delivered after,
      (List.range count).foldlM (round ⟨0⟩ transitionAfter) start =
        .ok after ∧
      sent.length = count ∧
      (∀ further, payloads (count + further) start.random =
        sent.map Segment.bytes ++ payloads further after.random) ∧
      Holds transitionAfter sent delivered after := by
  induction count with
  | zero =>
      refine ⟨[], [], start, rfl, rfl, ?_, holds⟩
      intro further
      rw [Nat.zero_add]
      rfl
  | succ count induction =>
      obtain ⟨sent, delivered, trial, ran, length, drawn, reached⟩ :=
        induction (Nat.le_of_succ_le few)
      obtain ⟨segment, further, after, rounded, carried, random, kept⟩ :=
        reached.round (by omega)
      refine ⟨sent ++ [segment], further, after, ?_, ?_, ?_, kept⟩
      · rw [List.range_succ, List.foldlM_append, ran]
        rw [length] at rounded
        simp only [List.foldlM_cons, List.foldlM_nil, bind, Except.bind,
          rounded, pure, Except.pure]
      · rw [List.length_append, length]
        rfl
      · intro later
        rw [Nat.add_assoc, Nat.add_comm 1 later, drawn, List.map_append,
          List.append_assoc, random, List.map_singleton, carried]
        rfl

/-! ## Recovery -/

/-- A carrier at its first tick takes every reissued segment. -/
theorem transmit_all {carrier : InMemoryCarrier}
    (available : carrier.available = true) (first : carrier.tick = 0)
    (segments : List Segment) :
    ∃ loaded, segments.foldlM (fun carrier segment =>
        expectTick (carrier.transmit segment .deliver)) carrier =
          .ok loaded ∧
      loaded.tick = 0 ∧
      loaded.scheduled.map InMemoryCarrier.copyOf =
        carrier.scheduled.map InMemoryCarrier.copyOf ++
          segments.map fun segment => (0, segment) := by
  induction segments generalizing carrier with
  | nil => exact ⟨carrier, rfl, first, (List.append_nil _).symm⟩
  | cons segment rest induction =>
      obtain ⟨next, called⟩ := carrier.exists_transmit segment
        .deliver (by simp [first, CarrierDisposition.copies])
      obtain ⟨tick, state, scheduled⟩ :=
        InMemoryCarrier.transmit_eq_some called
      obtain ⟨loaded, ran, clock, all⟩ :=
        induction (state.trans available) (tick.trans first)
      refine ⟨loaded, ?_, clock, ?_⟩
      · rw [List.foldlM_cons, called]
        exact ran
      · rw [all, scheduled, available, first]
        simp [CarrierDisposition.copies]

theorem recovered (segments : List Segment) :
    ∃ loaded emptied, segments.foldlM (fun carrier segment =>
        expectTick (carrier.transmit segment .deliver)) InMemoryCarrier.new =
          .ok loaded ∧
      expectTick (loaded.advance 0) = .ok (segments, emptied) := by
  have available : InMemoryCarrier.new.available = true := rfl
  obtain ⟨loaded, ran, clock, all⟩ := transmit_all available rfl segments
  cases called : loaded.advance 0 with
  | none =>
      have large := checkedAdd_eq_none_iff.mp (Option.map_eq_none_iff.mp called)
      rw [clock] at large
      exact absurd large (by decide)
  | some answer =>
      obtain ⟨ready, emptied⟩ := answer
      obtain ⟨_, _, isReady, _⟩ := InMemoryCarrier.advance_eq_some called
      refine ⟨loaded, emptied, ran, ?_⟩
      rw [all] at isReady
      have every : ready = segments := by
        rw [isReady]
        simp [InMemoryCarrier.new, List.filter_map, Function.comp_def]
      rw [called, every]
      rfl

theorem acknowledge_eq {session : SessionTracer}
    {acknowledgement : Acknowledgement} {flow : ReliableFlow}
    (accounted : session.Accounted)
    (ready : session.Acknowledgeable acknowledgement flow) :
    ∃ after, Campaign.acknowledge session acknowledgement = .ok after ∧
      after.Accounted ∧ after.transition = session.transition ∧
      after.flows.get? acknowledgement.flowId = some { flow with
        pending := keptAfter acknowledgement.through flow.pending
        pendingBytes := queuedBytes
          (keptAfter acknowledgement.through flow.pending) } := by
  obtain ⟨after, called⟩ := accounted.acknowledge_eq_ok_iff.mpr ⟨flow, ready⟩
  rcases SessionTracer.acknowledge_cases called with
    ⟨failed, _⟩ | ⟨_, _, impossible, _⟩ | ⟨_, effect⟩
  · exact absurd failed (Outcome.not_failed_ok ())
  · cases impossible
  obtain ⟨⟨stored, found, left⟩, _⟩ := accounted.released_flows effect
  rw [ready.found] at found
  cases found
  refine ⟨after, by rw [Campaign.acknowledge, called], ?_, ?_, left⟩
  · exact accounted.effect effect
  · cases effect
    rfl

section Settling

variable {transitionAfter : Nat} {sent : List Segment}
  {delivered : List (List UInt8)} {trial : Trial}

/-- The receiver completes what it has from the reissued segments. -/
theorem Holds.redelivered (holds : Holds transitionAfter sent delivered trial)
    (few : sent.length ≤ 4) (begun : transitionAfter ≤ sent.length) :
    ∃ last, Campaign.deliver trial.receiver
      (sent.map fun segment => { segment with epoch := ⟨1⟩ })
      trial.delivered = .ok (last, trial.expected) := by
  have copies : (sent.map fun segment =>
      ({ segment with epoch := ⟨1⟩ } : Segment)).map Segment.copy =
        window (sent.map Segment.bytes) 0 := by
    rw [← holds.numbered, List.map_map]
    rfl
  have receiving := holds.receiver
  rw [decide_eq_true begun] at receiving
  have arriving : ∀ other ∈
      sent.map fun segment => ({ segment with epoch := ⟨1⟩ } : Segment),
      other.flowId = ⟨0⟩ ∧ Reached true other.epoch ∧
        Faithful (sent.map Segment.bytes) other.copy := by
    intro other member
    obtain ⟨segment, original, rfl⟩ := List.mem_map.mp member
    have faithful := faithful_of_sent holds.numbered original
    exact ⟨holds.owned segment original, .inr ⟨rfl, rfl⟩, faithful⟩
  obtain ⟨last, ended, _, _⟩ := receiving.deliver holds.inOrder
    (by rw [List.length_map]; exact few) arriving
  rw [copies, accept_window holds.inOrder (Nat.zero_le _), ← holds.delivered,
    ← holds.expected] at ended
  exact ⟨last, ended⟩

/-- One acknowledgement for either epoch leaves nothing unacknowledged. -/
theorem Holds.settled (holds : Holds transitionAfter sent delivered trial)
    (all : sent.length = 4) (early : 1 ≤ transitionAfter)
    (late : transitionAfter ≤ 3) :
    ∃ retired last,
      Campaign.acknowledge trial.sender
        ⟨⟨0⟩, ⟨0⟩, ⟨(transitionAfter - 1).toUInt64⟩⟩ = .ok retired ∧
      Campaign.acknowledge retired ⟨⟨0⟩, retired.epoch, ⟨3⟩⟩ = .ok last ∧
      last.pending ⟨0⟩ = .ok [] := by
  have sending := holds.sender
  rw [decide_eq_true (by omega)] at sending
  obtain ⟨flow, found, queue, cursor⟩ := sending.flow
  have through : (transitionAfter - 1).toUInt64.toNat =
      transitionAfter - 1 := by
    rw [Nat.toUInt64, UInt64.toNat_ofNat']
    exact Nat.mod_eq_of_lt (by omega)
  have member : ∀ pending ∈ flow.pending, pending.segment ∈ sent := by
    intro pending listed
    rw [← queue]
    exact List.mem_map_of_mem listed
  have first : trial.sender.Acknowledgeable
      ⟨⟨0⟩, ⟨0⟩, ⟨(transitionAfter - 1).toUInt64⟩⟩ flow := by
    refine ⟨?_, found, ?_, ?_⟩
    · right
      rw [sending.transition]
      rfl
    · rw [Sequence.lt_iff, cursor, all, through]
      omega
    · intro pending listed covered newer
      rw [Sequence.le_iff, through] at covered
      have stamped := holds.stamped pending.segment (member pending listed)
      rw [Stamped, decide_eq_false (by omega)] at stamped
      rw [stamped] at newer
      exact absurd newer (show ¬(⟨0⟩ : Epoch) < ⟨0⟩ by decide)
  obtain ⟨retired, acknowledged, accounted, staged, left⟩ :=
    acknowledge_eq sending.accounted first
  have current : retired.epoch = ⟨1⟩ := by
    rw [SessionTracer.epoch, staged, sending.transition]
    rfl
  have second : retired.Acknowledgeable ⟨⟨0⟩, retired.epoch, ⟨3⟩⟩ { flow with
      pending := keptAfter ⟨(transitionAfter - 1).toUInt64⟩ flow.pending
      pendingBytes := queuedBytes
        (keptAfter ⟨(transitionAfter - 1).toUInt64⟩ flow.pending) } := by
    refine ⟨.inl rfl, left, ?_, ?_⟩
    · rw [Sequence.lt_iff, cursor, all]
      change 3 < 4
      decide
    · intro pending listed _ newer
      have reached := reached_of_stamped (holds.stamped pending.segment
        (member pending (List.mem_filter.mp listed).1)) le_rfl
      rw [current] at newer
      rcases reached with old | ⟨_, new⟩
      · rw [old] at newer
        exact absurd newer (show ¬(⟨1⟩ : Epoch) < ⟨0⟩ by decide)
      · rw [new] at newer
        exact absurd newer (show ¬(⟨1⟩ : Epoch) < ⟨1⟩ by decide)
  obtain ⟨last, settled, _, _, rest⟩ := acknowledge_eq accounted second
  refine ⟨retired, last, acknowledged, settled, ?_⟩
  have none : keptAfter ⟨3⟩
      (keptAfter ⟨(transitionAfter - 1).toUInt64⟩ flow.pending) = [] := by
    apply List.filter_eq_nil_iff.mpr
    intro pending listed
    have below := position_lt holds.numbered
      (member pending (List.mem_filter.mp listed).1)
    rw [decide_eq_true_eq, Sequence.lt_iff]
    change ¬3 < _
    omega
  rw [SessionTracer.pending, rest, none]
  rfl

theorem Holds.recover (holds : Holds transitionAfter sent delivered trial)
    (all : sent.length = 4) (early : 1 ≤ transitionAfter)
    (late : transitionAfter ≤ 3) :
    ∃ receiver, recover ⟨0⟩ transitionAfter trial =
      .ok (checksum (sent.map Segment.bytes).flatten, receiver) := by
  obtain ⟨last, redelivered⟩ := holds.redelivered (by omega) (by omega)
  obtain ⟨retired, settled, first, second, nothing⟩ :=
    holds.settled all early late
  obtain ⟨loaded, emptied, ran, advanced⟩ := recovered
    (sent.map fun segment => { segment with epoch := ⟨1⟩ })
  have sending := holds.sender
  rw [decide_eq_true (by omega)] at sending
  obtain ⟨flow, found, queue, _⟩ := sending.flow
  have resumed : trial.sender.resumeUnacknowledged ⟨0⟩ =
      .ok (sent.map fun segment => { segment with epoch := ⟨1⟩ }) := by
    rw [SessionTracer.resumeUnacknowledged, found, SessionTracer.epoch,
      sending.transition, ← queue, List.map_map]
    rfl
  refine ⟨last.completeTransition, ?_⟩
  simp only [Campaign.recover, resumed, Except.mapError, ran, advanced,
    redelivered, first, second, nothing, bind, Except.bind, ne_eq,
    not_true_eq_false, if_false, holds.expected]

end Settling

/-! ## Every seed -/

def opened : SessionTracer :=
  session.openReliableFlow.2

theorem openFlow_session : openFlow session = .ok (⟨0⟩, opened) := rfl

theorem accounted_opened : opened.Accounted := by
  have called : session.openReliableFlow = (.ok ⟨0⟩, opened) := rfl
  obtain ⟨opening, begun, _⟩ :=
    SessionTracer.openReliableFlow_eq_iff.mp called
  rcases SessionTracer.openReliableFlowWithId_cases begun with
    ⟨_, same⟩ | ⟨_, after, effect, same⟩
  · rw [same]
    exact .new _ _ _
  · rw [same]
    exact ((SessionTracer.Accounted.new _ _ _).effect effect).effect
      (.noted _)

theorem sending_opened : Sending false [] opened where
  accounted := accounted_opened
  limits := rfl
  tick := rfl
  transition := rfl
  flow := ⟨_, rfl, rfl, rfl⟩
  segments := rfl
  bytes := rfl

theorem holds_start {transitionAfter : Nat} (later : 0 < transitionAfter)
    (random : Generator) :
    Holds transitionAfter [] [] {
      random
      sender := opened
      receiver := opened
      carrier := .new
      expected := []
      delivered := [] } := by
  have before : decide (transitionAfter ≤ 0) = false :=
    decide_eq_false (by omega)
  refine ⟨rfl, nofun, nofun, nofun, ?_, ?_, ⟨Nat.le_refl 0, nofun⟩,
    List.prefix_refl _, rfl, rfl⟩
  · rw [List.length_nil, before]
    exact sending_opened
  · rw [List.length_nil, before]
    exact ⟨rfl, _, rfl, rfl, rfl⟩

theorem trialFrom_eq (draw : UInt64 × Generator) :
    trialFrom draw = .ok (checksum (payloads 4 draw.2).flatten) := by
  have small : (draw.1 % 3 + 1).toNat = draw.1.toNat % 3 + 1 := by
    rw [UInt64.toNat_add, UInt64.toNat_mod]
    exact Nat.mod_eq_of_lt (by
      have below := Nat.mod_lt draw.1.toNat (show 0 < 3 by decide)
      change draw.1.toNat % 3 + 1 < 2 ^ 64
      omega)
  have later : 0 < (draw.1 % 3 + 1).toNat := by omega
  obtain ⟨sent, delivered, after, ran, length, drawn, holds⟩ :=
    rounds (holds_start later draw.2) (Nat.le_refl 4)
  have every := drawn 0
  rw [payloads, List.append_nil] at every
  obtain ⟨receiver, recovers⟩ := holds.recover length (by omega) (by omega)
  rw [every, trialFrom]
  refine (bind_of_eq_ok openFlow_session).trans ?_
  refine (bind_of_eq_ok openFlow_session).trans ?_
  refine (bind_of_eq_ok ran).trans ?_
  exact bind_of_eq_ok recovers

/-- What a trial delivers. -/
def drawnBytes (seed : UInt64) : List UInt8 :=
  (payloads 4 (Generator.mk seed).next.2).flatten

theorem runTrial_eq (seed : UInt64) :
    runTrial seed = .ok (checksum (drawnBytes seed)) :=
  trialFrom_eq _

theorem foldlM_add {trial : UInt64 → Except TrialFailure UInt64}
    {value : UInt64 → UInt64} (each : ∀ seed, trial seed = .ok (value seed))
    (trials : Nat) :
    (List.range trials).foldlM (fun sum seed => do
        let added ← trial seed.toUInt64
        pure (sum + added)) 0 =
      .ok ((List.range trials).foldl
        (fun sum seed => sum + value seed.toUInt64) 0) := by
  induction trials with
  | zero => rfl
  | succ trials induction =>
      rw [List.range_succ, List.foldlM_append, induction, List.foldl_append]
      simp only [List.foldlM_cons, List.foldlM_nil, each, bind, Except.bind,
        pure, Except.pure, List.foldl_cons, List.foldl_nil]

/-- No seed makes an expectation or an assertion of a trial fail, every trial
delivers exactly the payloads that its seed draws, and a campaign of any
length adds up their checksums. -/
theorem campaign_delivers :
    (∀ seed, runTrial seed = .ok (checksum (drawnBytes seed))) ∧
    ∀ trials, runCampaign trials = .ok
      ((List.range trials).foldl (fun sum seed =>
        sum + checksum (drawnBytes seed.toUInt64)) 0) := by
  have every := @foldlM_add runTrial (fun seed => checksum (drawnBytes seed))
    runTrial_eq
  exact ⟨runTrial_eq, every⟩

end Campaign

end Velum.Session
