import Velum.Foundation.TransitionSystem
import Velum.Server.Admission
import Mathlib.Logic.Function.Basic

/-!
# UDP associations of one connection

A relay keeps one association for each identifier, with a connected socket
and a task that receives from it.  The map is under a lock that a call holds
while it binds and connects a socket; everything else under the lock is one
step.  The tasks run beside the calls.
-/

namespace Velum.Node

open Foundation Protocol Server

/-- Times are in nanoseconds. -/
structure DatagramRelayConfig where
  maxAssociations : Nat := 256
  idleTimeout : Nat := 60 * 10 ^ 9
  receiveBufferBytes : Nat := 64 * 1024
  deriving DecidableEq, Repr

inductive DatagramRelayConfigError where
  | associationLimit
  | idleTimeout
  | receiveBuffer
  deriving DecidableEq, Repr

def DatagramRelayConfig.validate (config : DatagramRelayConfig) :
    Except DatagramRelayConfigError Unit :=
  if config.maxAssociations = 0 then .error .associationLimit
  else if config.idleTimeout = 0 then .error .idleTimeout
  else if config.receiveBufferBytes = 0 then .error .receiveBuffer
  else .ok ()

inductive DatagramRelayError where
  | malformed
  | unexpectedDirection
  | destinationRejected
  | sessionTargetMismatch
  | associationLimit
  | socket
  deriving DecidableEq, Repr

/-- The address stands for the socket, the time of the last activity, and the
cancellation channel that the clones of an association share. -/
structure Association where
  destination : SocketAddr
  address : Nat
  deriving DecidableEq

/-- The arguments of a running `receive_responses`. -/
structure Receiver where
  sessionId : DatagramSessionId
  source : SocketAddr
  deriving DecidableEq

/-- What `forward` takes out of an envelope. -/
structure Request where
  sessionId : DatagramSessionId
  destination : SocketAddr
  payload : List UInt8
  deriving DecidableEq

/-- Where a call of `forward` is suspended. -/
inductive Position where
  | lookup
  | bind
  | send (association : Association)
  deriving DecidableEq

structure ForwardCall where
  request : Request
  position : Position
  deriving DecidableEq

structure DatagramRelay where
  config : DatagramRelayConfig
  associations : OrderedMap DatagramSessionId Association := .empty
  nextAddress : Nat := 0
  peer : Nat → Option SocketAddr := fun _ => none
  lastActive : Nat → Nat := fun _ => 0
  cancelled : Nat → Bool := fun _ => false
  receivers : Nat → Option Receiver := fun _ => none
  calls : Nat → Option ForwardCall := fun _ => none
  now : Nat := 0

/-- The checks of `forward` before it looks for an association. -/
def Request.accept (encoded : List UInt8)
    (destinations : DestinationPolicy) : Except DatagramRelayError Request :=
  match Datagram.decode encoded with
  | .ok (.clientToServer _ sessionId destination payload) =>
      if destinations.allows destination then
        .ok { sessionId, destination, payload }
      else .error .destinationRejected
  | .ok (.serverToClient _ _ _) => .error .unexpectedDirection
  | .error _ => .error .malformed

namespace DatagramRelay

def new (config : DatagramRelayConfig) :
    Except DatagramRelayConfigError DatagramRelay :=
  match config.validate with
  | .error failure => .error failure
  | .ok () => .ok { config }

def setCall (relay : DatagramRelay) (call : Nat)
    (stage : Option ForwardCall) : DatagramRelay :=
  { relay with calls := Function.update relay.calls call stage }

theorem calls_setCall_self (relay : DatagramRelay) (call : Nat)
    (stage : Option ForwardCall) :
    (relay.setCall call stage).calls call = stage :=
  Function.update_self ..

theorem calls_setCall_of_ne (relay : DatagramRelay) {call other : Nat}
    (stage : Option ForwardCall) (different : other ≠ call) :
    (relay.setCall call stage).calls other = relay.calls other :=
  Function.update_of_ne different ..

def touch (relay : DatagramRelay) (address : Nat) : DatagramRelay :=
  { relay with
    lastActive := Function.update relay.lastActive address relay.now }

def active (relay : DatagramRelay) (association : Association) : Bool :=
  relay.now - relay.lastActive association.address ≤
    relay.config.idleTimeout

/-- Cancels the tasks of the associations that it takes out of the map. -/
def discard (relay : DatagramRelay) (drop : Association → Bool) :
    DatagramRelay :=
  { relay with
    associations := relay.associations.retain fun _ association =>
      !drop association
    cancelled := fun address => relay.cancelled address ||
      relay.associations.entries.any fun entry =>
        drop entry.2 && decide (entry.2.address = address) }

def pruneIdle (relay : DatagramRelay) : DatagramRelay :=
  relay.discard fun association => !relay.active association

def shutdown (relay : DatagramRelay) : DatagramRelay :=
  relay.discard fun _ => true

/-- What `association` does before it binds a socket: an association that can
be used, or the order to make one. -/
def association (relay : DatagramRelay) (sessionId : DatagramSessionId)
    (destination : SocketAddr) :
    Except DatagramRelayError (Option Association) :=
  match relay.associations.get? sessionId with
  | some existing =>
      if existing.destination = destination then .ok (some existing)
      else .error .sessionTargetMismatch
  | none =>
      if relay.associations.size ≥ relay.config.maxAssociations then
        .error .associationLimit
      else .ok none

/-- Spawns the task of a connected socket and inserts the association. -/
def associate (relay : DatagramRelay) (sessionId : DatagramSessionId)
    (destination : SocketAddr) : DatagramRelay :=
  { relay with
    associations := relay.associations.insert sessionId
      { destination, address := relay.nextAddress }
    nextAddress := relay.nextAddress + 1
    peer := Function.update relay.peer relay.nextAddress (some destination)
    lastActive :=
      Function.update relay.lastActive relay.nextAddress relay.now
    receivers := Function.update relay.receivers relay.nextAddress
      (some { sessionId, source := destination }) }

/-- The task of a socket returns. -/
def stopReceiver (relay : DatagramRelay) (address : Nat) : DatagramRelay :=
  { relay with receivers := Function.update relay.receivers address none }

/-- Some association of the map uses the socket. -/
def mapped (relay : DatagramRelay) (address : Nat) : Bool :=
  relay.associations.entries.any fun entry => entry.2.address = address

/-- No call holds the lock of the map. -/
def Unlocked (relay : DatagramRelay) : Prop :=
  ∀ call stage, relay.calls call = some stage → stage.position ≠ .bind

theorem unlocked_setCall {relay : DatagramRelay} {call : Nat}
    {stage : Option ForwardCall} (unlocked : relay.Unlocked)
    (free : ∀ moved, stage = some moved → moved.position ≠ .bind) :
    (relay.setCall call stage).Unlocked := by
  intro other moved found
  by_cases own : other = call
  · rw [own, calls_setCall_self] at found
    exact free moved found
  · rw [calls_setCall_of_ne _ _ own] at found
    exact unlocked other moved found

/-- What is seen of a step.  The task of a socket gets a response that has no
envelope, one whose envelope the sink refuses, or an error of the socket. -/
inductive Event where
  | quiet
  | accepted (call : Nat) (destinations : DestinationPolicy)
      (encoded : List UInt8)
  | rejected (destinations : DestinationPolicy) (encoded : List UInt8)
      (error : DatagramRelayError)
  | refused (call : Nat) (error : DatagramRelayError)
  | associated (address : Nat) (sessionId : DatagramSessionId)
      (destination : SocketAddr)
  | sent (call address : Nat) (destination : SocketAddr)
      (payload : List UInt8) (accepted : Bool)
  | forwarded (address : Nat) (response : Datagram)
  | oversized (address : Nat) (payload : List UInt8)
  | sinkRefused (address : Nat) (response : Datagram)
  | socketFailed (address : Nat)
  | shutdown

inductive Step : DatagramRelay → Event → DatagramRelay → Prop where
  | tick {relay : DatagramRelay} {later : Nat} (forward : relay.now ≤ later) :
      Step relay .quiet { relay with now := later }
  -- forward
  | rejected {relay : DatagramRelay} {destinations : DestinationPolicy}
      {encoded : List UInt8} {error : DatagramRelayError}
      (unlocked : relay.Unlocked)
      (failed : Request.accept encoded destinations = .error error) :
      Step relay (.rejected destinations encoded error) relay.pruneIdle
  | accepted {relay : DatagramRelay} {call : Nat}
      {destinations : DestinationPolicy} {encoded : List UInt8}
      {request : Request} (idle : relay.calls call = none)
      (unlocked : relay.Unlocked)
      (passed : Request.accept encoded destinations = .ok request) :
      Step relay (.accepted call destinations encoded)
        (relay.pruneIdle.setCall call
          (some { request, position := .lookup }))
  | lookupRefused {relay : DatagramRelay} {call : Nat} {request : Request}
      {error : DatagramRelayError}
      (stage : relay.calls call = some ⟨request, .lookup⟩)
      (unlocked : relay.Unlocked)
      (failed : relay.association request.sessionId request.destination =
        .error error) :
      Step relay (.refused call error) (relay.setCall call none)
  | lookupFound {relay : DatagramRelay} {call : Nat} {request : Request}
      {existing : Association}
      (stage : relay.calls call = some ⟨request, .lookup⟩)
      (unlocked : relay.Unlocked)
      (found : relay.association request.sessionId request.destination =
        .ok (some existing)) :
      Step relay .quiet
        ((relay.touch existing.address).setCall call
          (some { request, position := .send existing }))
  | lookupAbsent {relay : DatagramRelay} {call : Nat} {request : Request}
      (stage : relay.calls call = some ⟨request, .lookup⟩)
      (unlocked : relay.Unlocked)
      (absent : relay.association request.sessionId request.destination =
        .ok none) :
      Step relay .quiet
        (relay.setCall call (some { request, position := .bind }))
  | bindFailed {relay : DatagramRelay} {call : Nat} {request : Request}
      (stage : relay.calls call = some ⟨request, .bind⟩) :
      Step relay (.refused call .socket) (relay.setCall call none)
  | bound {relay : DatagramRelay} {call : Nat} {request : Request}
      (stage : relay.calls call = some ⟨request, .bind⟩) :
      Step relay
        (.associated relay.nextAddress request.sessionId request.destination)
        ((relay.associate request.sessionId request.destination).setCall call
          (some ⟨request, .send ⟨request.destination, relay.nextAddress⟩⟩))
  | sent {relay : DatagramRelay} {call : Nat} {request : Request}
      {association : Association} {destination : SocketAddr}
      {accepted : Bool}
      (stage : relay.calls call = some ⟨request, .send association⟩)
      (connected : relay.peer association.address = some destination) :
      Step relay
        (.sent call association.address destination request.payload accepted)
        (relay.setCall call none)
  -- receive_responses
  | received {relay : DatagramRelay} {address : Nat} {receiver : Receiver}
      {payload encoded : List UInt8}
      (running : relay.receivers address = some receiver)
      (fits : payload.length ≤ relay.config.receiveBufferBytes)
      (encodes : (Datagram.serverToClient receiver.sessionId receiver.source
        payload).encode = .ok encoded) :
      Step relay
        (.forwarded address
          (.serverToClient receiver.sessionId receiver.source payload))
        (relay.touch address)
  | encodeFailed {relay : DatagramRelay} {address : Nat}
      {receiver : Receiver} {payload : List UInt8}
      {error : DatagramEncodeError}
      (running : relay.receivers address = some receiver)
      (fits : payload.length ≤ relay.config.receiveBufferBytes)
      (failed : (Datagram.serverToClient receiver.sessionId receiver.source
        payload).encode = .error error) :
      Step relay (.oversized address payload)
        ((relay.touch address).stopReceiver address)
  | sinkFailed {relay : DatagramRelay} {address : Nat} {receiver : Receiver}
      {payload encoded : List UInt8}
      (running : relay.receivers address = some receiver)
      (fits : payload.length ≤ relay.config.receiveBufferBytes)
      (encodes : (Datagram.serverToClient receiver.sessionId receiver.source
        payload).encode = .ok encoded) :
      Step relay
        (.sinkRefused address
          (.serverToClient receiver.sessionId receiver.source payload))
        ((relay.touch address).stopReceiver address)
  | receiveFailed {relay : DatagramRelay} {address : Nat}
      {receiver : Receiver}
      (running : relay.receivers address = some receiver) :
      Step relay (.socketFailed address) (relay.stopReceiver address)
  | cancelled {relay : DatagramRelay} {address : Nat} {receiver : Receiver}
      (running : relay.receivers address = some receiver)
      (cancelled : relay.cancelled address = true) :
      Step relay .quiet (relay.stopReceiver address)
  -- shutdown
  | shutdown {relay : DatagramRelay} (unlocked : relay.Unlocked) :
      Step relay .shutdown relay.shutdown

/-! ## The map -/

theorem mapped_iff {relay : DatagramRelay} {address : Nat} :
    relay.mapped address = true ↔
      ∃ id association, relay.associations.get? id = some association ∧
        association.address = address := by
  unfold mapped
  rw [List.any_eq_true]
  constructor
  · intro present
    obtain ⟨⟨id, association⟩, member, same⟩ := present
    exact ⟨id, association, OrderedMap.get?_eq_some_iff.mpr member,
      of_decide_eq_true same⟩
  · intro present
    obtain ⟨id, association, found, same⟩ := present
    exact ⟨(id, association), OrderedMap.get?_eq_some_iff.mp found,
      decide_eq_true same⟩

theorem get?_discard_iff {relay : DatagramRelay}
    {drop : Association → Bool} {id : DatagramSessionId}
    {association : Association} :
    (relay.discard drop).associations.get? id = some association ↔
      relay.associations.get? id = some association ∧
        drop association = false := by
  unfold discard
  rw [OrderedMap.get?_retain_eq_some_iff, Bool.not_eq_true']

/-- The associations of the map have sockets of their own, connected to their
destinations, and none of them is cancelled. -/
structure Tidy (relay : DatagramRelay) : Prop where
  known : ∀ id association,
    relay.associations.get? id = some association →
    association.address < relay.nextAddress ∧
      relay.peer association.address = some association.destination
  apart : ∀ first second one other,
    relay.associations.get? first = some one →
    relay.associations.get? second = some other →
    one.address = other.address → first = second
  live : ∀ id association,
    relay.associations.get? id = some association →
    relay.cancelled association.address = false
  fresh : ∀ address, relay.nextAddress ≤ address →
    relay.cancelled address = false

theorem tidy_new (config : DatagramRelayConfig) :
    Tidy { config } where
  known := nofun
  apart := nofun
  live := nofun
  fresh _ _ := rfl

theorem Tidy.keep {relay next : DatagramRelay} (tidy : relay.Tidy)
    (associations : next.associations = relay.associations)
    (nextAddress : next.nextAddress = relay.nextAddress)
    (peer : next.peer = relay.peer)
    (cancelled : next.cancelled = relay.cancelled) : next.Tidy where
  known := by
    rw [associations, nextAddress, peer]
    exact tidy.known
  apart := by
    rw [associations]
    exact tidy.apart
  live := by
    rw [associations, cancelled]
    exact tidy.live
  fresh := by
    rw [nextAddress, cancelled]
    exact tidy.fresh

theorem tidy_discard {relay : DatagramRelay} (tidy : relay.Tidy)
    (drop : Association → Bool) : (relay.discard drop).Tidy where
  known := by
    intro id association found
    exact tidy.known id association (get?_discard_iff.mp found).1
  apart := by
    intro first second one other here there
    exact tidy.apart first second one other (get?_discard_iff.mp here).1
      (get?_discard_iff.mp there).1
  live := by
    intro id association found
    obtain ⟨present, kept⟩ := get?_discard_iff.mp found
    apply Bool.or_eq_false_iff.mpr
    refine ⟨tidy.live id association present, ?_⟩
    rw [List.any_eq_false]
    intro entry member dropped
    obtain ⟨goes, same⟩ := Bool.and_eq_true_iff.mp dropped
    -- Only this association uses the socket, and it is kept.
    have present' := OrderedMap.get?_eq_some_iff.mpr member
    have sameId := tidy.apart entry.1 id entry.2 association present' present
      (of_decide_eq_true same)
    rw [sameId, present] at present'
    obtain rfl := Option.some.inj present'
    rw [kept] at goes
    cases goes
  fresh := by
    intro address unused
    apply Bool.or_eq_false_iff.mpr
    refine ⟨tidy.fresh address unused, ?_⟩
    rw [List.any_eq_false]
    intro entry member dropped
    obtain ⟨_, same⟩ := Bool.and_eq_true_iff.mp dropped
    have below := (tidy.known entry.1 entry.2
      (OrderedMap.get?_eq_some_iff.mpr member)).1
    rw [of_decide_eq_true same] at below
    exact absurd below (Nat.not_lt.mpr unused)

theorem tidy_associate {relay : DatagramRelay} (tidy : relay.Tidy)
    (sessionId : DatagramSessionId) (destination : SocketAddr) :
    (relay.associate sessionId destination).Tidy where
  known := by
    intro id association found
    rcases OrderedMap.get?_insert_eq_some_iff.mp found with
      ⟨_, rfl⟩ | ⟨_, before⟩
    · exact ⟨Nat.lt_succ_self _, Function.update_self _ _ _⟩
    · obtain ⟨below, connected⟩ := tidy.known id association before
      refine ⟨Nat.lt_succ_of_lt below, ?_⟩
      rw [← connected]
      exact Function.update_of_ne (Nat.ne_of_lt below) _ _
  apart := by
    intro first second one other here there same
    rcases OrderedMap.get?_insert_eq_some_iff.mp here with
      ⟨rfl, rfl⟩ | ⟨_, before⟩
    · rcases OrderedMap.get?_insert_eq_some_iff.mp there with
        ⟨rfl, _⟩ | ⟨_, present⟩
      · rfl
      · have below := (tidy.known second other present).1
        exact absurd same.symm (Nat.ne_of_lt below)
    · rcases OrderedMap.get?_insert_eq_some_iff.mp there with
        ⟨_, rfl⟩ | ⟨_, present⟩
      · have below := (tidy.known first one before).1
        exact absurd same (Nat.ne_of_lt below)
      · exact tidy.apart first second one other before present same
  live := by
    intro id association found
    rcases OrderedMap.get?_insert_eq_some_iff.mp found with
      ⟨_, rfl⟩ | ⟨_, before⟩
    · exact tidy.fresh relay.nextAddress (Nat.le_refl _)
    · exact tidy.live id association before
  fresh := by
    intro address unused
    exact tidy.fresh address (Nat.le_of_succ_le unused)

theorem tidy_step {relay next : DatagramRelay} {event : Event}
    (tidy : relay.Tidy) (step : Step relay event next) : next.Tidy := by
  cases step with
  | rejected unlocked failed => exact tidy_discard tidy _
  | accepted idle unlocked passed =>
      have pruned : relay.pruneIdle.Tidy := tidy_discard tidy _
      exact pruned.keep rfl rfl rfl rfl
  | bound stage => exact (tidy_associate tidy _ _).keep rfl rfl rfl rfl
  | shutdown unlocked => exact tidy_discard tidy _
  | tick | lookupRefused | lookupFound | lookupAbsent | bindFailed | sent
  | received | encodeFailed | sinkFailed | receiveFailed | cancelled =>
      exact tidy.keep rfl rfl rfl rfl

/-! ## The tasks -/

/-- Every association of the map has a task that is still running. -/
def Receiving (relay : DatagramRelay) : Prop :=
  ∀ id association, relay.associations.get? id = some association →
    relay.receivers association.address =
      some { sessionId := id, source := association.destination }

/-- A response that fits an envelope can be forwarded for every association of
the map. -/
def Forwards (relay : DatagramRelay) : Prop :=
  ∀ id association, relay.associations.get? id = some association →
    ∀ payload : List UInt8,
      payload.length ≤ relay.config.receiveBufferBytes →
      payload.length ≤ maxDatagramPayloadBytes →
      ∃ next, Step relay (.forwarded association.address
        (.serverToClient id association.destination payload)) next

theorem forwards_of_receiving {relay : DatagramRelay}
    (receiving : relay.Receiving) : relay.Forwards := by
  intro id association found payload fits small
  have running := receiving id association found
  have encodes := Datagram.encode_serverToClient_eq_ok_iff.mpr
    ⟨small, @rfl _ ([serverToClientByte] ++ wordBytes64 id.value ++
      Datagram.addressBytes association.destination ++ payload)⟩
  exact ⟨_, Step.received running fits encodes⟩

theorem Receiving.keep {relay next : DatagramRelay}
    (receiving : relay.Receiving)
    (associations : next.associations = relay.associations)
    (receivers : next.receivers = relay.receivers) : next.Receiving := by
  unfold Receiving
  rw [associations, receivers]
  exact receiving

theorem receiving_discard {relay : DatagramRelay}
    (receiving : relay.Receiving) (drop : Association → Bool) :
    (relay.discard drop).Receiving := by
  intro id association found
  exact receiving id association (get?_discard_iff.mp found).1

theorem receiving_associate {relay : DatagramRelay} (tidy : relay.Tidy)
    (receiving : relay.Receiving) (sessionId : DatagramSessionId)
    (destination : SocketAddr) :
    (relay.associate sessionId destination).Receiving := by
  intro id association found
  rcases OrderedMap.get?_insert_eq_some_iff.mp found with
    ⟨rfl, rfl⟩ | ⟨_, before⟩
  · exact Function.update_self _ _ _
  · rw [← receiving id association before]
    exact Function.update_of_ne
      (Nat.ne_of_lt (tidy.known id association before).1) _ _

/-- A task that no association of the map uses may return. -/
theorem receiving_stopReceiver {relay : DatagramRelay} {address : Nat}
    (receiving : relay.Receiving) (unused : relay.mapped address ≠ true) :
    (relay.stopReceiver address).Receiving := by
  intro id association found
  have different : association.address ≠ address := by
    intro same
    exact unused (mapped_iff.mpr ⟨id, association, found, same⟩)
  rw [← receiving id association found]
  exact Function.update_of_ne different _ _

/-- What the task of an association of the map does not survive: a payload
above the limit of an envelope, a response that the sink refuses, or an error
of the socket. -/
def Event.Disturbs (relay : DatagramRelay) : Event → Prop
  | .oversized address payload =>
      relay.mapped address = true ∧ maxDatagramPayloadBytes < payload.length
  | .sinkRefused address _ => relay.mapped address = true
  | .socketFailed address => relay.mapped address = true
  | _ => False

theorem above_of_encode_error {sessionId : DatagramSessionId}
    {source : SocketAddr} {payload : List UInt8} {error : DatagramEncodeError}
    (failed : (Datagram.serverToClient sessionId source payload).encode =
      .error error) : maxDatagramPayloadBytes < payload.length := by
  apply Nat.lt_of_not_ge
  intro small
  have encodes := Datagram.encode_serverToClient_eq_ok_iff.mpr
    ⟨small, @rfl _ ([serverToClientByte] ++ wordBytes64 sessionId.value ++
      Datagram.addressBytes source ++ payload)⟩
  rw [failed] at encodes
  cases encodes

theorem receiving_step {relay next : DatagramRelay} {event : Event}
    (tidy : relay.Tidy) (receiving : relay.Receiving)
    (step : Step relay event next) (undisturbed : ¬event.Disturbs relay) :
    next.Receiving := by
  cases step with
  | rejected unlocked failed => exact receiving_discard receiving _
  | accepted idle unlocked passed =>
      have pruned : relay.pruneIdle.Receiving :=
        receiving_discard receiving _
      exact pruned.keep rfl rfl
  | bound stage =>
      exact (receiving_associate tidy receiving _ _).keep rfl rfl
  | shutdown unlocked => exact receiving_discard receiving _
  | tick | lookupRefused | lookupFound | lookupAbsent | bindFailed | sent
  | received => exact receiving.keep rfl rfl
  | encodeFailed running fits failed =>
      have unused := fun mapped =>
        undisturbed ⟨mapped, above_of_encode_error failed⟩
      exact (receiving_stopReceiver receiving unused).keep rfl rfl
  | sinkFailed | receiveFailed =>
      exact (receiving_stopReceiver receiving undisturbed).keep rfl rfl
  | cancelled running cancelled =>
      apply receiving_stopReceiver receiving
      intro present
      obtain ⟨id, association, found, rfl⟩ := mapped_iff.mp present
      rw [tidy.live id association found] at cancelled
      cases cancelled

/-- No event of a run disturbs the state in which it comes. -/
def Undisturbed (initial : DatagramRelay) (trace : List Event)
    (relay : DatagramRelay) : Prop :=
  ∀ front event back before, trace = front ++ event :: back →
    Run Step initial front before → Run Step before (event :: back) relay →
    ¬event.Disturbs before

theorem undisturbed_snoc {initial before relay : DatagramRelay}
    {trace : List Event} {event : Event}
    (undisturbed : Undisturbed initial (trace ++ [event]) relay)
    (run : Run Step initial trace before) (step : Step before event relay) :
    Undisturbed initial trace before ∧ ¬event.Disturbs before := by
  constructor
  · intro front other back middle whole early late
    apply undisturbed front other (back ++ [event]) middle
    · rw [whole, List.append_assoc]
      rfl
    · exact early
    · exact late.snoc step
  · exact undisturbed trace event [] before rfl run (.single step)

theorem receiving_of_run {config : DatagramRelayConfig}
    {initial relay : DatagramRelay} {trace : List Event}
    (made : new config = .ok initial) (run : Run Step initial trace relay)
    (undisturbed : Undisturbed initial trace relay) :
    relay.Tidy ∧ relay.Receiving := by
  induction run with
  | nil =>
      unfold new at made
      split at made
      · cases made
      · cases made
        exact ⟨tidy_new config, nofun⟩
  | snoc earlier step induction =>
      obtain ⟨before, event⟩ := undisturbed_snoc undisturbed earlier step
      obtain ⟨tidy, receiving⟩ := induction before
      exact ⟨tidy_step tidy step, receiving_step tidy receiving step event⟩

/-- A task that returns leaves its association behind in the map. -/
theorem not_receiving_of_disturbs {relay next : DatagramRelay}
    {event : Event} (step : Step relay event next)
    (disturbs : event.Disturbs relay) : ¬next.Receiving := by
  have stuck {address : Nat} {after : DatagramRelay}
      (present : relay.mapped address = true)
      (associations : after.associations = relay.associations)
      (gone : after.receivers address = none) : ¬after.Receiving := by
    intro receiving
    obtain ⟨id, association, found, rfl⟩ := mapped_iff.mp present
    rw [← associations] at found
    rw [receiving id association found] at gone
    cases gone
  cases step with
  | encodeFailed =>
      exact stuck disturbs.1 rfl (Function.update_self _ _ _)
  | sinkFailed | receiveFailed =>
      exact stuck disturbs rfl (Function.update_self _ _ _)
  | _ => cases disturbs

/-- In every state of a run the associations of the map can receive. -/
def AlwaysReceiving (initial : DatagramRelay) (trace : List Event)
    (relay : DatagramRelay) : Prop :=
  ∀ first second middle, trace = first ++ second →
    Run Step initial first middle → Run Step middle second relay →
    middle.Receiving ∧ middle.Forwards

/-- In every run the associations of the map can always receive exactly when
none of their tasks gets a payload above the limit, a refusal of the sink, or
an error of the socket. -/
theorem alwaysReceiving_iff {config : DatagramRelayConfig}
    {initial relay : DatagramRelay} {trace : List Event}
    (made : new config = .ok initial) :
    AlwaysReceiving initial trace relay ↔
      Undisturbed initial trace relay := by
  constructor
  · intro always front event back before whole early late disturbs
    obtain ⟨next, step, rest⟩ := late.head
    have receiving := (always (front ++ [event]) back next
      (by rw [whole, List.append_assoc, List.singleton_append])
      (early.snoc step) rest).1
    exact not_receiving_of_disturbs step disturbs receiving
  · intro undisturbed first second middle whole toMiddle rest
    have before : Undisturbed initial first middle := by
      intro front event back state parted early late
      apply undisturbed front event (back ++ second) state
      · rw [whole, parted, List.append_assoc, List.cons_append]
      · exact early
      · exact late.append rest
    have receiving := (receiving_of_run made toMiddle before).2
    exact ⟨receiving, forwards_of_receiving receiving⟩

/-- An envelope for `192.0.2.10:53` without a payload. -/
def query : List UInt8 :=
  [1, 1, 7, 0, 0, 0, 0, 0, 0, 0, 1, 4, 192, 0, 2, 10, 0, 53]

theorem length_queryOctets : ([192, 0, 2, 10] : List UInt8).length = 4 := rfl

def queryTarget : SocketAddr :=
  .v4 ⟨[192, 0, 2, 10], length_queryOctets⟩ 53

def queryRequest : Request :=
  { sessionId := ⟨1, by decide⟩, destination := queryTarget, payload := [] }

def queryPolicy : DestinationPolicy :=
  { allowed := [queryTarget] }

theorem accept_query :
    Request.accept query queryPolicy = .ok queryRequest := by
  rfl

theorem unlocked_query :
    (setCall (pruneIdle { config := {} }) 0
      (some ⟨queryRequest, .lookup⟩)).Unlocked := by
  apply unlocked_setCall
  · intro call stage found
    cases found
  · intro stage found
    cases found
    exact nofun

/-- The first envelope makes an association. -/
theorem associate_query :
    ∃ relay, Run Step { config := {} }
        [.accepted 0 queryPolicy query, .quiet,
          .associated 0 queryRequest.sessionId queryTarget] relay ∧
      relay.config = {} ∧ relay.mapped 0 = true ∧
      relay.receivers 0 =
        some ⟨queryRequest.sessionId, queryTarget⟩ := by
  have passed : Run Step { config := {} }
      [.accepted 0 queryPolicy query] _ :=
    .single (Step.accepted rfl (fun _ _ found => by cases found) accept_query)
  have locked : Run Step { config := {} }
      [.accepted 0 queryPolicy query, .quiet] _ :=
    passed.snoc (@Step.lookupAbsent _ 0 queryRequest rfl unlocked_query rfl)
  have bound : Run Step { config := {} }
      [.accepted 0 queryPolicy query, .quiet,
        .associated 0 queryRequest.sessionId queryTarget] _ :=
    locked.snoc (@Step.bound _ 0 queryRequest rfl)
  exact ⟨_, bound, rfl, rfl, rfl⟩

/-- The association of the first envelope can receive. -/
theorem alwaysReceiving_query :
    ∃ initial relay, new {} = .ok initial ∧
      Run Step initial
        [.accepted 0 queryPolicy query, .quiet,
          .associated 0 queryRequest.sessionId queryTarget] relay ∧
      AlwaysReceiving initial
        [.accepted 0 queryPolicy query, .quiet,
          .associated 0 queryRequest.sessionId queryTarget] relay := by
  obtain ⟨relay, run, _⟩ := associate_query
  have made : new {} = .ok { config := {} } := rfl
  refine ⟨_, relay, made, run, (alwaysReceiving_iff made).mpr ?_⟩
  intro front event back before whole _ _ disturbs
  have member : event ∈ front ++ event :: back := by simp
  rw [← whole] at member
  rcases List.mem_cons.mp member with rfl | member
  · exact disturbs
  · rcases List.mem_cons.mp member with rfl | member
    · exact disturbs
    · rw [List.mem_singleton] at member
      rw [member] at disturbs
      exact disturbs

/-- A response of 61441 bytes fits the buffer and no envelope, and ends the
task. -/
theorem association_stops_receiving :
    ∃ initial trace relay, new {} = .ok initial ∧
      Run Step initial trace relay ∧
      ¬AlwaysReceiving initial trace relay := by
  obtain ⟨relay, run, standard, present, running⟩ := associate_query
  have large : (List.replicate 61441 (0 : UInt8)).length = 61441 :=
    List.length_replicate
  have fits : (List.replicate 61441 (0 : UInt8)).length ≤
      relay.config.receiveBufferBytes := by
    rw [large, standard]
    decide
  obtain ⟨error, failed⟩ : ∃ error, (Datagram.serverToClient
      queryRequest.sessionId queryTarget
      (List.replicate 61441 0)).encode = .error error := by
    cases outcome : (Datagram.serverToClient queryRequest.sessionId
        queryTarget (List.replicate 61441 0)).encode with
    | error error => exact ⟨error, rfl⟩
    | ok encoded =>
        have small := (Datagram.encode_serverToClient_eq_ok_iff.mp outcome).1
        rw [large] at small
        exact absurd small (by decide)
  have loses := Step.encodeFailed running fits failed
  refine ⟨_, _, _, rfl, run.snoc loses, ?_⟩
  intro always
  have receiving := (always _ [] _ (List.append_nil _).symm (run.snoc loses)
    .nil).1
  have above := above_of_encode_error failed
  exact not_receiving_of_disturbs loses ⟨present, above⟩ receiving

end DatagramRelay

end Velum.Node
