import Velum.Foundation.OrderedMap
import Velum.Foundation.TransitionSystem
import Velum.Runtime.Datagrams

/-!
# The datagram receiver of an Android tunnel

One task receives the responses of all captured flows and hands each payload
to the channel of its flow.  The tasks of the flows register, read, and close
their channels in between.  A channel keeps everything it was given; a flow
has read a front part of it.
-/

namespace Velum.Tun

open Foundation Protocol Velum.Runtime

/-- The bound of the channel of one flow. -/
def responseCapacity : Nat := 32

structure ResponseChannel where
  accepted : List (List UInt8)
  taken : Nat
  alive : Bool
  deriving DecidableEq

/-- The target of a flow and the number of its channel. -/
structure UdpRoute where
  target : SocketAddr
  channel : Nat
  deriving DecidableEq

/-- Where the receiver is suspended. -/
inductive ReceiverTask where
  | waiting
  | looking (response : ClientDatagram)
  | sending (channel : Nat) (payload : List UInt8)
  | ended
  deriving DecidableEq

structure AndroidTun where
  routes : OrderedMap DatagramSessionId UdpRoute
  channels : List ResponseChannel
  receiver : ReceiverTask

namespace AndroidTun

def fresh : AndroidTun := ⟨.empty, [], .waiting⟩

/-- The channel of the flow that the response is for. -/
def routeFor (tun : AndroidTun) (response : ClientDatagram) : Option Nat :=
  match tun.routes.get? response.sessionId with
  | none => none
  | some route =>
      if route.target = response.source then some route.channel else none

/-- The first five labels are steps of the receiver, where a closed channel
gives the payload back.  The others are steps of the flows. -/
inductive Label where
  | receive (active : RuntimeSnapshot) (read : ReadDatagram)
      (after : RuntimeSnapshot)
  | lookup (response : ClientDatagram) (found : Option Nat)
  | deliver (channel : Nat) (payload : List UInt8)
  | reject (channel : Nat) (payload : List UInt8)
  | shutdown
  | register (session : DatagramSessionId) (target : SocketAddr)
  | unregister (session : DatagramSessionId)
  | drain (channel : Nat)
  | close (channel : Nat)

/-- Where the receiver goes on after an answer of the runtime. -/
def received (answer : Except RuntimeError ClientDatagram) : ReceiverTask :=
  match answer with
  | .error _ => .ended
  | .ok response => .looking response

/-- Where the receiver goes on after a lookup. -/
def routed (payload : List UInt8) : Option Nat → ReceiverTask
  | none => .waiting
  | some channel => .sending channel payload

inductive Step (tun : AndroidTun) : Label → AndroidTun → Prop where
  | receive {active after : RuntimeSnapshot} {read : ReadDatagram} :
      tun.receiver = .waiting →
      Step tun (.receive active read after)
        { tun with receiver := received (receiveDatagram active read after) }
  | lookup {response : ClientDatagram} :
      tun.receiver = .looking response →
      Step tun (.lookup response (tun.routeFor response))
        { tun with receiver := routed response.payload (tun.routeFor response) }
  | deliver {channel : Nat} {payload : List UInt8} {held : ResponseChannel} :
      tun.receiver = .sending channel payload →
      tun.channels[channel]? = some held → held.alive = true →
      held.accepted.length < held.taken + responseCapacity →
      Step tun (.deliver channel payload)
        { tun with
          channels := tun.channels.set channel
            { held with accepted := held.accepted ++ [payload] }
          receiver := .waiting }
  | reject {channel : Nat} {payload : List UInt8} {held : ResponseChannel} :
      tun.receiver = .sending channel payload →
      tun.channels[channel]? = some held → held.alive = false →
      Step tun (.reject channel payload) { tun with receiver := .waiting }
  | shutdown :
      tun.receiver = .waiting →
      Step tun .shutdown { tun with receiver := .ended }
  | register {session : DatagramSessionId} {target : SocketAddr} :
      Step tun (.register session target)
        { tun with
          routes := tun.routes.insert session ⟨target, tun.channels.length⟩
          channels := tun.channels ++ [⟨[], 0, true⟩] }
  | unregister {session : DatagramSessionId} :
      Step tun (.unregister session)
        { tun with routes := tun.routes.erase session }
  | drain {channel : Nat} {held : ResponseChannel} :
      tun.channels[channel]? = some held →
      held.taken < held.accepted.length →
      Step tun (.drain channel)
        { tun with
          channels := tun.channels.set channel
            { held with taken := held.taken + 1 } }
  | close {channel : Nat} {held : ResponseChannel} :
      tun.channels[channel]? = some held →
      Step tun (.close channel)
        { tun with
          channels := tun.channels.set channel { held with alive := false } }

/-! ## What a run owes and hands over -/

namespace Label

/-- The valid response that a step of the receiver reads. -/
def response : Label → Option ClientDatagram
  | .receive active read after => (receiveDatagram active read after).toOption
  | _ => none

def lookedUp : Label → Option ClientDatagram
  | .lookup response _ => some response
  | _ => none

/-- The payload of a registered session from its own target, with the channel
that was found. -/
def owed : Label → Option (Nat × List UInt8)
  | .lookup response found => found.map fun channel =>
      (channel, response.payload)
  | _ => none

def handed : Label → Option (Nat × List UInt8)
  | .deliver channel payload => some (channel, payload)
  | .reject channel payload => some (channel, payload)
  | _ => none

def delivered (number : Nat) : Label → Option (List UInt8)
  | .deliver channel payload =>
      if channel = number then some payload else none
  | _ => none

end Label

/-- The response that the receiver is looking up. -/
def lookingUp (tun : AndroidTun) : List ClientDatagram :=
  match tun.receiver with
  | .looking response => [response]
  | _ => []

/-- The payload that waits for room in its channel. -/
def pending (tun : AndroidTun) : List (Nat × List UInt8) :=
  match tun.receiver with
  | .sending channel payload => [(channel, payload)]
  | _ => []

namespace Step

variable {tun after : AndroidTun} {label : Label}

theorem lookingUp (move : Step tun label after) :
    tun.lookingUp ++ label.response.toList =
      label.lookedUp.toList ++ after.lookingUp := by
  cases move with
  | receive waiting =>
      rename_i active online read
      simp only [AndroidTun.lookingUp, waiting, Label.response,
        Label.lookedUp]
      cases receiveDatagram active read online <;> rfl
  | @lookup response looks =>
      simp only [AndroidTun.lookingUp, looks, Label.response, Label.lookedUp]
      cases tun.routeFor response <;> rfl
  | deliver sends => simp [AndroidTun.lookingUp, sends, Label.response,
      Label.lookedUp]
  | reject sends => simp [AndroidTun.lookingUp, sends, Label.response,
      Label.lookedUp]
  | shutdown waiting => simp [AndroidTun.lookingUp, waiting, Label.response,
      Label.lookedUp]
  | register => exact List.append_nil _
  | unregister => exact List.append_nil _
  | drain => exact List.append_nil _
  | close => exact List.append_nil _

theorem pending (move : Step tun label after) :
    tun.pending ++ label.owed.toList =
      label.handed.toList ++ after.pending := by
  cases move with
  | receive waiting =>
      rename_i active online read
      simp only [AndroidTun.pending, waiting, Label.owed, Label.handed]
      cases receiveDatagram active read online <;> rfl
  | @lookup response looks =>
      simp only [AndroidTun.pending, looks, Label.owed, Label.handed]
      cases tun.routeFor response <;> rfl
  | deliver sends => simp [AndroidTun.pending, sends, Label.owed,
      Label.handed]
  | reject sends => simp [AndroidTun.pending, sends, Label.owed,
      Label.handed]
  | shutdown waiting => simp [AndroidTun.pending, waiting, Label.owed,
      Label.handed]
  | register => exact List.append_nil _
  | unregister => exact List.append_nil _
  | drain => exact List.append_nil _
  | close => exact List.append_nil _

/-- A channel grows by what is delivered to it; a new channel is empty and
nothing was delivered under its number. -/
theorem channel (move : Step tun label after) {number : Nat}
    {held : ResponseChannel} (found : after.channels[number]? = some held) :
    (∃ old, tun.channels[number]? = some old ∧
      held.accepted = old.accepted ++ (label.delivered number).toList) ∨
    (number = tun.channels.length ∧ held.accepted = [] ∧
      label.delivered number = none) := by
  have same : label.delivered number = none →
      tun.channels[number]? = some held → ∃ old,
        tun.channels[number]? = some old ∧
          held.accepted = old.accepted ++ (label.delivered number).toList := by
    intro none stored
    exact ⟨held, stored, by rw [none]; exact (List.append_nil _).symm⟩
  have changed : ∀ {channel : Nat} {old new : ResponseChannel},
      (tun.channels.set channel new)[number]? = some held →
      tun.channels[channel]? = some old →
      (number ≠ channel → label.delivered number = none) →
      new.accepted = old.accepted ++ (label.delivered channel).toList →
      ∃ old, tun.channels[number]? = some old ∧
        held.accepted = old.accepted ++ (label.delivered number).toList := by
    intro channel old new stored before others grows
    rw [List.getElem?_set] at stored
    split at stored
    next isChannel =>
        subst isChannel
        split at stored
        · cases stored
          exact ⟨old, before, grows⟩
        · cases stored
    next other => exact same (others (Ne.symm other)) stored
  cases move with
  | receive => exact .inl (same rfl found)
  | lookup => exact .inl (same rfl found)
  | @deliver channel payload old sends before =>
      refine .inl (changed found before ?_ ?_)
      · intro other
        exact if_neg (Ne.symm other)
      · simp [Label.delivered]
  | reject => exact .inl (same rfl found)
  | shutdown => exact .inl (same rfl found)
  | register =>
      simp only [List.getElem?_append] at found
      split at found
      · exact .inl (same rfl found)
      next outside =>
          have first := (List.getElem?_eq_some_iff.mp found).1
          simp only [List.length_singleton] at first
          have index : number - tun.channels.length = 0 := by omega
          rw [index] at found
          cases found
          exact .inr ⟨by omega, rfl, rfl⟩
  | unregister => exact .inl (same rfl found)
  | drain before =>
      exact .inl (changed found before (fun _ => rfl)
        (List.append_nil _).symm)
  | close before =>
      exact .inl (changed found before (fun _ => rfl)
        (List.append_nil _).symm)

theorem length_channels (move : Step tun label after) :
    tun.channels.length ≤ after.channels.length := by
  cases move <;> simp

end Step

/-- Routes and payloads name channels that exist. -/
structure Known (tun : AndroidTun) : Prop where
  routed : ∀ session route, tun.routes.get? session = some route →
    route.channel < tun.channels.length
  sending : ∀ channel payload, tun.receiver = .sending channel payload →
    channel < tun.channels.length

theorem routeFor_eq_some {tun : AndroidTun} {response : ClientDatagram}
    {channel : Nat} (found : tun.routeFor response = some channel) :
    ∃ route, tun.routes.get? response.sessionId = some route ∧
      route.target = response.source ∧ route.channel = channel := by
  unfold routeFor at found
  split at found
  next => cases found
  next route stored =>
      split at found
      next target => exact ⟨route, stored, target, Option.some.inj found⟩
      next => cases found

/-- More channels, the same routes, and no new payload keep it. -/
theorem Known.of_longer {tun after : AndroidTun} (known : tun.Known)
    (routes : after.routes = tun.routes)
    (longer : tun.channels.length ≤ after.channels.length)
    (sends : ∀ channel payload, after.receiver = .sending channel payload →
      tun.receiver = .sending channel payload) : after.Known where
  routed := by
    intro session route stored
    rw [routes] at stored
    exact (known.routed session route stored).trans_le longer
  sending := fun channel payload sending =>
    (known.sending channel payload (sends channel payload sending)).trans_le
      longer

theorem Known.step {tun after : AndroidTun} {label : Label}
    (known : tun.Known) (move : Step tun label after) : after.Known := by
  have longer := move.length_channels
  cases move with
  | @receive active online read waiting =>
      refine known.of_longer rfl longer ?_
      intro channel payload sends
      cases answer : receiveDatagram active read online with
      | error failure =>
          rw [answer] at sends
          cases sends
      | ok response =>
          rw [answer] at sends
          cases sends
  | @lookup response looks =>
      refine ⟨known.routed, ?_⟩
      intro channel payload sends
      cases found : tun.routeFor response with
      | none => simp [found, AndroidTun.routed] at sends
      | some number =>
          simp only [found, AndroidTun.routed,
            ReceiverTask.sending.injEq] at sends
          obtain ⟨route, stored, _, rfl⟩ := routeFor_eq_some found
          rw [← sends.1]
          exact known.routed _ route stored
  | deliver => exact known.of_longer rfl longer fun _ _ sends => by cases sends
  | reject => exact known.of_longer rfl longer fun _ _ sends => by cases sends
  | shutdown => exact known.of_longer rfl longer fun _ _ sends => by cases sends
  | register =>
      constructor
      · intro other route stored
        rw [List.length_append, List.length_singleton]
        rcases OrderedMap.get?_insert_eq_some_iff.mp stored with
          ⟨_, rfl⟩ | ⟨_, before⟩
        · exact Nat.lt_succ_self _
        · exact Nat.lt_succ_of_lt (known.routed other route before)
      · exact fun channel payload sends =>
          (known.sending channel payload sends).trans_le longer
  | unregister =>
      refine ⟨?_, known.sending⟩
      intro other route stored
      exact known.routed other route
        (OrderedMap.get?_erase_eq_some_iff.mp stored).2
  | drain => exact known.of_longer rfl longer fun _ _ sends => sends
  | close => exact known.of_longer rfl longer fun _ _ sends => sends

/-- Every response that was read is looked up, and every payload that is owed
goes to its channel, both in order. -/
structure Accounts (trace : List Label) (tun : AndroidTun) : Prop where
  looked : trace.filterMap Label.response =
    trace.filterMap Label.lookedUp ++ tun.lookingUp
  handedOver : trace.filterMap Label.owed =
    trace.filterMap Label.handed ++ tun.pending
  accepted : ∀ number held, tun.channels[number]? = some held →
    held.accepted = trace.filterMap (Label.delivered number)
  unused : ∀ number, tun.channels.length ≤ number →
    trace.filterMap (Label.delivered number) = []
  known : tun.Known

theorem filterMap_snoc {Value : Type} (part : Label → Option Value)
    (trace : List Label) (label : Label) :
    (trace ++ [label]).filterMap part =
      trace.filterMap part ++ (part label).toList := by
  rw [List.filterMap_append]
  cases found : part label <;> simp [found]

/-- Nothing is delivered under a number without a channel. -/
theorem Known.delivered {tun after : AndroidTun} {label : Label}
    (known : tun.Known) (move : Step tun label after) {number : Nat}
    (outside : after.channels.length ≤ number) :
    label.delivered number = none := by
  cases move with
  | deliver sends =>
      have inside := known.sending _ _ sends
      rw [List.length_set] at outside
      exact if_neg (by omega)
  | _ => rfl

theorem accounts_fresh : Accounts [] fresh where
  looked := rfl
  handedOver := rfl
  accepted := fun number held found => by cases found
  unused := fun _ _ => rfl
  known :=
    { routed := fun session route found => by cases found
      sending := fun channel payload sends => by cases sends }

theorem Accounts.step {trace : List Label} {tun after : AndroidTun}
    {label : Label} (accounts : Accounts trace tun)
    (move : Step tun label after) : Accounts (trace ++ [label]) after where
  looked := by
    rw [filterMap_snoc, filterMap_snoc, accounts.looked, List.append_assoc,
      List.append_assoc, move.lookingUp]
  handedOver := by
    rw [filterMap_snoc, filterMap_snoc, accounts.handedOver,
      List.append_assoc, List.append_assoc, move.pending]
  accepted := by
    intro number held found
    rw [filterMap_snoc]
    rcases move.channel found with ⟨old, before, grown⟩ | ⟨isNew, empty, none⟩
    · rw [grown, accounts.accepted number old before]
    · rw [empty, none, accounts.unused number (by omega)]
      rfl
  unused := by
    intro number outside
    have before := move.length_channels
    rw [filterMap_snoc, accounts.unused number (by omega),
      accounts.known.delivered move outside]
    rfl
  known := accounts.known.step move

theorem accounts_of_run {trace : List Label} {tun : AndroidTun}
    (run : Run Step fresh trace tun) : Accounts trace tun := by
  induction run with
  | nil => exact accounts_fresh
  | snoc _ move induction => exact induction.step move

/-! ## When the receiver survives -/

namespace Label

/-- The runtime stays online, the read gives a datagram, and nobody shuts the
task down. -/
def Steady : Label → Prop
  | .receive active read after =>
      active.phase = .online ∧
        after.isGenerationOnline active.generation = true ∧
        read.isSome = true
  | .shutdown => False
  | _ => True

/-- A datagram that is read is an envelope from the server. -/
def FromServer : Label → Prop
  | .receive _ read _ => ∃ encoded sessionId source payload,
      read = some encoded ∧
        Datagram.decode encoded = .ok (.serverToClient sessionId source payload)
  | _ => True

end Label

theorem received_ne_ended_iff {active online : RuntimeSnapshot}
    {read : ReadDatagram}
    (steady : (Label.receive active read online).Steady) :
    received (receiveDatagram active read online) ≠ .ended ↔
      (Label.receive active read online).FromServer := by
  rw [receiveDatagram_of_online steady.1 steady.2.1]
  constructor
  · intro survives
    cases decoded : clientReceiveDatagram read with
    | error failure =>
        rw [decoded] at survives
        exact absurd rfl survives
    | ok response =>
        obtain ⟨encoded, same, envelope⟩ :=
          clientReceiveDatagram_eq_ok_iff.mp decoded
        exact ⟨encoded, _, _, _, same, envelope⟩
  · rintro ⟨encoded, sessionId, source, payload, same, envelope⟩
    have decoded : clientReceiveDatagram read =
        .ok ⟨sessionId, source, payload⟩ :=
      clientReceiveDatagram_eq_ok_iff.mpr ⟨encoded, same, envelope⟩
    rw [decoded]
    intro ended
    cases ended

/-- A steady step ends the receiver only by a datagram that is not an envelope
from the server. -/
theorem Step.running_iff {tun after : AndroidTun} {label : Label}
    (move : Step tun label after) (steady : label.Steady) :
    after.receiver ≠ .ended ↔
      tun.receiver ≠ .ended ∧ label.FromServer := by
  cases move with
  | receive waiting =>
      have running : tun.receiver ≠ .ended := by
        rw [waiting]
        exact ReceiverTask.noConfusion
      rw [received_ne_ended_iff steady]
      exact ⟨fun fromServer => ⟨running, fromServer⟩, And.right⟩
  | @lookup response looks =>
      have running : tun.receiver ≠ .ended := by
        rw [looks]
        exact ReceiverTask.noConfusion
      refine iff_of_true ?_ ⟨running, trivial⟩
      cases tun.routeFor response <;> exact ReceiverTask.noConfusion
  | deliver sends =>
      refine iff_of_true ReceiverTask.noConfusion ⟨?_, trivial⟩
      rw [sends]
      exact ReceiverTask.noConfusion
  | reject sends =>
      refine iff_of_true ReceiverTask.noConfusion ⟨?_, trivial⟩
      rw [sends]
      exact ReceiverTask.noConfusion
  | shutdown => exact absurd steady id
  | register => exact ⟨fun running => ⟨running, trivial⟩, And.left⟩
  | unregister => exact ⟨fun running => ⟨running, trivial⟩, And.left⟩
  | drain => exact ⟨fun running => ⟨running, trivial⟩, And.left⟩
  | close => exact ⟨fun running => ⟨running, trivial⟩, And.left⟩

theorem running_iff {trace : List Label} {tun : AndroidTun}
    (run : Run Step fresh trace tun)
    (steady : ∀ label ∈ trace, label.Steady) :
    tun.receiver ≠ .ended ↔ ∀ label ∈ trace, label.FromServer := by
  induction run with
  | nil =>
      refine iff_of_true ReceiverTask.noConfusion ?_
      intro label member
      cases member
  | @snoc trace tun after label _ move induction =>
      rw [move.running_iff (steady label (by simp)),
        induction fun earlier member =>
          steady earlier (List.mem_append_left _ member)]
      simp only [List.forall_mem_append, List.forall_mem_singleton]

/-- A payload whose channel is closed or has room can move on. -/
def MovesOn (tun : AndroidTun) : Prop :=
  ∀ channel payload, tun.receiver = .sending channel payload →
    ∃ held, tun.channels[channel]? = some held ∧
      (held.alive = false ∨
          held.accepted.length < held.taken + responseCapacity →
        ∃ label after, label.handed = some (channel, payload) ∧
          Step tun label after)

theorem Known.movesOn {tun : AndroidTun} (known : tun.Known) :
    tun.MovesOn := by
  intro channel payload sends
  have inside := known.sending channel payload sends
  have stored := List.getElem?_eq_getElem inside
  refine ⟨_, stored, ?_⟩
  intro unblocked
  cases alive : tun.channels[channel].alive with
  | false => exact ⟨.reject channel payload, _, rfl, .reject sends stored alive⟩
  | true =>
      rcases unblocked with closed | room
      · rw [alive] at closed
        cases closed
      · exact ⟨.deliver channel payload, _, rfl,
          .deliver sends stored alive room⟩

/-- The receiver runs, and every valid response of a registered session from
its target is handed to the channel of its flow, or is about to be. -/
structure Serves (trace : List Label) (tun : AndroidTun) : Prop where
  running : tun.receiver ≠ .ended
  looked : trace.filterMap Label.response =
    trace.filterMap Label.lookedUp ++ tun.lookingUp
  handedOver : trace.filterMap Label.owed =
    trace.filterMap Label.handed ++ tun.pending
  accepted : ∀ number held, tun.channels[number]? = some held →
    held.accepted = trace.filterMap (Label.delivered number)
  movesOn : tun.MovesOn

/-- While the runtime stays online and nobody shuts the task down, it serves
the flows exactly as long as every datagram is an envelope from the server. -/
theorem receiver_serves_iff (trace : List Label) (tun : AndroidTun)
    (run : Run Step fresh trace tun)
    (steady : ∀ label ∈ trace, label.Steady) :
    Serves trace tun ↔ ∀ label ∈ trace, label.FromServer := by
  have running := running_iff run steady
  have accounts := accounts_of_run run
  constructor
  · intro serves
    exact running.mp serves.running
  · intro fromServer
    exact
      { running := running.mpr fromServer
        looked := accounts.looked
        handedOver := accounts.handedOver
        accepted := accounts.accepted
        movesOn := accounts.known.movesOn }

theorem sampleSession_ne_zero : (1 : UInt64) ≠ 0 := UInt64.zero_ne_one.symm

def sampleSession : DatagramSessionId := ⟨1, sampleSession_ne_zero⟩

def sampleTarget : SocketAddr :=
  .v4 (1 ::ᵥ 1 ::ᵥ 1 ::ᵥ 1 ::ᵥ .nil) 53

/-- The envelope of a response of one byte for the sample session. -/
def sampleEnvelope : List UInt8 :=
  [2, 0, 0, 0, 0, 0, 0, 0, 1, 4, 1, 1, 1, 1, 0, 53, 7]

def connected : RuntimeSnapshot where
  generation := 1
  phase := .online

/-- A flow is registered and a response arrives for it. -/
def sampleTrace (read : List UInt8) : List Label :=
  [.register sampleSession sampleTarget,
    .receive connected (some read) connected]

theorem steady_sampleTrace (read : List UInt8) :
    ∀ label ∈ sampleTrace read, label.Steady := by
  intro label member
  simp only [sampleTrace, List.mem_cons, List.not_mem_nil, or_false] at member
  rcases member with rfl | rfl
  · trivial
  · exact ⟨rfl, rfl, rfl⟩

theorem run_sampleTrace (read : List UInt8) :
    Run Step fresh (sampleTrace read)
      ⟨OrderedMap.empty.insert sampleSession ⟨sampleTarget, 0⟩,
        [⟨[], 0, true⟩],
        received (receiveDatagram connected (some read) connected)⟩ :=
  .snoc (.snoc .nil .register) (.receive rfl)

theorem receiver_serves_response :
    ∃ tun, Run Step fresh (sampleTrace sampleEnvelope) tun ∧
      Serves (sampleTrace sampleEnvelope) tun := by
  refine ⟨_, run_sampleTrace sampleEnvelope, ?_⟩
  refine (receiver_serves_iff _ _ (run_sampleTrace sampleEnvelope)
    (steady_sampleTrace sampleEnvelope)).mpr ?_
  intro label member
  simp only [sampleTrace, List.mem_cons, List.not_mem_nil, or_false] at member
  rcases member with rfl | rfl
  · trivial
  · exact ⟨sampleEnvelope, sampleSession, sampleTarget, [7], rfl, rfl⟩

/-- A datagram of one unknown byte ends the receiver, and no response of the
registered flow is read any more. -/
theorem receiver_ends_at_malformed :
    ∃ tun, Run Step fresh (sampleTrace [255]) tun ∧
      tun.receiver = .ended ∧
      (∀ after, ¬Step tun (.receive connected (some sampleEnvelope) connected)
        after) ∧
      ¬∀ (trace : List Label) (tun : AndroidTun), Run Step fresh trace tun →
        (∀ label ∈ trace, label.Steady) → Serves trace tun := by
  refine ⟨_, run_sampleTrace [255], rfl, ?_, ?_⟩
  · intro after move
    cases move with
    | receive waiting => cases waiting
  · intro serves
    exact (serves _ _ (run_sampleTrace [255])
      (steady_sampleTrace [255])).running rfl

end AndroidTun

end Velum.Tun
