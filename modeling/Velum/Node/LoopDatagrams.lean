import Velum.Node.Egress

/-!
# Whose datagrams a connection forwards

The loop of a connection works on one datagram at a time, and the calls of its
relay were made with requests of datagrams that the loop has read.
-/

namespace Velum.Node

open Foundation Protocol Server

/-- The datagram that the loop works on. -/
def LoopPhase.datagram : LoopPhase → Option (List UInt8)
  | .admitting datagram _ | .inAdmit datagram _ | .forwarding datagram
  | .inForward datagram => some datagram
  | _ => none

namespace DatagramRelay

/-- Every call has a request that was asked for. -/
def Asked (asked : Request → Prop) (relay : DatagramRelay) : Prop :=
  ∀ call stage, relay.calls call = some stage → asked stage.request

variable {asked : Request → Prop} {relay next : DatagramRelay}
  {event : Event}

theorem Asked.mono {more : Request → Prop} (held : relay.Asked asked)
    (implied : ∀ request, asked request → more request) :
    relay.Asked more :=
  fun call stage found => implied _ (held call stage found)

theorem asked_setCall (held : relay.Asked asked) {call : Nat}
    {stage : Option ForwardCall}
    (moved : ∀ position, stage = some position → asked position.request) :
    (relay.setCall call stage).Asked asked := by
  intro other position found
  by_cases own : other = call
  · rw [own, calls_setCall_self] at found
    exact moved position found
  · rw [calls_setCall_of_ne _ _ own] at found
    exact held other position found

theorem asked_step (held : relay.Asked asked) (step : Step relay event next)
    (accepts : ∀ call destinations encoded request,
      event = .accepted call destinations encoded →
      Request.accept encoded destinations = .ok request → asked request) :
    next.Asked asked := by
  cases step with
  | tick | rejected | received | encodeFailed | sinkFailed | receiveFailed
  | cancelled | shutdown => exact held
  | accepted idle unlocked passed =>
      refine asked_setCall held ?_
      intro position same
      cases same
      exact accepts _ _ _ _ rfl passed
  | lookupRefused | bindFailed | sent =>
      exact asked_setCall held nofun
  | lookupFound stage | lookupAbsent stage | bound stage =>
      refine asked_setCall held ?_
      intro position same
      have before := held _ _ stage
      obtain rfl := Option.some.inj same
      exact before

/-- An association is made for a call's request. -/
theorem request_of_associated {address : Nat}
    {sessionId : DatagramSessionId} {destination : SocketAddr}
    (held : relay.Asked asked)
    (step : Step relay (.associated address sessionId destination) next) :
    ∃ request, asked request ∧ request.sessionId = sessionId ∧
      request.destination = destination := by
  cases step with
  | @bound call request stage => exact ⟨request, held _ _ stage, rfl, rfl⟩

end DatagramRelay

namespace Listener

variable {parse : List UInt8 → Option SocketAddr}
  {admission : RelayAdmission} {config : QuicRelayConfig}
  {node next : Listener} {egress : Egress} {id : Nat}

/-- A loop works on a datagram that it has just read or had before. -/
theorem datagram_step (step : Step parse admission config node egress next)
    {connection : Connection} {datagram : List UInt8}
    (found : next.connections id = some connection)
    (holds : connection.phase.datagram = some datagram) :
    (∃ credential, connection.phase = .admitting datagram credential) ∨
      ∃ before, node.connections id = some before ∧
        before.phase.datagram = some datagram := by
  have moves {after : Listener} {other : Nat} {before moved : Connection}
      (found : (after.setConnection other moved).connections id =
        some connection)
      (connections : after.connections = node.connections)
      (present : node.connections other = some before)
      (same : moved.phase.datagram = some datagram →
        (∃ credential, moved.phase = .admitting datagram credential) ∨
          before.phase.datagram = some datagram) :
      (∃ credential, connection.phase = .admitting datagram credential) ∨
        ∃ before, node.connections id = some before ∧
          before.phase.datagram = some datagram := by
    rcases setConnection_cases found with ⟨rfl, rfl⟩ | ⟨_, earlier⟩
    · rcases same holds with read | had
      · exact .inl read
      · exact .inr ⟨before, present, had⟩
    · rw [connections] at earlier
      exact .inr ⟨connection, earlier, holds⟩
  cases step with
  | operated | relayed | datagramRejected =>
      exact .inr ⟨connection, found, holds⟩
  | accept =>
      rcases setConnection_cases found with ⟨_, rfl⟩ | ⟨_, earlier⟩
      · cases holds
      · exact .inr ⟨connection, earlier, holds⟩
  | streamAccepted present | controlTimedOut present
  | streamRefused present | streamAuthorised present
  | reserveBegan present | reserved present | reserveFailed present
  | connected present | relayEnded present | releaseBegan present
  | released present | relayMoved present =>
      exact moves found rfl present .inr
  | aborted present | admitUnauthenticated present | admitFailed present
  | admitPanicked present | forwardRejected present
  | forwardRefused present | forwarded present | loopEnded present
  | relayShutDown present | flowsJoined present | closeBegan present
  | closed present => exact moves found rfl present nofun
  | datagramDecoded present =>
      refine moves found rfl present ?_
      intro same
      cases same
      exact .inl ⟨_, rfl⟩
  | admitBegan present stage | admitted present stage
  | forwardAccepted present stage =>
      refine moves found rfl present ?_
      intro same
      rw [stage]
      exact .inr same

/-- A relay takes only requests of the datagram of its loop. -/
theorem asked_step {asked : Request → Prop}
    (step : Step parse admission config node egress next)
    (held : ∀ connection, node.connections id = some connection →
      connection.relay.Asked asked)
    (accepts : ∀ connection datagram request,
      node.connections id = some connection →
      connection.phase.datagram = some datagram →
      Request.accept datagram admission.destinations = .ok request →
      asked request)
    (connection : Connection)
    (found : next.connections id = some connection) :
    connection.relay.Asked asked := by
  have moves {after : Listener} {other : Nat} {before moved : Connection}
      (found : (after.setConnection other moved).connections id =
        some connection)
      (connections : after.connections = node.connections)
      (present : node.connections other = some before)
      (same : id = other → before.relay.Asked asked →
        moved.relay.Asked asked) : connection.relay.Asked asked := by
    rcases setConnection_cases found with ⟨rfl, rfl⟩ | ⟨_, earlier⟩
    · exact same rfl (held before present)
    · rw [connections] at earlier
      exact held connection earlier
  cases step with
  | operated | relayed | datagramRejected => exact held connection found
  | accept =>
      rcases setConnection_cases found with ⟨_, rfl⟩ | ⟨_, earlier⟩
      · intro call stage none
        cases none
      · exact held connection earlier
  | aborted present | streamAccepted present | controlTimedOut present
  | streamRefused present | streamAuthorised present
  | reserveBegan present | reserved present | reserveFailed present
  | connected present | relayEnded present | releaseBegan present
  | released present | datagramDecoded present
  | admitUnauthenticated present | admitBegan present | admitted present
  | admitFailed present | admitPanicked present | loopEnded present
  | flowsJoined present | closeBegan present | closed present =>
      exact moves found rfl present fun _ before => before
  | forwardAccepted present stage move =>
      refine moves found rfl present ?_
      intro own before
      apply DatagramRelay.asked_step before move
      intro call destinations encoded request same passed
      cases same
      rw [← own] at present
      exact accepts _ _ request present (by rw [stage]; rfl) passed
  | forwardRejected present stage move | forwardRefused present stage move
  | forwarded present stage move | relayShutDown present stage move =>
      refine moves found rfl present ?_
      intro own before
      exact DatagramRelay.asked_step before move nofun
  | relayMoved present move seen =>
      refine moves found rfl present ?_
      intro own before
      apply DatagramRelay.asked_step before move
      intro call destinations encoded request same
      rw [same] at seen
      cases seen

theorem datagram_of_udpSend {datagram payload : List UInt8} {address : Nat}
    {destination : SocketAddr}
    (step : Step parse admission config node
      (.udpSend id datagram address destination payload) next) :
    ∃ connection, node.connections id = some connection ∧
      connection.phase.datagram = some datagram := by
  generalize label : Egress.udpSend id datagram address destination payload =
    egress at step
  cases step with
  | forwarded present stage =>
      cases label
      exact ⟨_, present, by rw [stage]; rfl⟩
  | relayMoved present move seen =>
      rcases relayEgress_cases seen with
        ⟨rfl, _⟩ | ⟨_, _, _, _, rfl⟩ | ⟨_, _, _, rfl⟩ <;> cases label
  | _ => cases label

theorem relay_of_associated {address : Nat} {sessionId : DatagramSessionId}
    {destination : SocketAddr}
    (step : Step parse admission config node
      (.associated id address sessionId destination) next) :
    ∃ connection relay, node.connections id = some connection ∧
      DatagramRelay.Step connection.relay
        (.associated address sessionId destination) relay := by
  generalize label : Egress.associated id address sessionId destination =
    egress at step
  cases step with
  | relayMoved present move seen =>
      obtain ⟨rfl, rfl⟩ := (associated_of_seen seen _ _ _ _).mp label.symm
      exact ⟨_, _, present, move⟩
  | _ => cases label

end Listener

end Velum.Node
