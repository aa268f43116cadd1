import Velum.Node.DatagramRelay

/-!
# What an association was made for

A relay records for which identifier and destination it made each socket.
The map, the tasks, and the calls that are about to send agree with that
record, and a call keeps the request that it was made with.
-/

namespace Velum.Node.DatagramRelay

open Foundation Protocol Server

/-- The relay uses every socket for what was recorded when it was made. -/
structure Recorded (record : Nat → DatagramSessionId → SocketAddr → Prop)
    (relay : DatagramRelay) : Prop where
  mapped : ∀ id association,
    relay.associations.get? id = some association →
    record association.address id association.destination ∧
      relay.peer association.address = some association.destination
  receiving : ∀ address receiver,
    relay.receivers address = some receiver →
    record address receiver.sessionId receiver.source
  sending : ∀ call request association,
    relay.calls call = some ⟨request, .send association⟩ →
    record association.address request.sessionId request.destination ∧
      relay.peer association.address = some request.destination
  below : ∀ address id destination, record address id destination →
    address < relay.nextAddress
  single : ∀ address one other here there, record address one here →
    record address other there → one = other ∧ here = there

variable {record recordNext : Nat → DatagramSessionId → SocketAddr → Prop}
  {relay next : DatagramRelay} {event : Event}

theorem recorded_new (config : DatagramRelayConfig)
    (nothing : ∀ address id destination, ¬record address id destination) :
    Recorded record { config } where
  mapped := nofun
  receiving := nofun
  sending := nofun
  below address id destination known :=
    absurd known (nothing address id destination)
  single address one _ here _ known :=
    absurd known (nothing address one here)

/-- No socket is made, and the relay uses no more than before. -/
theorem Recorded.mono (recorded : Recorded record relay)
    (same : ∀ address id destination,
      recordNext address id destination ↔ record address id destination)
    (associations : ∀ id association,
      next.associations.get? id = some association →
      relay.associations.get? id = some association)
    (peer : next.peer = relay.peer)
    (receivers : ∀ address receiver,
      next.receivers address = some receiver →
      relay.receivers address = some receiver)
    (sending : ∀ call request association,
      next.calls call = some ⟨request, .send association⟩ →
      relay.calls call = some ⟨request, .send association⟩ ∨
        (relay.associations.get? request.sessionId = some association ∧
          association.destination = request.destination))
    (nextAddress : next.nextAddress = relay.nextAddress) :
    Recorded recordNext next where
  mapped := by
    intro id association found
    rw [same, peer]
    exact recorded.mapped id association (associations id association found)
  receiving := by
    intro address receiver running
    rw [same]
    exact recorded.receiving address receiver
      (receivers address receiver running)
  sending := by
    intro call request association stage
    rw [same, peer]
    rcases sending call request association stage with
      before | ⟨found, matching⟩
    · exact recorded.sending call request association before
    · rw [← matching]
      exact recorded.mapped request.sessionId association found
  below := by
    intro address id destination known
    rw [nextAddress]
    exact recorded.below address id destination
      ((same address id destination).mp known)
  single := by
    intro address one other here there first second
    exact recorded.single address one other here there
      ((same address one here).mp first) ((same address other there).mp second)

/-- A call that is about to send after one call has moved. -/
theorem sending_setCall {call : Nat} {stage : Option ForwardCall}
    {other : Nat} {request : Request} {association : Association}
    (found : (relay.setCall call stage).calls other =
      some ⟨request, .send association⟩) :
    relay.calls other = some ⟨request, .send association⟩ ∨
      stage = some ⟨request, .send association⟩ := by
  by_cases own : other = call
  · rw [own, calls_setCall_self] at found
    exact .inr found
  · rw [calls_setCall_of_ne _ _ own] at found
    exact .inl found

theorem receivers_of_stopReceiver {address other : Nat}
    {receiver : Receiver}
    (running : (relay.stopReceiver address).receivers other =
      some receiver) : relay.receivers other = some receiver := by
  change Function.update relay.receivers address none other = _ at running
  by_cases own : other = address
  · rw [own, Function.update_self] at running
    cases running
  · rw [Function.update_of_ne own] at running
    exact running

theorem association_found {id : DatagramSessionId}
    {destination : SocketAddr} {existing : Association}
    (found : relay.association id destination = .ok (some existing)) :
    relay.associations.get? id = some existing ∧
      existing.destination = destination := by
  unfold association at found
  split at found
  · rename_i stored present
    split at found
    · rename_i matching
      cases found
      exact ⟨present, matching⟩
    · cases found
  · split at found
    · cases found
    · cases found

theorem recorded_associate {call : Nat} {request : Request}
    (recorded : Recorded record relay)
    (same : ∀ address id destination,
      recordNext address id destination ↔
        record address id destination ∨
          address = relay.nextAddress ∧ id = request.sessionId ∧
            destination = request.destination) :
    Recorded recordNext
      ((relay.associate request.sessionId request.destination).setCall call
        (some ⟨request, .send ⟨request.destination, relay.nextAddress⟩⟩)) := by
  have made : recordNext relay.nextAddress request.sessionId
      request.destination :=
    (same _ _ _).mpr (.inr ⟨rfl, rfl, rfl⟩)
  have kept {address : Nat} {id : DatagramSessionId}
      {destination : SocketAddr}
      (known : record address id destination) :
      recordNext address id destination := (same _ _ _).mpr (.inl known)
  have old {address : Nat} {id : DatagramSessionId}
      {destination : SocketAddr}
      (known : record address id destination) :
      address ≠ relay.nextAddress :=
    Nat.ne_of_lt (recorded.below address id destination known)
  constructor
  case mapped =>
    intro id association found
    rcases OrderedMap.get?_insert_eq_some_iff.mp found with
      ⟨rfl, rfl⟩ | ⟨_, before⟩
    · exact ⟨made, Function.update_self _ _ _⟩
    · obtain ⟨known, connected⟩ := recorded.mapped id association before
      refine ⟨kept known, ?_⟩
      rw [← connected]
      exact Function.update_of_ne (old known) _ _
  case receiving =>
    intro address receiver running
    change Function.update relay.receivers relay.nextAddress _ address = _
      at running
    by_cases own : address = relay.nextAddress
    · rw [own, Function.update_self] at running
      cases running
      rw [own]
      exact made
    · rw [Function.update_of_ne own] at running
      exact kept (recorded.receiving address receiver running)
  case sending =>
    intro other made' association stage
    rcases sending_setCall stage with before | own
    · obtain ⟨known, connected⟩ :=
        recorded.sending other made' association before
      refine ⟨kept known, ?_⟩
      rw [← connected]
      exact Function.update_of_ne (old known) _ _
    · cases own
      exact ⟨made, Function.update_self _ _ _⟩
  case below =>
    intro address id destination known
    rcases (same _ _ _).mp known with before | ⟨rfl, _⟩
    · exact Nat.lt_succ_of_lt (recorded.below address id destination before)
    · exact Nat.lt_succ_self _
  case single =>
    intro address one other here there first second
    rcases (same _ _ _).mp first with before | ⟨rfl, rfl, rfl⟩
    · rcases (same _ _ _).mp second with also | ⟨rfl, _⟩
      · exact recorded.single address one other here there before also
      · exact absurd rfl (old before)
    · rcases (same _ _ _).mp second with also | ⟨_, rfl, rfl⟩
      · exact absurd rfl (old also)
      · exact ⟨rfl, rfl⟩

theorem recorded_step (recorded : Recorded record relay)
    (step : Step relay event next)
    (same : ∀ address id destination,
      recordNext address id destination ↔
        record address id destination ∨
          event = .associated address id destination) :
    Recorded recordNext next := by
  have unmade (other : ∀ address id destination,
      event ≠ .associated address id destination) (address : Nat)
      (id : DatagramSessionId) (destination : SocketAddr) :
      recordNext address id destination ↔ record address id destination := by
    rw [same]
    exact or_iff_left (other address id destination)
  cases step with
  | tick | received =>
      exact recorded.mono (unmade nofun) (fun _ _ => id) rfl (fun _ _ => id)
        (fun _ _ _ => .inl) rfl
  | rejected | shutdown =>
      exact recorded.mono (unmade nofun)
        (fun _ _ found => (get?_discard_iff.mp found).1) rfl
        (fun _ _ => id) (fun _ _ _ => .inl) rfl
  | accepted idle unlocked passed =>
      refine recorded.mono (unmade nofun)
        (fun _ _ found => (get?_discard_iff.mp found).1) rfl
        (fun _ _ => id) ?_ rfl
      intro call request association stage
      rcases sending_setCall stage with before | own
      · exact .inl before
      · cases own
  | lookupRefused | lookupAbsent | bindFailed | sent =>
      refine recorded.mono (unmade nofun) (fun _ _ => id) rfl
        (fun _ _ => id) ?_ rfl
      intro call request association stage
      rcases sending_setCall stage with before | own
      · exact .inl before
      · cases own
  | lookupFound stage unlocked found =>
      refine recorded.mono (unmade nofun) (fun _ _ => id) rfl
        (fun _ _ => id) ?_ rfl
      intro call request association stage
      rcases sending_setCall stage with before | own
      · exact .inl before
      · cases own
        exact .inr (association_found found)
  | bound stage =>
      apply recorded_associate recorded
      intro address id destination
      rw [same]
      simp [eq_comm]
  | encodeFailed | sinkFailed | receiveFailed | cancelled =>
      exact recorded.mono (unmade nofun) (fun _ _ => id) rfl
        (fun _ _ => receivers_of_stopReceiver) (fun _ _ _ => .inl) rfl

/-! ## The request of a call -/

/-- The steps that begin or end the call. -/
def Event.Bounds (call : Nat) : Event → Prop
  | .accepted other _ _ => other = call
  | .refused other _ => other = call
  | .sent other _ _ _ _ => other = call
  | _ => False

theorem call_of_accepted {call : Nat} {destinations : DestinationPolicy}
    {encoded : List UInt8}
    (step : Step relay (.accepted call destinations encoded) next) :
    ∃ request, (next.calls call).map ForwardCall.request = some request ∧
      Request.accept encoded destinations = .ok request := by
  cases step with
  | @accepted _ _ _ request idle unlocked passed =>
      refine ⟨request, ?_, passed⟩
      rw [calls_setCall_self]
      rfl

/-- A call keeps its request while it is under way. -/
theorem request_step {call : Nat} (step : Step relay event next)
    (between : ¬event.Bounds call) :
    (next.calls call).map ForwardCall.request =
      (relay.calls call).map ForwardCall.request := by
  have moved {other : Nat} {stage : Option ForwardCall}
      {after : DatagramRelay} (calls : after.calls = relay.calls)
      (kept : other = call → stage.map ForwardCall.request =
        (relay.calls call).map ForwardCall.request) :
      ((after.setCall other stage).calls call).map ForwardCall.request =
        (relay.calls call).map ForwardCall.request := by
    by_cases own : call = other
    · rw [← own, calls_setCall_self]
      exact kept own.symm
    · rw [calls_setCall_of_ne _ _ own, calls]
  cases step with
  | tick | rejected | received | encodeFailed | sinkFailed | receiveFailed
  | cancelled | shutdown => rfl
  | accepted | lookupRefused | bindFailed | sent =>
      apply moved rfl
      intro own
      exact absurd own between
  | lookupFound stage | lookupAbsent stage | bound stage =>
      apply moved rfl
      intro own
      rw [← own, stage]
      rfl

end Velum.Node.DatagramRelay
