import Velum.Node.Associations
import Velum.Node.Conservation
import Velum.Node.Listener

/-!
# No unauthorised egress

A stream connects, and a datagram is sent, only to an allowed destination and
only while the connection is bound to the principal of its credential.  The
binding is firm from the admission on: an operation that takes a session away
runs only after the streams have finished and the loop has ended.
-/

namespace Velum.Node

open Foundation Protocol Server

/-- The loop has ended and the streams have been joined. -/
def LoopPhase.Closing : LoopPhase → Prop
  | .closing => True
  | .inClose => True
  | .finished => True
  | _ => False

/-- Nothing is sent for the connection any more. -/
def LoopPhase.Ended : LoopPhase → Prop
  | .closing => True
  | .inClose => True
  | .finished => True
  | .stopped => True
  | _ => False

/-- What a stream has been granted. -/
def StreamGuarded (admission : RelayAdmission) (admissions : Admissions)
    (id : Nat) : StreamPhase → Prop
  | .reserving request principal | .inReserve request principal =>
      admission.authenticator.authenticate request.secret = .ok principal ∧
        admission.destinations.allows request.target = true
  | .connecting request session | .relaying request session =>
      (admission.authenticator.authenticate request.secret =
          .ok session.principal ∧
        admission.destinations.allows request.target = true) ∧
        admissions.Firm id session
  | _ => True

/-- The credential of a datagram is one of the principal of the connection. -/
def Vouched (admission : RelayAdmission) (admissions : Admissions)
    (id : Nat) (datagram : List UInt8) : Prop :=
  ∃ credential sessionId destination payload session,
    Datagram.decode datagram =
      .ok (.clientToServer credential sessionId destination payload) ∧
    admission.authenticator.authenticate credential =
      .ok session.principal ∧ admissions.Firm id session

/-- What the loop of a connection has been granted. -/
def LoopGuarded (admission : RelayAdmission) (admissions : Admissions)
    (id : Nat) (relay : DatagramRelay) : LoopPhase → Prop
  | .admitting datagram credential | .inAdmit datagram credential =>
      ∃ sessionId destination payload, Datagram.decode datagram =
        .ok (.clientToServer credential sessionId destination payload)
  | .forwarding datagram => Vouched admission admissions id datagram
  | .inForward datagram => Vouched admission admissions id datagram ∧
      ∃ request, (relay.calls 0).map ForwardCall.request = some request ∧
        Request.accept datagram admission.destinations = .ok request
  | _ => True

structure ConnectionGuarded (admission : RelayAdmission)
    (admissions : Admissions) (id : Nat) (connection : Connection) :
    Prop where
  streams : connection.phase ≠ .stopped → ∀ stream phase,
    connection.streams stream = some phase →
    StreamGuarded admission admissions id phase
  loop : LoopGuarded admission admissions id connection.relay
    connection.phase
  joined : connection.phase.Closing → connection.Joined

section Connections

variable {admission : RelayAdmission} {admissions later : Admissions}
  {id : Nat} {connection : Connection}

theorem StreamGuarded.mono {phase : StreamPhase}
    (guarded : StreamGuarded admission admissions id phase)
    (firm : ∀ session, admissions.Firm id session → later.Firm id session) :
    StreamGuarded admission later id phase := by
  cases phase with
  | connecting request session | relaying request session =>
      exact ⟨guarded.1, firm session guarded.2⟩
  | _ => exact guarded

theorem Vouched.mono {datagram : List UInt8}
    (vouched : Vouched admission admissions id datagram)
    (firm : ∀ session, admissions.Firm id session → later.Firm id session) :
    Vouched admission later id datagram := by
  obtain ⟨credential, sessionId, destination, payload, session, decoded,
    authenticated, held⟩ := vouched
  exact ⟨credential, sessionId, destination, payload, session, decoded,
    authenticated, firm session held⟩

theorem LoopGuarded.mono {relay : DatagramRelay} {phase : LoopPhase}
    (guarded : LoopGuarded admission admissions id relay phase)
    (firm : ∀ session, admissions.Firm id session → later.Firm id session) :
    LoopGuarded admission later id relay phase := by
  cases phase with
  | forwarding datagram => exact Vouched.mono guarded firm
  | inForward datagram => exact ⟨guarded.1.mono firm, guarded.2⟩
  | _ => exact guarded

theorem LoopGuarded.relay {relay moved : DatagramRelay} {phase : LoopPhase}
    (guarded : LoopGuarded admission admissions id relay phase)
    (same : (moved.calls 0).map ForwardCall.request =
      (relay.calls 0).map ForwardCall.request) :
    LoopGuarded admission admissions id moved phase := by
  cases phase with
  | inForward datagram =>
      unfold LoopGuarded
      rw [same]
      exact guarded
  | _ => exact guarded

/-- What a connection was granted survives while its binding does; a
connection that is about to close has been granted nothing. -/
theorem ConnectionGuarded.mono
    (guarded : ConnectionGuarded admission admissions id connection)
    (firm : connection.phase ≠ .closing → ∀ session,
      admissions.Firm id session → later.Firm id session) :
    ConnectionGuarded admission later id connection := by
  by_cases closing : connection.phase = .closing
  · have joined : connection.Joined := by
      apply guarded.joined
      rw [closing]
      trivial
    refine ⟨?_, ?_, guarded.joined⟩
    · intro _ stream phase present
      rw [joined stream phase present]
      trivial
    · rw [closing]
      trivial
  · refine ⟨?_, guarded.loop.mono (firm closing), guarded.joined⟩
    intro alive stream phase present
    exact (guarded.streams alive stream phase present).mono (firm closing)

/-- A stream that has not finished keeps the connection from closing. -/
theorem ConnectionGuarded.not_closing {stream : Nat} {phase : StreamPhase}
    (guarded : ConnectionGuarded admission admissions id connection)
    (stage : connection.streams stream = some phase)
    (unfinished : phase ≠ .finished) : ¬connection.phase.Closing :=
  fun closing => unfinished (guarded.joined closing stream phase stage)

theorem guarded_setStream {stream : Nat} {phase : StreamPhase}
    (guarded : ConnectionGuarded admission admissions id connection)
    (open' : ¬connection.phase.Closing)
    (granted : StreamGuarded admission admissions id phase) :
    ConnectionGuarded admission admissions id
      (connection.setStream stream phase) := by
  refine ⟨?_, guarded.loop, fun closing => absurd closing open'⟩
  intro alive other otherPhase present
  change Function.update connection.streams stream (some phase) other = _
    at present
  by_cases own : other = stream
  · rw [own, Function.update_self] at present
    cases present
    exact granted
  · rw [Function.update_of_ne own] at present
    exact guarded.streams alive other otherPhase present

theorem guarded_setPhase {relay : DatagramRelay} {phase : LoopPhase}
    (guarded : ConnectionGuarded admission admissions id connection)
    (alive : connection.phase ≠ .stopped)
    (granted : LoopGuarded admission admissions id relay phase)
    (joined : phase.Closing → connection.Joined) :
    ConnectionGuarded admission admissions id
      ((connection.setRelay relay).setPhase phase) :=
  ⟨fun _ => guarded.streams alive, granted, joined⟩

theorem guarded_stopped
    (connection : Connection) :
    ConnectionGuarded admission admissions id
      (connection.setPhase .stopped) :=
  ⟨fun alive => absurd rfl alive, trivial, False.elim⟩

end Connections

theorem authoriseStream_ok {parse : List UInt8 → Option SocketAddr}
    {admission : RelayAdmission} {config : QuicRelayConfig}
    {input : List UInt8} {request : OpenRequest} {principal : PrincipalId}
    (authorised : authoriseStream parse admission config input =
      .ok (request, principal)) :
    admission.authenticator.authenticate request.secret = .ok principal ∧
      admission.destinations.allows request.target = true := by
  unfold authoriseStream at authorised
  split at authorised
  · cases authorised
  · split at authorised
    · cases authorised
    · split at authorised
      · cases authorised
      · rename_i authenticated
        split at authorised
        · rename_i allowed
          cases authorised
          exact ⟨authenticated, allowed⟩
        · cases authorised

namespace Listener

variable {parse : List UInt8 → Option SocketAddr}
  {admission : RelayAdmission} {config : QuicRelayConfig}
  {quota : PrincipalQuota} {node next : Listener} {egress : Egress}

/-- A step moves the admission by at most one step, and begins a `close` only
for a connection that has come to that. -/
theorem admissions_step
    (step : Step parse admission config node egress next) :
    next.admissions = node.admissions ∨
      ∃ event, Admissions.Step admission node.admissions event
          next.admissions ∧
        ∀ id, event = .began id .close → ∃ connection,
          node.connections id = some connection ∧
            connection.phase = .closing := by
  cases step with
  | @operated id connection event admissions present alive here inner move =>
      refine .inr ⟨event, move, ?_⟩
      intro other began
      rw [began] at inner
      cases inner
  | reserveBegan present alive stage move
  | reserved present alive stage move
  | reserveFailed present alive stage failed move
  | releaseBegan present alive stage move
  | released present alive stage move | admitBegan present stage move
  | admitted present stage move | admitFailed present stage move
  | admitPanicked present stage move | closed present stage move =>
      exact .inr ⟨_, move, nofun⟩
  | @closeBegan id connection admissions present closing move =>
      refine .inr ⟨_, move, ?_⟩
      intro other began
      cases began
      exact ⟨connection, present, closing⟩
  | _ => exact .inl rfl

theorem sound_step
    (sound : Admissions.Sound admission quota node.admissions)
    (step : Step parse admission config node egress next) :
    Admissions.Sound admission quota next.admissions := by
  rcases admissions_step step with same | ⟨event, move, _⟩
  · rw [same]
    exact sound
  · exact Admissions.sound_step sound move

/-- A binding lasts until its connection has come to `close`. -/
theorem firm_step {id : Nat} {session : AdmittedSession}
    (firm : node.admissions.Firm id session)
    (step : Step parse admission config node egress next)
    (left : ∀ connection, node.connections id = some connection →
      connection.phase ≠ .closing) :
    next.admissions.Firm id session := by
  rcases admissions_step step with same | ⟨event, move, closes⟩
  · rw [same]
    exact firm
  · apply Admissions.firm_step firm move
    intro began
    obtain ⟨connection, present, closing⟩ := closes id began
    exact left connection present closing

/-- Every connection acts within what it has been granted. -/
def Guarded (admission : RelayAdmission) (node : Listener) : Prop :=
  ∀ id connection, node.connections id = some connection →
    ConnectionGuarded admission node.admissions id connection

theorem guarded_setConnection {id : Nat} {connection : Connection}
    (guarded : ∀ other present, node.connections other = some present →
      ConnectionGuarded admission node.admissions other present)
    (granted : ConnectionGuarded admission node.admissions id connection) :
    Guarded admission (node.setConnection id connection) := by
  intro other found present
  rcases setConnection_cases present with ⟨rfl, rfl⟩ | ⟨_, before⟩
  · exact granted
  · exact guarded other found before

/-- The task of a stream moves on. -/
theorem guarded_stream {id stream : Nat} {connection : Connection}
    {before after : StreamPhase} (guarded : Guarded admission node)
    (present : node.connections id = some connection)
    (stage : connection.streams stream = some before)
    (unfinished : before ≠ .finished)
    (granted : StreamGuarded admission node.admissions id after) :
    Guarded admission
      (node.setConnection id (connection.setStream stream after)) := by
  have own := guarded id connection present
  apply guarded_setConnection guarded
  exact guarded_setStream own (own.not_closing stage unfinished) granted

/-- The loop of a connection moves on. -/
theorem guarded_loop {id : Nat} {connection : Connection}
    {relay : DatagramRelay} {before after : LoopPhase}
    (guarded : Guarded admission node)
    (present : node.connections id = some connection)
    (stage : connection.phase = before) (alive : before ≠ .stopped)
    (granted : LoopGuarded admission node.admissions id relay after)
    (joined : after.Closing → connection.Joined) :
    Guarded admission (node.setConnection id
      ((connection.setRelay relay).setPhase after)) := by
  apply guarded_setConnection guarded
  exact guarded_setPhase (guarded id connection present)
    (stage.symm ▸ alive) granted joined

/-- A relay that moves by itself shows a new association, a response or
nothing. -/
theorem relayEgress_cases {id : Nat} {event : DatagramRelay.Event}
    (seen : relayEgress id event = some egress) :
    (egress = .quiet ∧ ∀ address sessionId destination,
      event ≠ .associated address sessionId destination) ∨
    (∃ address sessionId destination,
      event = .associated address sessionId destination ∧
      egress = .associated id address sessionId destination) ∨
    ∃ address response, event = .forwarded address response ∧
      egress = .response id address response := by
  cases event with
  | quiet | oversized | sinkRefused | socketFailed =>
      cases seen
      exact .inl ⟨rfl, nofun⟩
  | associated address sessionId destination =>
      cases seen
      exact .inr (.inl ⟨address, sessionId, destination, rfl, rfl⟩)
  | forwarded address response =>
      cases seen
      exact .inr (.inr ⟨address, response, rfl, rfl⟩)
  | _ => cases seen

/-- A relay begins and ends no call by itself. -/
theorem not_bounds_of_seen {id : Nat} {event : DatagramRelay.Event}
    (seen : relayEgress id event = some egress) : ¬event.Bounds 0 := by
  cases event with
  | accepted call destinations encoded | refused call error
  | sent call address destination payload accepted => cases seen
  | _ => exact False.elim

theorem guarded_step
    (sound : Admissions.Sound admission quota node.admissions)
    (guarded : Guarded admission node)
    (step : Step parse admission config node egress next) :
    Guarded admission next := by
  have kept : Guarded admission { next with
      connections := node.connections } := by
    intro id connection present
    apply (guarded id connection present).mono
    intro open' session firm
    apply firm_step firm step
    intro found same
    rw [show node.connections id = some connection from present] at same
    cases same
    exact open'
  cases step with
  | accept free =>
      apply guarded_setConnection kept
      exact ⟨nofun, trivial, False.elim⟩
  | aborted present =>
      exact guarded_setConnection kept (guarded_stopped _)
  | operated present alive here inner move => exact kept
  | @streamAccepted id stream connection present listening free =>
      apply guarded_setConnection kept
      have open' : ¬connection.phase.Closing := by
        rw [listening]
        exact False.elim
      exact guarded_setStream (kept _ _ present) open' trivial
  | controlTimedOut present alive stage
  | streamRefused present alive stage refused
  | reserveFailed present alive stage failed move
  | relayEnded present alive stage
  | releaseBegan present alive stage move
  | released present alive stage move =>
      exact guarded_stream kept present stage nofun trivial
  | streamAuthorised present alive stage authorised =>
      have granted := authoriseStream_ok authorised
      exact guarded_stream kept present stage nofun granted
  | reserveBegan present alive stage move | connected present alive stage =>
      have granted := (kept _ _ present).streams alive _ _ stage
      exact guarded_stream kept present stage nofun granted
  | reserved present alive stage move =>
      have granted := (kept _ _ present).streams alive _ _ stage
      have firm := Admissions.firm_of_reserved sound move
      exact guarded_stream kept present stage nofun ⟨granted, firm⟩
  | relayed present alive stage => exact guarded
  | datagramRejected present listening foreign => exact guarded
  | datagramDecoded present listening decoded =>
      exact guarded_loop kept present listening nofun ⟨_, _, _, decoded⟩
        False.elim
  | admitUnauthenticated present stage rejected
  | admitFailed present stage move | forwardRejected present stage move
  | forwardRefused present stage move | forwarded present stage move
  | loopEnded present stage | relayShutDown present stage move =>
      exact guarded_loop kept present stage nofun trivial False.elim
  | admitPanicked present stage move =>
      exact guarded_setConnection kept (guarded_stopped _)
  | admitBegan present stage move =>
      have granted := (kept _ _ present).loop
      rw [stage] at granted
      exact guarded_loop kept present stage nofun granted False.elim
  | admitted present stage move =>
      have granted := (kept _ _ present).loop
      rw [stage] at granted
      obtain ⟨sessionId, destination, payload, decoded⟩ := granted
      obtain ⟨session, firm, authenticated⟩ :=
        Admissions.firm_of_admitted sound move
      have vouched : Vouched admission _ _ _ := ⟨_, sessionId, destination,
        payload, session, decoded, authenticated, firm⟩
      exact guarded_loop kept present stage nofun vouched False.elim
  | forwardAccepted present stage move =>
      have vouched := (kept _ _ present).loop
      rw [stage] at vouched
      obtain ⟨request, call, passed⟩ := DatagramRelay.call_of_accepted move
      exact guarded_loop kept present stage nofun
        ⟨vouched, request, call, passed⟩ False.elim
  | relayMoved present move seen =>
      apply guarded_setConnection kept
      have own := kept _ _ present
      have request := DatagramRelay.request_step move (not_bounds_of_seen seen)
      exact ⟨own.streams, own.loop.relay request, own.joined⟩
  | flowsJoined present joining joined =>
      exact guarded_loop kept present joining nofun trivial fun _ => joined
  | closeBegan present stage move | closed present stage move =>
      have joined := (kept _ _ present).joined
      rw [stage] at joined
      exact guarded_loop kept present stage nofun trivial
        fun _ => joined trivial

/-! ## Associations -/

/-- What the history records of the associations of a connection. -/
def Made (trace : List Egress) (id address : Nat)
    (sessionId : DatagramSessionId) (destination : SocketAddr) : Prop :=
  .associated id address sessionId destination ∈ trace

/-- The relay of a connection is as before, or it has moved by one step; the
label shows when an association is made. -/
def RelayMoved (id : Nat) (egress : Egress) (relay moved : DatagramRelay) :
    Prop :=
  (moved = relay ∧ ∀ address sessionId destination,
    egress ≠ .associated id address sessionId destination) ∨
  ∃ event, DatagramRelay.Step relay event moved ∧
    ∀ address sessionId destination,
      egress = .associated id address sessionId destination ↔
        event = .associated address sessionId destination

/-- A connection of the next state is a new one, or it was there before. -/
def ConnectionMoved (node : Listener) (egress : Egress) (id : Nat)
    (connection : Connection) : Prop :=
  (node.connections id = none ∧ connection = {} ∧ egress = .quiet) ∨
  ∃ before, node.connections id = some before ∧
    (before.phase.Ended → connection.phase.Ended) ∧
    RelayMoved id egress before.relay connection.relay

theorem moved_setConnection {after : Listener} {id other : Nat}
    {before moved connection : Connection}
    (found : (after.setConnection id moved).connections other =
      some connection)
    (connections : after.connections = node.connections)
    (present : node.connections id = some before)
    (ended : before.phase.Ended → moved.phase.Ended)
    (relay : RelayMoved id egress before.relay moved.relay)
    (local' : ∀ elsewhere address sessionId destination,
      egress = .associated elsewhere address sessionId destination →
      elsewhere = id) : ConnectionMoved node egress other connection := by
  rcases setConnection_cases found with ⟨rfl, rfl⟩ | ⟨elsewhere, earlier⟩
  · exact .inr ⟨before, present, ended, relay⟩
  · rw [connections] at earlier
    refine .inr ⟨connection, earlier, fun ended => ended, .inl ⟨rfl, ?_⟩⟩
    intro address sessionId destination made
    exact elsewhere (local' other address sessionId destination made)

theorem associated_of_seen {id : Nat} {event : DatagramRelay.Event}
    (seen : relayEgress id event = some egress) (other address : Nat)
    (sessionId : DatagramSessionId) (destination : SocketAddr) :
    egress = .associated other address sessionId destination ↔
      other = id ∧ event = .associated address sessionId destination := by
  rcases relayEgress_cases seen with
    ⟨rfl, unmade⟩ | ⟨_, _, _, rfl, rfl⟩ | ⟨_, _, rfl, rfl⟩
  · simp [unmade]
  · simp [eq_comm]
  · simp

theorem connection_step
    (step : Step parse admission config node egress next) {id : Nat}
    {connection : Connection}
    (found : next.connections id = some connection) :
    ConnectionMoved node egress id connection := by
  have unchanged (present : node.connections id = some connection)
      (unmade : ∀ address sessionId destination,
        egress ≠ .associated id address sessionId destination) :
      ConnectionMoved node egress id connection :=
    .inr ⟨connection, present, fun ended => ended, .inl ⟨rfl, unmade⟩⟩
  cases step with
  | @accept other free =>
      rcases setConnection_cases found with ⟨rfl, rfl⟩ | ⟨_, earlier⟩
      · exact .inl ⟨free, rfl, rfl⟩
      · exact unchanged earlier nofun
  | operated | relayed | datagramRejected => exact unchanged found nofun
  | aborted present | admitPanicked present =>
      exact moved_setConnection found rfl present (fun _ => trivial)
        (.inl ⟨rfl, nofun⟩) nofun
  | streamAccepted present | controlTimedOut present
  | streamRefused present | streamAuthorised present
  | reserveBegan present | reserved present | reserveFailed present
  | connected present | relayEnded present | releaseBegan present
  | released present =>
      exact moved_setConnection found rfl present (fun ended => ended)
        (.inl ⟨rfl, nofun⟩) nofun
  | datagramDecoded present stage | admitUnauthenticated present stage
  | admitBegan present stage | admitted present stage
  | admitFailed present stage | loopEnded present stage =>
      exact moved_setConnection found rfl present
        (fun ended => by rw [stage] at ended; cases ended)
        (.inl ⟨rfl, nofun⟩) nofun
  | flowsJoined present | closeBegan present | closed present =>
      exact moved_setConnection found rfl present (fun _ => trivial)
        (.inl ⟨rfl, nofun⟩) nofun
  | forwardRejected present stage move
  | forwardAccepted present stage move | forwardRefused present stage move
  | forwarded present stage move | relayShutDown present stage move =>
      refine moved_setConnection found rfl present
        (fun ended => by rw [stage] at ended; cases ended)
        (.inr ⟨_, move, ?_⟩) nofun
      intro address sessionId destination
      exact ⟨nofun, nofun⟩
  | relayMoved present move seen =>
      refine moved_setConnection found rfl present (fun ended => ended)
        (.inr ⟨_, move, ?_⟩) ?_
      · intro address sessionId destination
        rw [associated_of_seen seen]
        exact and_iff_right rfl
      · intro elsewhere address sessionId destination made
        exact ((associated_of_seen seen _ _ _ _).mp made).1

theorem present_setConnection {after : Listener} {id other : Nat}
    {before moved : Connection}
    (connections : after.connections = node.connections)
    (present : node.connections other = some before) :
    ∃ connection, (after.setConnection id moved).connections other =
      some connection := by
  by_cases own : other = id
  · rw [own]
    exact ⟨moved, Function.update_self _ _ _⟩
  · refine ⟨before, ?_⟩
    change Function.update after.connections id _ other = _
    rw [Function.update_of_ne own, connections]
    exact present

/-- A connection stays in the node. -/
theorem present_step (step : Step parse admission config node egress next)
    {id : Nat} {before : Connection}
    (present : node.connections id = some before) :
    ∃ connection, next.connections id = some connection ∧
      (before.phase.Ended → connection.phase.Ended) := by
  have remains : ∃ connection, next.connections id = some connection := by
    cases step with
    | operated | relayed | datagramRejected => exact ⟨before, present⟩
    | _ => exact present_setConnection rfl present
  obtain ⟨connection, found⟩ := remains
  refine ⟨connection, found, ?_⟩
  rcases connection_step step found with ⟨absent, _⟩ | ⟨same, held, ended, _⟩
  · rw [present] at absent
    cases absent
  · rw [present] at held
    cases held
    exact ended

/-! ## Traffic -/

/-- The label is traffic of the connection under a credential of the
principal. -/
def Carries (admission : RelayAdmission) (id : Nat)
    (principal : PrincipalId) : Egress → Prop
  | .tcpConnect connection _ request | .tcpRelay connection _ request =>
      connection = id ∧
        admission.authenticator.authenticate request.secret = .ok principal
  | .udpSend connection datagram _ _ _ => connection = id ∧
      ∃ credential sessionId destination payload,
        Datagram.decode datagram =
          .ok (.clientToServer credential sessionId destination payload) ∧
        admission.authenticator.authenticate credential = .ok principal
  | _ => False

/-- The destination is allowed, and the credential is one of the principal to
which the connection is bound. -/
def Authorised (admission : RelayAdmission) (node : Listener) :
    Egress → Prop
  | .tcpConnect id _ request | .tcpRelay id _ request =>
      admission.destinations.allows request.target = true ∧
      ∃ session, node.admissions.session id = some session ∧
        admission.authenticator.authenticate request.secret =
          .ok session.principal
  | .udpSend id datagram _ destination payload =>
      admission.destinations.allows destination = true ∧
      ∃ credential sessionId session,
        Datagram.decode datagram =
          .ok (.clientToServer credential sessionId destination payload) ∧
        node.admissions.session id = some session ∧
        admission.authenticator.authenticate credential =
          .ok session.principal
  | _ => True

theorem not_ended {phase : LoopPhase} (alive : phase ≠ .stopped)
    (open' : ¬phase.Closing) : ¬phase.Ended := by
  cases phase with
  | closing | inClose | finished => exact open'
  | stopped => exact absurd rfl alive
  | _ => exact False.elim

theorem accept_ok {datagram : List UInt8} {destinations : DestinationPolicy}
    {request : Request}
    (passed : Request.accept datagram destinations = .ok request) :
    destinations.allows request.destination = true ∧
      ∃ credential, Datagram.decode datagram = .ok (.clientToServer credential
        request.sessionId request.destination request.payload) := by
  unfold Request.accept at passed
  split at passed
  · rename_i credential sessionId destination payload decoded
    split at passed
    · rename_i allowed
      cases passed
      exact ⟨allowed, credential, decoded⟩
    · cases passed
  · cases passed
  · cases passed

/-- What is known of a datagram when it is sent. -/
theorem sent_datagram {id address : Nat} {connection : Connection}
    {record : Nat → DatagramSessionId → SocketAddr → Prop}
    {datagram payload : List UInt8} {destination : SocketAddr}
    {accepted : Bool} {relay : DatagramRelay}
    (guarded : Guarded admission node)
    (recorded : connection.relay.Recorded record)
    (present : node.connections id = some connection)
    (stage : connection.phase = .inForward datagram)
    (move : DatagramRelay.Step connection.relay
      (.sent 0 address destination payload accepted) relay) :
    admission.destinations.allows destination = true ∧
      ∃ credential sessionId session,
        Datagram.decode datagram =
          .ok (.clientToServer credential sessionId destination payload) ∧
        admission.authenticator.authenticate credential =
          .ok session.principal ∧
        node.admissions.Firm id session ∧
        record address sessionId destination := by
  have granted := (guarded id connection present).loop
  rw [stage] at granted
  obtain ⟨⟨credential, sessionId, target, bytes, session, decoded,
    authenticated, firm⟩, request, call, passed⟩ := granted
  obtain ⟨allowed, other, again⟩ := accept_ok passed
  rw [decoded] at again
  cases again
  cases move with
  | @sent _ _ association _ _ stage' connected =>
      rw [stage'] at call
      cases call
      obtain ⟨known, peer⟩ := recorded.sending 0 _ association stage'
      rw [peer] at connected
      cases connected
      exact ⟨allowed, credential, _, session, decoded, authenticated, firm,
        known⟩

/-- What is known of every state that a run reaches. -/
structure History (admission : RelayAdmission) (trace : List Egress)
    (node : Listener) : Prop where
  recorded : ∀ id connection, node.connections id = some connection →
    connection.relay.Recorded (Made trace id)
  served : ∀ id address sessionId destination,
    Made trace id address sessionId destination →
    ∃ connection, node.connections id = some connection
  carried : ∀ egress ∈ trace, ∀ id principal,
    Carries admission id principal egress →
    ∃ connection, node.connections id = some connection ∧
      (connection.phase.Ended ∨
        ∃ lease, node.admissions.Firm id ⟨principal, lease⟩)
  single : ∀ id one other, ∀ first ∈ trace, ∀ second ∈ trace,
    Carries admission id one first → Carries admission id other second →
    one = other
  sends : ∀ id datagram address destination payload,
    .udpSend id datagram address destination payload ∈ trace →
    ∃ credential sessionId, Datagram.decode datagram =
        .ok (.clientToServer credential sessionId destination payload) ∧
      Made trace id address sessionId destination
  responses : ∀ id address response,
    .response id address response ∈ trace →
    ∃ sessionId source payload,
      response = .serverToClient sessionId source payload ∧
      Made trace id address sessionId source

theorem history_initial (quota : PrincipalQuota) :
    History admission [] { admissions := { quotas := .new quota } } where
  recorded := by
    intro id connection present
    cases present
  served := by
    intro id address sessionId destination made
    cases made
  carried := by
    intro label member
    cases member
  single := by
    intro id one other first member
    cases member
  sends := by
    intro id datagram address destination payload member
    cases member
  responses := by
    intro id address response member
    cases member

variable {trace : List Egress}

theorem made_snoc {id address : Nat} {sessionId : DatagramSessionId}
    {destination : SocketAddr} :
    Made (trace ++ [egress]) id address sessionId destination ↔
      Made trace id address sessionId destination ∨
        egress = .associated id address sessionId destination := by
  unfold Made
  rw [List.mem_append, List.mem_singleton, eq_comm]

theorem recorded_snoc (history : History admission trace node)
    (step : Step parse admission config node egress next) (id : Nat)
    (connection : Connection)
    (present : next.connections id = some connection) :
    connection.relay.Recorded (Made (trace ++ [egress]) id) := by
  rcases connection_step step present with
    ⟨absent, rfl, rfl⟩ | ⟨before, found, _, relay⟩
  · apply DatagramRelay.recorded_new
    intro address sessionId destination made
    rcases made_snoc.mp made with earlier | impossible
    · obtain ⟨connection, found⟩ := history.served _ _ _ _ earlier
      rw [absent] at found
      cases found
    · cases impossible
  · have recorded := history.recorded id before found
    rcases relay with ⟨same, unmade⟩ | ⟨event, move, shows⟩
    · rw [same]
      refine recorded.mono ?_ (fun _ _ found => found) rfl
        (fun _ _ running => running) (fun _ _ _ => .inl) rfl
      intro address sessionId destination
      rw [made_snoc]
      exact or_iff_left (unmade address sessionId destination)
    · apply DatagramRelay.recorded_step recorded move
      intro address sessionId destination
      rw [made_snoc, shows]

theorem not_carries_of_seen {id other : Nat} {principal : PrincipalId}
    {event : DatagramRelay.Event}
    (seen : relayEgress other event = some egress) :
    ¬Carries admission id principal egress := by
  rcases relayEgress_cases seen with
    ⟨rfl, _⟩ | ⟨_, _, _, _, rfl⟩ | ⟨_, _, _, rfl⟩ <;> exact False.elim

/-- Traffic is seen only on a connection that is bound to its principal. -/
theorem carried_step {id : Nat} {principal : PrincipalId}
    (guarded : Guarded admission node)
    (history : History admission trace node)
    (step : Step parse admission config node egress next)
    (carries : Carries admission id principal egress) :
    ∃ connection lease, node.connections id = some connection ∧
      ¬connection.phase.Ended ∧
      node.admissions.Firm id ⟨principal, lease⟩ := by
  cases step with
  | connected present alive stage | relayed present alive stage =>
      obtain ⟨rfl, authenticated⟩ := carries
      have own := guarded _ _ present
      obtain ⟨⟨known, _⟩, firm⟩ := own.streams alive _ _ stage
      rw [known] at authenticated
      cases authenticated
      exact ⟨_, _, present, not_ended alive (own.not_closing stage nofun),
        firm⟩
  | forwarded present stage move =>
      obtain ⟨rfl, credential, sessionId, target, bytes, decoded,
        authenticated⟩ := carries
      have recorded := history.recorded _ _ present
      obtain ⟨_, _, _, session, again, known, firm, _⟩ :=
        sent_datagram guarded recorded present stage move
      rw [decoded] at again
      cases again
      rw [known] at authenticated
      cases authenticated
      refine ⟨_, _, present, ?_, firm⟩
      rw [stage]
      exact False.elim
  | relayMoved present move seen =>
      exact absurd carries (not_carries_of_seen seen)
  | _ => cases carries

theorem authorised_step (guarded : Guarded admission node)
    (history : History admission trace node)
    (step : Step parse admission config node egress next) :
    Authorised admission node egress := by
  cases step with
  | connected present alive stage | relayed present alive stage =>
      obtain ⟨⟨authenticated, allowed⟩, firm⟩ :=
        (guarded _ _ present).streams alive _ _ stage
      exact ⟨allowed, _, firm.bound, authenticated⟩
  | forwarded present stage move =>
      have recorded := history.recorded _ _ present
      obtain ⟨allowed, credential, sessionId, session, decoded,
        authenticated, firm, _⟩ :=
        sent_datagram guarded recorded present stage move
      exact ⟨allowed, credential, sessionId, session, decoded, firm.bound,
        authenticated⟩
  | relayMoved present move seen =>
      rcases relayEgress_cases seen with
        ⟨rfl, _⟩ | ⟨_, _, _, _, rfl⟩ | ⟨_, _, _, rfl⟩ <;> trivial
  | _ => trivial

/-- Traffic of the past is of the principal to which its connection is still
bound, or the connection has ended. -/
theorem carried_kept {id : Nat} {principal : PrincipalId}
    {connection : Connection}
    (step : Step parse admission config node egress next)
    (present : node.connections id = some connection)
    (held : connection.phase.Ended ∨
      ∃ lease, node.admissions.Firm id ⟨principal, lease⟩) :
    ∃ connection, next.connections id = some connection ∧
      (connection.phase.Ended ∨
        ∃ lease, next.admissions.Firm id ⟨principal, lease⟩) := by
  obtain ⟨moved, found, ended⟩ := present_step step present
  refine ⟨moved, found, ?_⟩
  by_cases before : connection.phase.Ended
  · exact .inl (ended before)
  · obtain ⟨lease, firm⟩ := held.resolve_left before
    refine .inr ⟨lease, firm_step firm step ?_⟩
    intro other again closing
    rw [present] at again
    cases again
    rw [closing] at before
    exact before trivial

theorem present_of_associated {id address : Nat}
    {sessionId : DatagramSessionId} {destination : SocketAddr}
    (step : Step parse admission config node
      (.associated id address sessionId destination) next) :
    ∃ connection, node.connections id = some connection := by
  generalize label : Egress.associated id address sessionId destination =
    egress at step
  cases step with
  | relayMoved present move seen =>
      obtain ⟨rfl, _⟩ := (associated_of_seen seen _ _ _ _).mp label.symm
      exact ⟨_, present⟩
  | _ => cases label

theorem made_of_udpSend {id address : Nat} {datagram payload : List UInt8}
    {destination : SocketAddr} (guarded : Guarded admission node)
    (history : History admission trace node)
    (step : Step parse admission config node
      (.udpSend id datagram address destination payload) next) :
    ∃ credential sessionId, Datagram.decode datagram =
        .ok (.clientToServer credential sessionId destination payload) ∧
      Made trace id address sessionId destination := by
  generalize label : Egress.udpSend id datagram address destination payload =
    egress at step
  cases step with
  | forwarded present stage move =>
      cases label
      have recorded := history.recorded _ _ present
      obtain ⟨_, credential, sessionId, _, decoded, _, _, made⟩ :=
        sent_datagram guarded recorded present stage move
      exact ⟨credential, sessionId, decoded, made⟩
  | relayMoved present move seen =>
      rcases relayEgress_cases seen with
        ⟨rfl, _⟩ | ⟨_, _, _, _, rfl⟩ | ⟨_, _, _, rfl⟩ <;> cases label
  | _ => cases label

theorem made_of_response {id address : Nat} {response : Datagram}
    (history : History admission trace node)
    (step : Step parse admission config node
      (.response id address response) next) :
    ∃ sessionId source payload,
      response = .serverToClient sessionId source payload ∧
      Made trace id address sessionId source := by
  generalize label : Egress.response id address response = egress at step
  cases step with
  | relayMoved present move seen =>
      rcases relayEgress_cases seen with
        ⟨rfl, _⟩ | ⟨_, _, _, _, rfl⟩ | ⟨_, _, rfl, rfl⟩
      · cases label
      · cases label
      · cases label
        have recorded := history.recorded _ _ present
        cases move with
        | received running fits encodes =>
            exact ⟨_, _, _, rfl, recorded.receiving _ _ running⟩
  | _ => cases label

theorem history_step (guarded : Guarded admission node)
    (history : History admission trace node)
    (step : Step parse admission config node egress next) :
    History admission (trace ++ [egress]) next where
  recorded := recorded_snoc history step
  served := by
    intro id address sessionId destination made
    rcases made_snoc.mp made with earlier | rfl
    · obtain ⟨connection, present⟩ :=
        history.served id address sessionId destination earlier
      obtain ⟨moved, found, _⟩ := present_step step present
      exact ⟨moved, found⟩
    · obtain ⟨connection, present⟩ := present_of_associated step
      obtain ⟨moved, found, _⟩ := present_step step present
      exact ⟨moved, found⟩
  carried := by
    intro label member id principal carries
    rcases List.mem_append.mp member with earlier | last
    · obtain ⟨connection, present, held⟩ :=
        history.carried label earlier id principal carries
      exact carried_kept step present held
    · rw [List.mem_singleton.mp last] at carries
      obtain ⟨connection, lease, present, _, firm⟩ :=
        carried_step guarded history step carries
      exact carried_kept step present (.inr ⟨lease, firm⟩)
  single := by
    -- The new label is of the principal that the binding has, and so was all
    -- earlier traffic of a connection that has not ended.
    have now {id : Nat} {one other : PrincipalId} {label : Egress}
        (earlier : label ∈ trace) (past : Carries admission id one label)
        (present : Carries admission id other egress) : one = other := by
      obtain ⟨connection, lease, found, open', firm⟩ :=
        carried_step guarded history step present
      obtain ⟨again, same, held⟩ :=
        history.carried label earlier id one past
      rw [found] at same
      cases same
      obtain ⟨lease', firm'⟩ := held.resolve_left open'
      exact congrArg SessionKey.principal (firm'.unique firm)
    intro id one other first firstMember second secondMember here there
    rcases List.mem_append.mp firstMember with firstEarlier | firstLast
    · rcases List.mem_append.mp secondMember with secondEarlier | secondLast
      · exact history.single id one other first firstEarlier second
          secondEarlier here there
      · rw [List.mem_singleton.mp secondLast] at there
        exact now firstEarlier here there
    · rw [List.mem_singleton.mp firstLast] at here
      rcases List.mem_append.mp secondMember with secondEarlier | secondLast
      · exact (now secondEarlier there here).symm
      · rw [List.mem_singleton.mp secondLast] at there
        obtain ⟨_, lease, _, _, firm⟩ :=
          carried_step guarded history step here
        obtain ⟨_, lease', _, _, firm'⟩ :=
          carried_step guarded history step there
        exact congrArg SessionKey.principal (firm.unique firm')
  sends := by
    intro id datagram address destination payload member
    rcases List.mem_append.mp member with earlier | last
    · obtain ⟨credential, sessionId, decoded, made⟩ :=
        history.sends id datagram address destination payload earlier
      exact ⟨credential, sessionId, decoded, made_snoc.mpr (.inl made)⟩
    · obtain rfl := List.mem_singleton.mp last
      obtain ⟨credential, sessionId, decoded, made⟩ :=
        made_of_udpSend guarded history step
      exact ⟨credential, sessionId, decoded, made_snoc.mpr (.inl made)⟩
  responses := by
    intro id address response member
    rcases List.mem_append.mp member with earlier | last
    · obtain ⟨sessionId, source, payload, shape, made⟩ :=
        history.responses id address response earlier
      exact ⟨sessionId, source, payload, shape, made_snoc.mpr (.inl made)⟩
    · obtain rfl := List.mem_singleton.mp last
      obtain ⟨sessionId, source, payload, shape, made⟩ :=
        made_of_response history step
      exact ⟨sessionId, source, payload, shape, made_snoc.mpr (.inl made)⟩

theorem history_of_run
    (run : Run (Step parse admission config)
      { admissions := { quotas := .new quota } } trace node) :
    Admissions.Sound admission quota node.admissions ∧
      Guarded admission node ∧ History admission trace node := by
  induction run with
  | nil =>
      refine ⟨Admissions.sound_initial admission quota, ?_,
        history_initial quota⟩
      intro id connection present
      cases present
  | snoc earlier step induction =>
      obtain ⟨sound, guarded, history⟩ := induction
      exact ⟨sound_step sound step, guarded_step sound guarded step,
        history_step guarded history step⟩

/-- What the node sends after a run, and has sent in it. -/
structure Confined (parse : List UInt8 → Option SocketAddr)
    (admission : RelayAdmission) (config : QuicRelayConfig)
    (trace : List Egress) (node : Listener) : Prop where
  /-- Whatever is sent next is authorised. -/
  authorised : ∀ egress next, Step parse admission config node egress next →
    Authorised admission node egress
  /-- A connection carries traffic of one principal. -/
  single : ∀ id one other, ∀ first ∈ trace, ∀ second ∈ trace,
    Carries admission id one first → Carries admission id other second →
    one = other
  /-- A datagram is sent by the association of its identifier, which was made
  for its destination. -/
  sends : ∀ id datagram address destination payload,
    .udpSend id datagram address destination payload ∈ trace →
    ∃ credential sessionId, Datagram.decode datagram =
        .ok (.clientToServer credential sessionId destination payload) ∧
      .associated id address sessionId destination ∈ trace
  /-- A response has the identifier of the association that received it. -/
  responses : ∀ id address response,
    .response id address response ∈ trace →
    ∃ sessionId source payload,
      response = .serverToClient sessionId source payload ∧
      .associated id address sessionId source ∈ trace
  /-- An association is made once, for one identifier and destination. -/
  made : ∀ id address one other here there,
    .associated id address one here ∈ trace →
    .associated id address other there ∈ trace → one = other ∧ here = there

theorem no_unauthorised_egress (parse : List UInt8 → Option SocketAddr)
    (admission : RelayAdmission) (config : QuicRelayConfig)
    (quota : PrincipalQuota) {trace : List Egress} {node : Listener}
    (run : Run (Step parse admission config)
      { admissions := { quotas := .new quota } } trace node) :
    Confined parse admission config trace node := by
  obtain ⟨_, guarded, history⟩ := history_of_run run
  constructor
  case authorised =>
    intro egress next step
    exact authorised_step guarded history step
  case single => exact history.single
  case sends => exact history.sends
  case responses => exact history.responses
  case made =>
    intro id address one other here there first second
    obtain ⟨connection, present⟩ := history.served id address one here first
    exact (history.recorded id connection present).single address one other
      here there first second

open DatagramRelay (query queryTarget queryRequest queryPolicy)

/-- One principal may send to one destination. -/
def queryAdmission : RelayAdmission where
  authenticator :=
    { credentials := OrderedMap.empty.insert ⟨1⟩ [7]
      secretLength := some 1 }
  destinations := queryPolicy

/-- A listener before its first connection. -/
def queryStart : Listener where
  admissions :=
    { quotas := .new { maxSessions := 1, maxFlowsPerSession := 1 } }

/-- The datagram of a new client is admitted and gets its association. -/
theorem serve_query :
    ∃ node next, Run (Step (fun _ => none) queryAdmission {}) queryStart
        [.quiet, .quiet, .quiet, .quiet, .quiet, .quiet, .quiet,
          .associated 0 0 queryRequest.sessionId queryTarget] node ∧
      Step (fun _ => none) queryAdmission {} node
        (.udpSend 0 query 0 queryTarget []) next := by
  have accepted : Run (Step (fun _ => none) queryAdmission {}) queryStart
      [.quiet] _ :=
    .single (@Step.accept _ _ _ _ 0 rfl)
  have decoded : Run (Step (fun _ => none) queryAdmission {}) queryStart
      [.quiet, .quiet] _ :=
    accepted.snoc (@Step.datagramDecoded _ _ _ _ 0 _ query [7]
      queryRequest.sessionId queryTarget [] rfl rfl rfl)
  have began := decoded.snoc (@Step.admitBegan _ _ _ _ 0 _ _ _ _ rfl rfl
    (.admitDatagram rfl rfl))
  have opened := began.snoc (@Step.operated _ _ _ _ 0 _
    (.opened 0 ⟨⟨1⟩, ⟨0⟩⟩) _ rfl nofun rfl trivial (.admitOpened rfl rfl rfl))
  have admitted := opened.snoc (@Step.admitted _ _ _ _ 0 _ _ _ _ rfl rfl
    (.returned rfl))
  have passed := admitted.snoc (@Step.forwardAccepted _ _ _ _ 0 _ _ _ rfl rfl
    (.accepted rfl (fun _ _ found => by cases found)
      DatagramRelay.accept_query))
  have locked := passed.snoc (@Step.relayMoved _ _ _ _ 0 _ _ _ _ rfl
    (@DatagramRelay.Step.lookupAbsent _ 0 queryRequest rfl
      DatagramRelay.unlocked_query rfl) rfl)
  have bound := locked.snoc (@Step.relayMoved _ _ _ _ 0 _ _ _ _ rfl
    (@DatagramRelay.Step.bound _ 0 queryRequest rfl) rfl)
  exact ⟨_, _, bound, @Step.forwarded _ _ _ _ 0 _ query [] 0 queryTarget true
    _ rfl rfl (@DatagramRelay.Step.sent _ 0 queryRequest ⟨queryTarget, 0⟩
      queryTarget true rfl rfl)⟩

theorem no_unauthorised_egress_query :
    ∃ node next, Run (Step (fun _ => none) queryAdmission {}) queryStart
        [.quiet, .quiet, .quiet, .quiet, .quiet, .quiet, .quiet,
          .associated 0 0 queryRequest.sessionId queryTarget] node ∧
      Step (fun _ => none) queryAdmission {} node
        (.udpSend 0 query 0 queryTarget []) next ∧
      Authorised queryAdmission node (.udpSend 0 query 0 queryTarget []) := by
  obtain ⟨node, next, run, sends⟩ := serve_query
  have confined := no_unauthorised_egress (fun _ => none) queryAdmission {}
    { maxSessions := 1, maxFlowsPerSession := 1 } run
  exact ⟨node, next, run, sends, confined.authorised _ next sends⟩

end Listener

end Velum.Node
