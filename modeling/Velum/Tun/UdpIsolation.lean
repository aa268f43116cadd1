import Velum.Node.LoopDatagrams
import Velum.Tun.SessionNumbers

/-!
# Flows are kept apart on the whole way

A socket of the node is used for one captured flow: whatever it sends was the
payload of a frame of that flow, for the destination of that flow, and
whatever it receives is handed to that flow.
-/

namespace Velum.Tun

open Foundation Protocol Velum.Runtime Velum.Node

namespace UdpPath

/-- The path of a fresh engine to a node that serves nobody yet. -/
def start (engine : TunUdpEngine) (quota : Server.PrincipalQuota) :
    UdpPath where
  engine := engine
  node := { admissions := { quotas := .new quota } }

def isSubmitted : PathEvent → Bool
  | .submitted _ _ _ => true
  | _ => false

def submissions (trace : List PathEvent) : Nat := trace.countP isSubmitted

/-- What the node does in a trace. -/
def egresses (trace : List PathEvent) : List Listener.Egress :=
  trace.filterMap fun
    | .served egress => some egress
    | _ => none

/-- The session was used for a frame of the flow. -/
def Given (trace : List PathEvent) (session : DatagramSessionId)
    (flow : FlowKey) : Prop :=
  ∃ id frame submission, .submitted id frame submission ∈ trace ∧
    submission.sessionId = session ∧ submission.flow = flow

/-- The request is one of a frame that was submitted to the connection. -/
def Requested (trace : List PathEvent) (id : Nat)
    (request : Request) : Prop :=
  ∃ frame submission, .submitted id frame submission ∈ trace ∧
    request =
      ⟨submission.sessionId, submission.flow.destination, submission.payload⟩

/-- The socket of the connection was made for a frame of the flow. -/
def ServesFlow (trace : List PathEvent) (id address : Nat)
    (flow : FlowKey) : Prop :=
  ∃ frame submission, .submitted id frame submission ∈ trace ∧
    submission.flow = flow ∧
    .served (.associated id address submission.sessionId
      flow.destination) ∈ trace

/-- The frame is a response that a socket of the flow has received. -/
def Returned (setting : Setting) (mtu : Nat) (trace : List PathEvent)
    (frame : List UInt8) : Prop :=
  ∃ id address flow sessionId payload, setting.own id ∧
    ServesFlow trace id address flow ∧
    .served (.response id address
      (.serverToClient sessionId flow.destination payload)) ∈ trace ∧
    setting.views.encodeUdpResponse flow payload mtu = .ok frame

section Traces

variable {trace : List PathEvent} {event : PathEvent}

theorem submissions_snoc :
    submissions (trace ++ [event]) =
      submissions trace + (if isSubmitted event then 1 else 0) := by
  rw [submissions, List.countP_append, List.countP_singleton]
  rfl

theorem given_snoc {session : DatagramSessionId} {flow : FlowKey} :
    Given (trace ++ [event]) session flow ↔ Given trace session flow ∨
      ∃ id frame submission, event = .submitted id frame submission ∧
        submission.sessionId = session ∧ submission.flow = flow := by
  unfold Given
  constructor
  · rintro ⟨id, frame, submission, member, same⟩
    rcases List.mem_append.mp member with earlier | last
    · exact .inl ⟨id, frame, submission, earlier, same⟩
    · exact .inr ⟨id, frame, submission, (List.mem_singleton.mp last).symm,
        same⟩
  · rintro (⟨id, frame, submission, earlier, same⟩ |
      ⟨id, frame, submission, rfl, same⟩)
    · exact ⟨id, frame, submission, List.mem_append_left _ earlier, same⟩
    · exact ⟨id, frame, submission,
        List.mem_append_right _ List.mem_cons_self, same⟩

theorem Requested.snoc {id : Nat} {request : Request}
    (known : Requested trace id request) :
    Requested (trace ++ [event]) id request := by
  obtain ⟨frame, submission, member, same⟩ := known
  exact ⟨frame, submission, List.mem_append_left _ member, same⟩

theorem ServesFlow.snoc {id address : Nat} {flow : FlowKey}
    (known : ServesFlow trace id address flow) :
    ServesFlow (trace ++ [event]) id address flow := by
  obtain ⟨frame, submission, member, same, made⟩ := known
  exact ⟨frame, submission, List.mem_append_left _ member, same,
    List.mem_append_left _ made⟩

theorem Returned.snoc {setting : Setting} {mtu : Nat} {frame : List UInt8}
    (known : Returned setting mtu trace frame) :
    Returned setting mtu (trace ++ [event]) frame := by
  obtain ⟨id, address, flow, sessionId, payload, own, serves, member,
    encoded⟩ := known
  exact ⟨id, address, flow, sessionId, payload, own, serves.snoc,
    List.mem_append_left _ member, encoded⟩

theorem mem_egresses {egress : Listener.Egress} :
    egress ∈ egresses trace ↔ .served egress ∈ trace := by
  unfold egresses
  rw [List.mem_filterMap]
  constructor
  · rintro ⟨event, member, same⟩
    cases event with
    | served other =>
        cases same
        exact member
    | _ => cases same
  · intro member
    exact ⟨_, member, rfl⟩

end Traces

variable {setting : Setting} {quota : Server.PrincipalQuota} {mtu : Nat}
  {trace : List PathEvent} {event : PathEvent} {path next : UdpPath}

/-! ## The client -/

/-- What the client knows of its sessions and has given to its
connections. -/
structure Client (setting : Setting) (mtu : Nat) (trace : List PathEvent)
    (path : UdpPath) : Prop where
  inStep : TunUdpEngine.InStep path.engine.registry path.engine.associations
  mtu : path.engine.queue.mtu = mtu
  numbered : path.engine.associations.Numbered (Given trace)
    (submissions trace)
  captured : ∀ id frame submission, .submitted id frame submission ∈ trace →
    setting.views.classifyIpv4Packet frame = .ok submission.flow ∧
      setting.views.udpPayload frame = .ok submission.payload
  sent : ∀ id envelope, (id, envelope) ∈ path.sent →
    ∃ frame submission, .submitted id frame submission ∈ trace ∧
      Datagram.decode envelope = .ok (.clientToServer setting.credential
        submission.sessionId submission.flow.destination submission.payload)

namespace Client

theorem initial {limits : TunAdapterLimits} {capacity : Nat}
    {engine : TunUdpEngine}
    (created : TunUdpEngine.new limits mtu capacity = .ok engine) :
    Client setting mtu [] (start engine quota) where
  inStep := TunUdpEngine.inStep_new created
  mtu := by
    obtain ⟨queue, made, created⟩ := bind_eq_ok created
    obtain ⟨associations, _, created⟩ := bind_eq_ok created
    obtain ⟨registry, _, created⟩ := bind_eq_ok created
    cases created
    rw [TunFrameQueue.new] at made
    split at made
    · cases made
    · cases made
      rfl
  numbered := by
    obtain ⟨queue, _, created⟩ := bind_eq_ok created
    obtain ⟨associations, table, created⟩ := bind_eq_ok created
    obtain ⟨registry, _, created⟩ := bind_eq_ok created
    cases created
    apply (UdpAssociationTable.numbered_new table).congr
    intro session flow
    constructor
    · rintro ⟨_, _, _, member, _⟩
      cases member
    · exact False.elim
  captured := by
    intro id frame submission member
    cases member
  sent := by
    intro id envelope member
    cases member

/-- A step that submits nothing. -/
theorem keep (client : Client setting mtu trace path)
    (plain : isSubmitted event = false)
    (inStep : TunUdpEngine.InStep next.engine.registry
      next.engine.associations)
    (mtus : next.engine.queue.mtu = path.engine.queue.mtu)
    (numbered : next.engine.associations.Numbered (Given trace)
      (submissions trace))
    (sent : next.sent = path.sent) :
    Client setting mtu (trace ++ [event]) next where
  inStep := inStep
  mtu := mtus.trans client.mtu
  numbered := by
    rw [submissions_snoc, plain]
    apply numbered.congr
    intro session flow
    rw [given_snoc]
    refine or_iff_left ?_
    rintro ⟨id, frame, submission, rfl, _⟩
    cases plain
  captured := by
    intro id frame submission member
    rcases List.mem_append.mp member with earlier | last
    · exact client.captured id frame submission earlier
    · obtain rfl := List.mem_singleton.mp last
      cases plain
  sent := by
    intro id envelope member
    rw [sent] at member
    obtain ⟨frame, submission, earlier, decoded⟩ :=
      client.sent id envelope member
    exact ⟨frame, submission, List.mem_append_left _ earlier, decoded⟩

/-- The destination of a captured frame is written as it is. -/
theorem cleared_of_classified {views : PacketViews} {frame : List UInt8}
    {flow : FlowKey} (classified : views.classifyIpv4Packet frame = .ok flow) :
    flow.destination.cleared = flow.destination := by
  unfold PacketViews.classifyIpv4Packet at classified
  split at classified
  · cases classified
  · split at classified
    · cases classified
    · split at classified
      · cases classified
      · split at classified
        · cases classified
        · cases classified
          rfl

theorem submit (client : Client setting mtu trace path) {id : Nat}
    {frame : List UInt8} {submission : Submission} {awaited : Awaited Unit}
    {active : RuntimeSnapshot} {link : DatagramLink}
    (few : submissions trace + 2 < 2 ^ 64)
    (submits : path.engine.submission setting.views awaited.reads =
      some (frame, submission)) :
    Client setting mtu (trace ++ [.submitted id frame submission])
      { path with
        engine := (path.engine.forwardNext setting.views awaited).2
        sent := path.sent ++
          ((setting.send active link submission).toOption.map
            (id, ·)).toList } := by
  obtain ⟨_, classified, extracted, _, _⟩ :=
    TunUdpEngine.submission_eq_some submits
  have here : PathEvent.submitted id frame submission ∈
      trace ++ [.submitted id frame submission] :=
    List.mem_append_right _ List.mem_cons_self
  constructor
  case inStep =>
    exact (TunUdpEngine.inStep_forwardNext client.inStep setting.views
      awaited).1
  case mtu =>
    exact (TunUdpEngine.forwardNext_queue awaited).1.trans client.mtu
  case numbered =>
    have looked := TunUdpEngine.forwardNext_submitted submits
    have given := client.numbered.sessionFor client.inStep.paired few looked
    rw [submissions_snoc]
    apply given.congr
    intro session flow
    rw [given_snoc]
    apply or_congr_right
    constructor
    · rintro ⟨_, _, _, same, rfl, rfl⟩
      cases same
      exact ⟨rfl, rfl⟩
    · rintro ⟨rfl, rfl⟩
      exact ⟨id, frame, submission, rfl, rfl, rfl⟩
  case captured =>
    intro other frame' submission' member
    rcases List.mem_append.mp member with earlier | last
    · exact client.captured other frame' submission' earlier
    · cases List.mem_singleton.mp last
      exact ⟨classified, extracted⟩
  case sent =>
    intro other envelope member
    rcases List.mem_append.mp member with earlier | last
    · obtain ⟨frame', submission', known, decoded⟩ :=
        client.sent other envelope earlier
      exact ⟨frame', submission', List.mem_append_left _ known, decoded⟩
    · cases sends : setting.send active link submission with
      | error failure =>
          rw [sends] at last
          cases last
      | ok encoded =>
          rw [sends] at last
          cases List.mem_singleton.mp last
          refine ⟨frame, submission, here, ?_⟩
          rw [decode_of_sendDatagram sends,
            cleared_of_classified classified]

theorem step (client : Client setting mtu trace path)
    (move : Step setting path event next)
    (few : submissions (trace ++ [event]) < 2 ^ 64 - 1) :
    Client setting mtu (trace ++ [event]) next := by
  have performs (call : TunUdpEngine.Call) :=
    TunUdpEngine.inStep_perform client.inStep call
  cases move with
  | captured frame =>
      refine client.keep rfl (performs (.pushInbound frame)) ?_
        client.numbered rfl
      simp only [TunUdpEngine.pushInbound, TunFrameQueue.pushInbound]
      split
      · rfl
      · split <;> rfl
  | cleared =>
      exact client.keep rfl (performs .clear) rfl client.numbered.clear rfl
  | @skipped awaited nothing =>
      refine client.keep rfl (performs (.forwardNext setting.views awaited))
        (TunUdpEngine.forwardNext_queue awaited).1 ?_ rfl
      rw [TunUdpEngine.forwardNext_skipped client.inStep nothing]
      exact client.numbered
  | submitted own submits answers =>
      rw [submissions_snoc] at few
      exact client.submit (by simp [isSubmitted] at few; omega) submits
  | served move arrived =>
      exact client.keep rfl client.inStep rfl client.numbered rfl
  | @received _ read active after snapshot online own carried =>
      obtain ⟨registry, table⟩ := path.engine.receiveNext_keeps setting.views
        (receiveDatagram active read after) snapshot online
      refine client.keep rfl ?_ (TunUdpEngine.receiveNext_queue _ _ _).1 ?_
        rfl
      · rw [registry, table]
        exact client.inStep
      · rw [table]
        exact client.numbered
  | handed next =>
      exact client.keep rfl (performs .popOutbound) rfl client.numbered rfl

end Client

/-! ## The node -/

/-- What the node makes of the datagrams of the client. -/
structure Served (setting : Setting) (quota : Server.PrincipalQuota)
    (trace : List PathEvent) (path : UdpPath) : Prop where
  run : Run (Listener.Step setting.parse setting.admission setting.config)
    { admissions := { quotas := .new quota } } (egresses trace) path.node
  loops : ∀ id connection datagram, setting.own id →
    path.node.connections id = some connection →
    connection.phase.datagram = some datagram → (id, datagram) ∈ path.sent
  asked : ∀ id connection, setting.own id →
    path.node.connections id = some connection →
    connection.relay.Asked (Requested trace id)
  sends : ∀ id datagram address destination payload, setting.own id →
    .served (.udpSend id datagram address destination payload) ∈ trace →
    (id, datagram) ∈ path.sent
  opened : ∀ id address sessionId destination, setting.own id →
    .served (.associated id address sessionId destination) ∈ trace →
    ∃ frame submission, .submitted id frame submission ∈ trace ∧
      submission.sessionId = sessionId ∧
      submission.flow.destination = destination

namespace Served

theorem initial (engine : TunUdpEngine) :
    Served setting quota [] (start engine quota) where
  run := .nil
  loops := by
    intro id connection datagram own present
    cases present
  asked := by
    intro id connection own present
    cases present
  sends := by
    intro id datagram address destination payload own member
    cases member
  opened := by
    intro id address sessionId destination own member
    cases member

/-- A step of the client. -/
theorem keep (served : Served setting quota trace path)
    (plain : ∀ egress, event ≠ .served egress)
    (node : next.node = path.node)
    (more : ∀ entry ∈ path.sent, entry ∈ next.sent) :
    Served setting quota (trace ++ [event]) next where
  run := by
    have same : egresses (trace ++ [event]) = egresses trace := by
      unfold egresses
      rw [List.filterMap_append]
      cases event with
      | served egress => exact absurd rfl (plain egress)
      | _ => exact List.append_nil _
    rw [same, node]
    exact served.run
  loops := by
    intro id connection datagram own present holds
    rw [node] at present
    exact more _ (served.loops id connection datagram own present holds)
  asked := by
    intro id connection own present
    rw [node] at present
    exact (served.asked id connection own present).mono
      fun _ known => known.snoc
  sends := by
    intro id datagram address destination payload own member
    rcases List.mem_append.mp member with earlier | last
    · exact more _ (served.sends id datagram address destination payload own
        earlier)
    · exact absurd (List.mem_singleton.mp last).symm (plain _)
  opened := by
    intro id address sessionId destination own member
    rcases List.mem_append.mp member with earlier | last
    · obtain ⟨frame, submission, known, same⟩ :=
        served.opened id address sessionId destination own earlier
      exact ⟨frame, submission, List.mem_append_left _ known, same⟩
    · exact absurd (List.mem_singleton.mp last).symm (plain _)

/-- A datagram of the client asks for what a captured frame asked for. -/
theorem requested (client : Client setting mtu trace path)
    {id : Nat} {datagram : List UInt8} {request : Request}
    {destinations : Server.DestinationPolicy}
    (given : (id, datagram) ∈ path.sent)
    (passed : Request.accept datagram destinations = .ok request) :
    Requested trace id request := by
  obtain ⟨frame, submission, known, decoded⟩ := client.sent id datagram given
  obtain ⟨_, credential, again⟩ := Listener.accept_ok passed
  rw [decoded] at again
  obtain ⟨sessionId, destination, payload⟩ := request
  cases again
  exact ⟨frame, submission, known, rfl⟩

theorem serve (served : Served setting quota trace path)
    (client : Client setting mtu trace path) {egress : Listener.Egress}
    {node : Listener}
    (move : Listener.Step setting.parse setting.admission setting.config
      path.node egress node)
    (arrived : setting.Arrived path.sent node) :
    Served setting quota (trace ++ [.served egress])
      { path with node, answered := path.answered ++ envelopes egress } where
  run := by
    have same : egresses (trace ++ [.served egress]) =
        egresses trace ++ [egress] := by
      unfold egresses
      rw [List.filterMap_append]
      rfl
    rw [same]
    exact served.run.snoc move
  loops := by
    intro id connection datagram own present holds
    rcases Listener.datagram_step move present holds with
      ⟨credential, read⟩ | ⟨before, earlier, had⟩
    · exact arrived id connection datagram credential own present read
    · exact served.loops id before datagram own earlier had
  asked := by
    intro id connection own present
    have held := Listener.asked_step move
      (fun before earlier => served.asked id before own earlier)
      (fun before datagram request earlier holds passed => requested client
        (served.loops id before datagram own earlier holds) passed)
      connection present
    exact held.mono fun _ known => known.snoc
  sends := by
    intro id datagram address destination payload own member
    rcases List.mem_append.mp member with earlier | last
    · exact served.sends id datagram address destination payload own earlier
    · cases List.mem_singleton.mp last
      obtain ⟨connection, present, holds⟩ :=
        Listener.datagram_of_udpSend move
      exact served.loops id connection datagram own present holds
  opened := by
    intro id address sessionId destination own member
    rcases List.mem_append.mp member with earlier | last
    · obtain ⟨frame, submission, known, same⟩ :=
        served.opened id address sessionId destination own earlier
      exact ⟨frame, submission, List.mem_append_left _ known, same⟩
    · cases List.mem_singleton.mp last
      obtain ⟨connection, relay, present, makes⟩ :=
        Listener.relay_of_associated move
      obtain ⟨request, ⟨frame, submission, known, rfl⟩, rfl, rfl⟩ :=
        DatagramRelay.request_of_associated
          (served.asked id connection own present) makes
      exact ⟨frame, submission, List.mem_append_left _ known, rfl, rfl⟩

theorem step (served : Served setting quota trace path)
    (client : Client setting mtu trace path)
    (move : Step setting path event next) :
    Served setting quota (trace ++ [event]) next := by
  cases move with
  | captured | cleared | skipped | received | handed =>
      exact served.keep nofun rfl fun _ member => member
  | submitted =>
      exact served.keep nofun rfl fun _ member =>
        List.mem_append_left _ member
  | served move arrived => exact served.serve client move arrived

/-- A socket of the client's connections serves the flow of its session. -/
theorem servesFlow (served : Served setting quota trace path)
    (client : Client setting mtu trace path) {id address : Nat}
    {sessionId : DatagramSessionId} {destination : SocketAddr}
    (own : setting.own id)
    (made : .served (.associated id address sessionId destination) ∈ trace) :
    ∃ flow, ServesFlow trace id address flow ∧
      flow.destination = destination ∧ Given trace sessionId flow ∧
      ∀ other, Given trace sessionId other → other = flow := by
  obtain ⟨frame, submission, known, rfl, rfl⟩ :=
    served.opened id address sessionId destination own made
  have given : Given trace submission.sessionId submission.flow :=
    ⟨id, frame, submission, known, rfl, rfl⟩
  refine ⟨submission.flow, ⟨frame, submission, known, rfl, made⟩, rfl, given,
    ?_⟩
  intro other named
  exact client.numbered.single _ _ _ named given

end Served

/-! ## The way back -/

/-- What the runtime hands on is what the client has received. -/
theorem datagram_of_received {active after : RuntimeSnapshot}
    {read : ReadDatagram} {datagram : ClientDatagram}
    (received : receiveDatagram active read after = .ok datagram) :
    clientReceiveDatagram read = .ok datagram := by
  unfold receiveDatagram at received
  split at received
  · cases received
  · split at received
    · cases received
    next answered =>
        split at received
        · cases received
        · cases received
          exact answered

/-- What the node has given back to the connections, and what the engine has
for the device. -/
structure Returns (setting : Setting) (mtu : Nat) (trace : List PathEvent)
    (path : UdpPath) : Prop where
  answered : ∀ id envelope, (id, envelope) ∈ path.answered →
    ∃ address response, .served (.response id address response) ∈ trace ∧
      response.encode = .ok envelope
  queued : ∀ frame ∈ path.engine.queue.outbound,
    Returned setting mtu trace frame
  handed : ∀ frame, .handed frame ∈ trace → Returned setting mtu trace frame

namespace Returns

theorem initial {limits : TunAdapterLimits} {capacity : Nat}
    {engine : TunUdpEngine}
    (created : TunUdpEngine.new limits mtu capacity = .ok engine) :
    Returns setting mtu [] (start engine quota) where
  answered := by
    intro id envelope member
    cases member
  queued := by
    obtain ⟨queue, made, created⟩ := bind_eq_ok created
    obtain ⟨associations, _, created⟩ := bind_eq_ok created
    obtain ⟨registry, _, created⟩ := bind_eq_ok created
    cases created
    rw [TunFrameQueue.new] at made
    split at made
    · cases made
    · cases made
      intro frame member
      cases member
  handed := by
    intro frame member
    cases member

/-- Nothing is handed over, and what is new has been received. -/
theorem keep (returns : Returns setting mtu trace path)
    (plain : ∀ frame, event ≠ .handed frame)
    (answered : ∀ id envelope, (id, envelope) ∈ next.answered →
      (id, envelope) ∈ path.answered ∨
        ∃ address response, event = .served (.response id address response) ∧
          response.encode = .ok envelope)
    (queued : ∀ frame ∈ next.engine.queue.outbound,
      frame ∈ path.engine.queue.outbound ∨
        Returned setting mtu trace frame) :
    Returns setting mtu (trace ++ [event]) next where
  answered := by
    intro id envelope member
    rcases answered id envelope member with
      before | ⟨address, response, rfl, written⟩
    · obtain ⟨address, response, earlier, written⟩ :=
        returns.answered id envelope before
      exact ⟨address, response, List.mem_append_left _ earlier, written⟩
    · exact ⟨address, response, List.mem_append_right _ List.mem_cons_self,
        written⟩
  queued := by
    intro frame member
    rcases queued frame member with before | fresh
    · exact (returns.queued frame before).snoc
    · exact fresh.snoc
  handed := by
    intro frame member
    rcases List.mem_append.mp member with earlier | last
    · exact (returns.handed frame earlier).snoc
    · exact absurd (List.mem_singleton.mp last).symm (plain frame)

/-- A response that the engine encodes came from the socket of its flow. -/
theorem returned (returns : Returns setting mtu trace path)
    (client : Client setting mtu trace path)
    (served : Served setting quota trace path) {connection : Nat}
    {read : ReadDatagram} {active after snapshot online : RuntimeSnapshot}
    {frame : List UInt8} (own : setting.own connection)
    (carried : ∀ envelope, read = some envelope →
      (connection, envelope) ∈ path.answered)
    (encoded : path.engine.registry.receiveUdp setting.views
      path.engine.associations path.engine.queue.mtu
      (receiveDatagram active read after) snapshot online = .ok frame) :
    Returned setting mtu trace frame := by
  obtain ⟨datagram, flow, received, stored, target, written⟩ :=
    TunUdpEngine.receiveUdp_ok encoded
  rw [client.mtu] at written
  -- The envelope is one that the node has written.
  obtain ⟨envelope, rfl, decoded⟩ := clientReceiveDatagram_eq_ok_iff.mp
    (datagram_of_received received)
  obtain ⟨address, response, member, wrote⟩ :=
    returns.answered connection envelope (carried envelope rfl)
  obtain ⟨_, _, history⟩ := Listener.history_of_run served.run
  obtain ⟨sessionId, source, payload, rfl, made⟩ :=
    history.responses connection address response (mem_egresses.mpr member)
  have again : Datagram.decode envelope =
      .ok (Datagram.serverToClient sessionId source payload).cleared := by
    apply Datagram.decode_eq_ok_iff.mpr
    rw [Datagram.encode_cleared]
    exact ⟨wrote, Datagram.cleared_cleared _⟩
  rw [decoded] at again
  obtain ⟨sameSession, _, samePayload⟩ :=
    Datagram.serverToClient.inj (Except.ok.inj again)
  -- Its session belongs to the flow that the engine has found.
  obtain ⟨other, serves, rfl, _, only⟩ :=
    served.servesFlow client own (mem_egresses.mp made)
  rw [sameSession] at stored
  obtain rfl := only flow (client.numbered.stored _ _ stored)
  rw [samePayload] at written
  exact ⟨connection, address, flow, sessionId, payload, own, serves, member,
    written⟩

theorem step (returns : Returns setting mtu trace path)
    (client : Client setting mtu trace path)
    (served : Served setting quota trace path)
    (move : Step setting path event next) :
    Returns setting mtu (trace ++ [event]) next := by
  cases move with
  | captured frame =>
      refine returns.keep nofun (fun _ _ => .inl) ?_
      intro other member
      simp only [TunUdpEngine.pushInbound, TunFrameQueue.pushInbound]
        at member
      split at member
      · exact .inl member
      · split at member <;> exact .inl member
  | cleared =>
      exact returns.keep nofun (fun _ _ => .inl) fun _ => .inl
  | @skipped awaited nothing | @submitted _ _ _ awaited =>
      refine returns.keep nofun (fun _ _ => .inl) ?_
      intro frame member
      rw [(TunUdpEngine.forwardNext_queue awaited).2] at member
      exact .inl member
  | @served egress node move arrived =>
      refine returns.keep nofun ?_ fun _ => .inl
      intro id envelope member
      rcases List.mem_append.mp member with before | fresh
      · exact .inl before
      · cases egress with
        | response other address response =>
            cases written : response.encode with
            | error failure =>
                simp [envelopes, written, Except.toOption] at fresh
            | ok bytes =>
                simp only [envelopes, written, Except.toOption,
                  Option.map_some, Option.toList_some,
                  List.mem_singleton] at fresh
                cases fresh
                exact .inr ⟨address, response, rfl, written⟩
        | _ => cases fresh
  | @received connection read active after snapshot online own carried =>
      refine returns.keep nofun (fun _ _ => .inl) ?_
      intro frame member
      rcases (TunUdpEngine.receiveNext_queue _ _ _).2 frame member with
        before | encoded
      · exact .inl before
      · exact .inr (returns.returned client served own carried encoded)
  | @handed frame next =>
      have first : frame ∈ path.engine.queue.outbound :=
        List.mem_of_mem_head? next
      constructor
      case answered =>
        intro id envelope member
        obtain ⟨address, response, earlier, written⟩ :=
          returns.answered id envelope member
        exact ⟨address, response, List.mem_append_left _ earlier, written⟩
      case queued =>
        intro other member
        exact (returns.queued other (List.mem_of_mem_tail member)).snoc
      case handed =>
        intro other member
        rcases List.mem_append.mp member with earlier | last
        · exact (returns.handed other earlier).snoc
        · cases List.mem_singleton.mp last
          exact (returns.queued frame first).snoc

end Returns

/-! ## Whole runs -/

theorem submissions_le_snoc :
    submissions trace ≤ submissions (trace ++ [event]) := by
  rw [submissions_snoc]
  exact Nat.le_add_right _ _

theorem known_of_run {limits : TunAdapterLimits} {capacity : Nat}
    {engine : TunUdpEngine}
    (created : TunUdpEngine.new limits mtu capacity = .ok engine)
    (run : Run (Step setting) (start engine quota) trace path)
    (few : submissions trace < 2 ^ 64 - 1) :
    Client setting mtu trace path ∧ Served setting quota trace path ∧
      Returns setting mtu trace path := by
  induction run with
  | nil =>
      exact ⟨.initial created, .initial engine, .initial created⟩
  | snoc earlier move induction =>
      obtain ⟨client, served, returns⟩ :=
        induction (submissions_le_snoc.trans_lt few)
      exact ⟨client.step move few, served.step client move,
        returns.step client served move⟩

/-- What a trace shows of the flows. -/
structure Isolated (setting : Setting) (mtu : Nat)
    (trace : List PathEvent) : Prop where
  /-- What the node sends for the client is the payload of a captured frame,
  through a socket of its flow. -/
  sends : ∀ id datagram address destination payload, setting.own id →
    .served (.udpSend id datagram address destination payload) ∈ trace →
    ∃ frame submission, .submitted id frame submission ∈ trace ∧
      setting.views.classifyIpv4Packet frame = .ok submission.flow ∧
      setting.views.udpPayload frame = .ok payload ∧
      submission.flow.destination = destination ∧
      ServesFlow trace id address submission.flow
  /-- A socket serves one flow. -/
  single : ∀ id address one other, setting.own id →
    ServesFlow trace id address one → ServesFlow trace id address other →
    one = other
  /-- What the device is handed was received by a socket of its flow. -/
  returns : ∀ frame, .handed frame ∈ trace →
    Returned setting mtu trace frame

/-- As long as the session numbers have not come round, every run keeps the
flows apart. -/
theorem udp_flows_isolated (setting : Setting)
    (quota : Server.PrincipalQuota) (limits : TunAdapterLimits)
    (mtu capacity : Nat) (engine : TunUdpEngine)
    (created : TunUdpEngine.new limits mtu capacity = .ok engine)
    (trace : List PathEvent) (path : UdpPath)
    (run : Run (Step setting) (start engine quota) trace path)
    (few : submissions trace < 2 ^ 64 - 1) : Isolated setting mtu trace := by
  obtain ⟨client, served, returns⟩ := known_of_run created run few
  obtain ⟨_, _, history⟩ := Listener.history_of_run served.run
  constructor
  case sends =>
    intro id datagram address destination payload own member
    obtain ⟨frame, submission, known, decoded⟩ := client.sent id datagram
      (served.sends id datagram address destination payload own member)
    obtain ⟨credential, sessionId, again, made⟩ := history.sends id datagram
      address destination payload (mem_egresses.mpr member)
    rw [decoded] at again
    cases again
    obtain ⟨classified, extracted⟩ :=
      client.captured id frame submission known
    exact ⟨frame, submission, known, classified, extracted, rfl,
      ⟨frame, submission, known, rfl, mem_egresses.mp made⟩⟩
  case single =>
    intro id address one other own here there
    obtain ⟨frame, submission, known, rfl, made⟩ := here
    obtain ⟨frame', submission', known', rfl, made'⟩ := there
    obtain ⟨connection, present⟩ :=
      history.served id address _ _ (mem_egresses.mpr made)
    obtain ⟨same, _⟩ := (history.recorded id connection present).single
      address _ _ _ _ (mem_egresses.mpr made) (mem_egresses.mpr made')
    exact client.numbered.single _ _ _
      ⟨id, frame, submission, known, rfl, rfl⟩
      ⟨id, frame', submission', known', same.symm, rfl⟩
  case returns => exact returns.handed

/-! ## A query and its answer -/

open Listener (queryAdmission queryStart)
open DatagramRelay (query queryTarget queryRequest)

theorem length_device : ([10, 0, 0, 2] : List UInt8).length = 4 := rfl

/-- Views that read every frame as one of a device that asks the query's
target. -/
def queryViews : PacketViews where
  ipv4Packet frame := some frame
  ipv4Repr _ := some
    { srcAddr := ⟨[10, 0, 0, 2], length_device⟩
      dstAddr := ⟨[192, 0, 2, 10], DatagramRelay.length_queryOctets⟩
      nextHeader := .udp }
  tcpPacket _ := none
  udpPacket frame := some (⟨50000, 53⟩, frame.drop 28)
  emitUdpIpv4 _ _ payload := List.replicate 28 0 ++ payload
  emitUdpIpv6 _ _ payload := List.replicate 48 0 ++ payload

def querySetting : Setting where
  views := queryViews
  credential := [7]
  own := (· = 0)
  parse := fun _ => none
  admission := queryAdmission
  config := {}

def queryFrame : List UInt8 := List.replicate 28 0

def querySubmission : Submission where
  flow :=
    { protocol := .udp
      source := .v4 ⟨[10, 0, 0, 2], length_device⟩ 50000
      destination := queryTarget }
  sessionId := queryRequest.sessionId
  payload := []

def queryEngine : TunUdpEngine :=
  ⟨⟨1280, 1, [], []⟩, ⟨{}, .empty⟩, ⟨1, .empty, .empty, 256⟩⟩

def queryTrace : List PathEvent :=
  [.quiet, .submitted 0 queryFrame querySubmission,
    .served .quiet, .served .quiet, .served .quiet, .served .quiet,
    .served .quiet, .served .quiet, .served .quiet,
    .served (.associated 0 0 queryRequest.sessionId queryTarget),
    .served (.udpSend 0 query 0 queryTarget []),
    .served (.response 0 0
      (.serverToClient queryRequest.sessionId queryTarget [9])),
    .quiet, .handed (queryFrame ++ [9])]

def queryAnswer : List UInt8 :=
  [2, 0, 0, 0, 0, 0, 0, 0, 1, 4, 192, 0, 2, 10, 0, 53, 9]

theorem arrived_of {node : Listener} {sent : List (Nat × List UInt8)}
    {connection : Connection}
    (present : node.connections 0 = some connection)
    (holds : ∀ datagram credential,
      connection.phase = .admitting datagram credential →
      (0, datagram) ∈ sent) : querySetting.Arrived sent node := by
  intro id other datagram credential own found
  cases own
  rw [present] at found
  cases found
  exact holds datagram credential

/-- The query reaches its target, and the device is handed the answer. -/
theorem run_queryTrace :
    ∃ path, Run (Step querySetting)
      (start queryEngine { maxSessions := 1, maxFlowsPerSession := 1 })
      queryTrace path := by
  have captured : Run (Step querySetting)
      (start queryEngine { maxSessions := 1, maxFlowsPerSession := 1 })
      [.quiet] _ := .single (.captured queryFrame)
  have submitted := captured.snoc (@Step.submitted querySetting _ 0 queryFrame
    querySubmission
    ⟨TunFlowRegistry.steady 1, .ok (), TunFlowRegistry.onlineAt 1⟩
    (TunFlowRegistry.onlineAt 1) ⟨some 1200, true⟩ rfl rfl rfl)
  have accepted := submitted.snoc (.served (@Listener.Step.accept _ _ _ _ 0
    rfl) (arrived_of rfl nofun))
  have decoded := accepted.snoc (.served (@Listener.Step.datagramDecoded _ _ _
    _ 0 _ query [7] queryRequest.sessionId queryTarget [] rfl rfl rfl)
    (arrived_of rfl (by
      intro datagram credential same
      cases same
      exact List.mem_cons_self)))
  have began := decoded.snoc (.served (@Listener.Step.admitBegan _ _ _ _ 0 _
    _ _ _ rfl rfl (.admitDatagram rfl rfl)) (arrived_of rfl nofun))
  have opened := began.snoc (.served (@Listener.Step.operated _ _ _ _ 0 _
    (.opened 0 ⟨⟨1⟩, ⟨0⟩⟩) _ rfl nofun rfl trivial (.admitOpened rfl rfl rfl))
    (arrived_of rfl nofun))
  have admitted := opened.snoc (.served (@Listener.Step.admitted _ _ _ _ 0 _
    _ _ _ rfl rfl (.returned rfl)) (arrived_of rfl nofun))
  have passed := admitted.snoc (.served (@Listener.Step.forwardAccepted _ _ _
    _ 0 _ _ _ rfl rfl (.accepted rfl (fun _ _ found => by cases found)
      DatagramRelay.accept_query)) (arrived_of rfl nofun))
  have locked := passed.snoc (.served (@Listener.Step.relayMoved _ _ _ _ 0 _
    _ _ _ rfl (@DatagramRelay.Step.lookupAbsent _ 0 queryRequest rfl
      DatagramRelay.unlocked_query rfl) rfl) (arrived_of rfl nofun))
  have bound := locked.snoc (.served (@Listener.Step.relayMoved _ _ _ _ 0 _ _
    _ _ rfl (@DatagramRelay.Step.bound _ 0 queryRequest rfl) rfl)
    (arrived_of rfl nofun))
  have sent := bound.snoc (.served (@Listener.Step.forwarded _ _ _ _ 0 _ query
    [] 0 queryTarget true _ rfl rfl (@DatagramRelay.Step.sent _ 0 queryRequest
      ⟨queryTarget, 0⟩ queryTarget true rfl rfl)) (arrived_of rfl nofun))
  have answered := sent.snoc (.served (@Listener.Step.relayMoved _ _ _ _ 0 _
    _ _ _ rfl (@DatagramRelay.Step.received _ 0
      ⟨queryRequest.sessionId, queryTarget⟩ [9] queryAnswer rfl (by decide)
      rfl) rfl) (arrived_of rfl nofun))
  have received := answered.snoc (@Step.received querySetting _ 0
    (some queryAnswer) (TunFlowRegistry.onlineAt 1)
    (TunFlowRegistry.onlineAt 1) (TunFlowRegistry.onlineAt 1)
    (TunFlowRegistry.onlineAt 1) rfl (by
      intro envelope same
      cases same
      exact List.mem_cons_self))
  exact ⟨_, received.snoc (@Step.handed querySetting _ (queryFrame ++ [9])
    rfl)⟩

theorem udp_flows_isolated_query :
    ∃ path, Run (Step querySetting)
        (start queryEngine { maxSessions := 1, maxFlowsPerSession := 1 })
        queryTrace path ∧
      Isolated querySetting 1280 queryTrace := by
  obtain ⟨path, run⟩ := run_queryTrace
  exact ⟨path, run, udp_flows_isolated querySetting _ {} 1280 1 queryEngine
    rfl queryTrace path run (by decide)⟩

end UdpPath

end Velum.Tun
