import Velum.Proxy.HalfClose
import Velum.Proxy.Serving

/-!
# What serving a connection can have done

Wherever a connection is cut off and whatever has failed, at most one upstream
connection was opened, along the route that the policy decides on for the
target that the request names.  The upstream is sent the rewritten head and
then the bytes behind the request, and the client is sent the reply and then
the bytes of the upstream.
-/

namespace Velum.Proxy

open Foundation Protocol Routing

/-- A host name may stand for any address, but the port is the requested
one. -/
def ProxyTarget.Names : ProxyTarget → SocketAddr → Prop
  | .address literal, target => target = literal
  | .domain _ port, target => target.port = port

/-- The input begins with a request that names a target. -/
structure Requests (input : List UInt8) (request : ProxyRequest)
    (rest : List UInt8) (target : SocketAddr) : Prop where
  read : readRequest (.ok ()) input = .ok (request, rest)
  named : request.target.Names target

def ProxyRequest.action (request : ProxyRequest) (policy : RoutingPolicy)
    (target : SocketAddr) : RoutingAction :=
  policy.decide ⟨request.target.hostName, target.ip, target.port⟩

/-- The route along which an action may open a connection. -/
def ProxyRuntime.route (runtime : ProxyRuntime) : RoutingAction → Option Route
  | .direct => some .direct
  | .reject => none
  | .proxy => some (.node proxyReference)
  | .node node =>
      if runtime = .pool ∨ node = proxyReference then some (.node node)
      else none

def ConnectProtocol.head (protocol : ConnectProtocol) : List UInt8 :=
  protocol.forwardHead.getD []

section Progress

variable (runtime : ProxyRuntime) (policy : RoutingPolicy)
  (input upstreamOutput : List UInt8)

/-- How far a connection has come. -/
inductive Progress : ProxyWorld → Prop where
  | reading {sent left : List UInt8} (part : sent <+: [5, 0])
      (greeted : sent ≠ [] → input.head? = some 5) :
      Progress ⟨left, sent, [], [], upstreamOutput⟩
  | resolving {request : ProxyRequest} {rest : List UInt8}
      (read : readRequest (.ok ()) input = .ok (request, rest)) :
      Progress ⟨rest, request.protocol.greeting, [], [], upstreamOutput⟩
  | rejecting {request : ProxyRequest} {rest sent : List UInt8}
      {target : SocketAddr} (requests : Requests input request rest target)
      (rejected : request.action policy target = .reject)
      (part : sent <+: request.protocol.rejected) :
      Progress ⟨rest, request.protocol.greeting ++ sent, [], [],
        upstreamOutput⟩
  | replying {request : ProxyRequest} {rest sent : List UInt8}
      {target : SocketAddr} {route : Route}
      (requests : Requests input request rest target)
      (routed : runtime.route (request.action policy target) = some route)
      (part : sent <+: request.protocol.success) :
      Progress ⟨rest, request.protocol.greeting ++ sent, [(route, target)], [],
        upstreamOutput⟩
  | forwarding {request : ProxyRequest} {rest sent : List UInt8}
      {target : SocketAddr} {route : Route}
      (requests : Requests input request rest target)
      (routed : runtime.route (request.action policy target) = some route)
      (part : sent <+: request.protocol.head) :
      Progress ⟨rest, request.protocol.greeting ++ request.protocol.success,
        [(route, target)], sent, upstreamOutput⟩
  | copying {request : ProxyRequest}
      {rest sent answered left pending : List UInt8}
      {target : SocketAddr} {route : Route}
      (requests : Requests input request rest target)
      (routed : runtime.route (request.action policy target) = some route)
      (forth : sent <+: rest) (back : answered <+: upstreamOutput) :
      Progress ⟨left,
        request.protocol.greeting ++ request.protocol.success ++ answered,
        [(route, target)], request.protocol.head ++ sent, pending⟩

/-- A connection that is served without a failure has copied all that the
upstream has sent, and all that the client has sent if it is a direct one.
One that the policy rejects is told so, and opens nothing. -/
structure Finished (result : Except ServeFailure Unit) (world : ProxyWorld) :
    Prop where
  progress : Progress runtime policy input upstreamOutput world
  served : result = .ok () →
    ∃ request rest target route, Requests input request rest target ∧
      runtime.route (request.action policy target) = some route ∧
      world.opened = [(route, target)] ∧
      world.output = request.protocol.greeting ++ request.protocol.success ++
        upstreamOutput ∧
      (route = .direct → world.upstreamInput = request.protocol.head ++ rest)
  rejected : result = .error .rejected →
    ∃ request rest target, Requests input request rest target ∧
      request.action policy target = .reject ∧ world.opened = [] ∧
      world.output = request.protocol.greeting ++ request.protocol.rejected

end Progress

/-! ## The relay -/

/-- Whatever its loops do, the relay copies what it is sent, and all that the
upstream has sent if it returns without a failure. -/
theorem ProxyWorld.copies_of_relays {world after : ProxyWorld}
    {reply : Except ServeFailure Unit} (relays : world.Relays reply after) :
    world.Copies False reply after := by
  obtain ⟨trace, relay, left, pending, run, input, output, whole, rfl,
    ended⟩ := relays
  have sound := Relay.sound_of_run run
  have upstream := sound.copies .upstream
  have downstream := sound.copies .downstream
  refine ⟨_, _, left, pending, upstream.written_prefix.trans input,
    downstream.written_prefix.trans output, rfl, ?_⟩
  rcases ended with failed | ⟨rfl, done⟩
  · exact .inl failed
  · refine .inr ⟨rfl, ?_, False.elim⟩
    rw [downstream.written_of_done done]
    exact whole (downstream.atEnd (.inr done)).2

/-- Nothing keeps the relay from copying everything. -/
theorem ProxyWorld.relays_all (world : ProxyWorld) :
    world.Relays (.ok ()) { world with
      input := []
      output := world.output ++ world.upstreamOutput
      upstreamInput := world.upstreamInput ++ world.input
      upstreamOutput := [] } := by
  let asked := Relay.setCopy {} .upstream
    { sent := world.input, written := world.input }
  let copied := asked.setCopy .downstream
    { sent := world.upstreamOutput, written := world.upstreamOutput }
  have untouched : asked.copy .downstream = {} := rfl
  obtain ⟨forth, sent⟩ := @Relay.exists_copied relayHalves (by decide)
    .upstream world.input {} [] [] rfl
  obtain ⟨back, answered⟩ := @Relay.exists_copied relayHalves (by decide)
    .downstream world.upstreamOutput asked [] [] untouched
  obtain ⟨relay, ends, forthWritten, backWritten, returned⟩ : ∃ relay,
      Run (Relay.Step relayHalves) copied
        [.ends .downstream, .readsEnd .downstream, .closes .downstream]
        relay ∧
      ((relay.copy .upstream).sent = world.input ∧
        (relay.copy .upstream).written = world.input) ∧
      ((relay.copy .downstream).sent = world.upstreamOutput ∧
        (relay.copy .downstream).written = world.upstreamOutput) ∧
      (relay.copy .downstream).stage = .done := by
    refine ⟨_, Run.of_foldlM rfl, ?_, ?_, ?_⟩
    · exact ⟨rfl, rfl⟩
    · exact ⟨rfl, rfl⟩
    · rfl
  refine ⟨_, relay, [], [], (sent.append answered).append ends, ?_, ?_, ?_,
    ?_, .inr ⟨rfl, returned⟩⟩
  · rw [forthWritten.1]
  · rw [backWritten.1]
  · exact fun _ => backWritten.1
  · rw [forthWritten.2, backWritten.2]

/-! ## Rules for the parts of the script -/

section Rules

variable {safe : ProxyWorld → ProxyCall → Prop}
  {post : Except ServeFailure Unit → ProxyWorld → Prop}
  {protocol : ConnectProtocol} {world : ProxyWorld}

theorem guarantees_writeSuccess (allowed : ∀ call, safe world call)
    (fails : ∀ sent, sent <+: protocol.success → post (.error .transport)
      { world with output := world.output ++ sent })
    (writes : post (.ok ())
      { world with output := world.output ++ protocol.success }) :
    Script.Guarantees ProxyWorld.Answers safe post (writeSuccess protocol)
      world := by
  have written : ∀ reply after, world.Writes protocol.success reply after →
      post reply after := by
    rintro reply after (⟨sent, part, rfl, rfl⟩ | ⟨rfl, rfl⟩)
    · exact fails sent part
    · exact writes
  cases protocol with
  | httpConnect => exact ⟨allowed _, written⟩
  | socks5 => exact ⟨allowed _, written⟩
  | httpForward head =>
      have silent : world.output ++ (ConnectProtocol.httpForward head).success =
          world.output := List.append_nil _
      rw [silent] at writes
      exact writes

theorem guarantees_writeForwardHead (allowed : ∀ call, safe world call)
    (fails : ∀ failure sent, failure ≠ .rejected → sent <+: protocol.head →
      post (.error failure)
        { world with upstreamInput := world.upstreamInput ++ sent })
    (writes : post (.ok ())
      { world with upstreamInput := world.upstreamInput ++ protocol.head }) :
    Script.Guarantees ProxyWorld.Answers safe post (writeForwardHead protocol)
      world := by
  cases protocol with
  | httpForward head =>
      refine ⟨allowed _, ?_⟩
      rintro reply after (⟨failure, sent, part, other, rfl, rfl⟩ | ⟨rfl, rfl⟩)
      · exact fails failure sent other part
      · exact writes
  | httpConnect =>
      have silent : world.upstreamInput ++ ConnectProtocol.httpConnect.head =
          world.upstreamInput := List.append_nil _
      rw [silent] at writes
      exact writes
  | socks5 =>
      have silent : world.upstreamInput ++ ConnectProtocol.socks5.head =
          world.upstreamInput := List.append_nil _
      rw [silent] at writes
      exact writes

end Rules

/-! ## Steps of a connection -/

section Steps

variable {runtime : ProxyRuntime} {policy : RoutingPolicy}
  {input upstreamOutput : List UInt8}

/-- Failing leaves a connection where it is. -/
theorem Progress.failed {world : ProxyWorld} {failure : ServeFailure}
    (progress : Progress runtime policy input upstreamOutput world)
    (other : failure ≠ .rejected) :
    Finished runtime policy input upstreamOutput (.error failure) world where
  progress := progress
  served := fun done => by cases done
  rejected := by
    intro same
    cases same
    exact absurd rfl other

variable {request : ProxyRequest} {rest : List UInt8} {target : SocketAddr}
  {route : Route}

section Opened

variable (requests : Requests input request rest target)
  (routed : runtime.route (request.action policy target) = some route)

include requests routed in
theorem finished_of_copies {awaited : Prop} (direct : route = .direct → awaited)
    {reply : Except ServeFailure Unit} {after : ProxyWorld}
    (copies : ProxyWorld.Copies ⟨rest,
      request.protocol.greeting ++ request.protocol.success,
      [(route, target)], request.protocol.head, upstreamOutput⟩ awaited reply
      after) :
    Finished runtime policy input upstreamOutput reply after := by
  obtain ⟨sent, answered, left, pending, forth, back, rfl, ended⟩ := copies
  have progress := @Progress.copying runtime policy input upstreamOutput request
    rest sent answered left pending target route requests routed forth back
  rcases ended with ⟨failure, other, rfl⟩ | ⟨rfl, rfl, whole⟩
  · exact progress.failed other
  · refine ⟨progress, fun _ => ?_, ?_⟩
    · refine ⟨request, rest, target, route, requests, routed, rfl, rfl, ?_⟩
      intro chosen
      rw [whole (direct chosen)]
    · intro refused
      cases refused

include requests routed in
/-- A client that has been greeted is answered, the upstream is sent the head
of a forwarded request, and copying begins. -/
theorem guarantees_answer {copy : ProxyScript Unit}
    (copies : Script.Guarantees ProxyWorld.Answers
      (fun world _ => Progress runtime policy input upstreamOutput world)
      (Finished runtime policy input upstreamOutput) copy ⟨rest,
        request.protocol.greeting ++ request.protocol.success,
        [(route, target)], request.protocol.head, upstreamOutput⟩) :
    Script.Guarantees ProxyWorld.Answers
      (fun world _ => Progress runtime policy input upstreamOutput world)
      (Finished runtime policy input upstreamOutput)
      (do
        writeSuccess request.protocol
        writeForwardHead request.protocol
        copy : ProxyScript Unit)
      ⟨rest, request.protocol.greeting, [(route, target)], [],
        upstreamOutput⟩ := by
  have replying : ∀ sent, sent <+: request.protocol.success →
      Progress runtime policy input upstreamOutput ⟨rest,
        request.protocol.greeting ++ sent, [(route, target)], [],
        upstreamOutput⟩ := fun sent part => .replying requests routed part
  have forwarding : ∀ sent, sent <+: request.protocol.head →
      Progress runtime policy input upstreamOutput ⟨rest,
        request.protocol.greeting ++ request.protocol.success,
        [(route, target)], sent, upstreamOutput⟩ :=
    fun sent part => .forwarding requests routed part
  refine Script.guarantees_bind_except.mpr ?_
  apply guarantees_writeSuccess
  · intro call
    have started := replying [] List.nil_prefix
    rwa [List.append_nil] at started
  · intro sent part
    exact (replying sent part).failed (by decide)
  · refine Script.guarantees_bind_except.mpr ?_
    apply guarantees_writeForwardHead
    · exact fun call => forwarding [] List.nil_prefix
    · intro failure sent other part
      exact (forwarding sent part).failed other
    · exact copies

end Opened

theorem guarantees_relayStream {reference : Text}
    (requests : Requests input request rest target)
    (routed : runtime.route (request.action policy target) =
      some (.node reference)) :
    Script.Guarantees ProxyWorld.Answers
      (fun world _ => Progress runtime policy input upstreamOutput world)
      (Finished runtime policy input upstreamOutput)
      (relayStream request.protocol)
      ⟨rest, request.protocol.greeting, [(.node reference, target)], [],
        upstreamOutput⟩ := by
  apply guarantees_answer requests routed
  refine ⟨.forwarding requests routed List.prefix_rfl, ?_⟩
  intro reply after relays
  apply finished_of_copies requests routed ?_
    (ProxyWorld.copies_of_relays relays)
  intro direct
  cases direct

theorem guarantees_relayProxy {reference : Text}
    (requests : Requests input request rest target)
    (routed : runtime = .pool ∨ reference = proxyReference →
      runtime.route (request.action policy target) =
        some (.node reference)) :
    Script.Guarantees ProxyWorld.Answers
      (fun world _ => Progress runtime policy input upstreamOutput world)
      (Finished runtime policy input upstreamOutput)
      (relayProxy runtime reference target request.protocol)
      ⟨rest, request.protocol.greeting, [], [], upstreamOutput⟩ := by
  have quiet : Progress runtime policy input upstreamOutput
      ⟨rest, request.protocol.greeting, [], [], upstreamOutput⟩ :=
    .resolving requests.read
  have opened : ∀ chosen : runtime = .pool ∨ reference = proxyReference,
      Progress runtime policy input upstreamOutput ⟨rest,
        request.protocol.greeting, [(.node reference, target)], [],
        upstreamOutput⟩ := by
    intro chosen
    have started := @Progress.replying runtime policy input upstreamOutput
      request rest [] target _ requests (routed chosen) List.nil_prefix
    rwa [List.append_nil] at started
  cases runtime with
  | single =>
      rw [relayProxy]
      by_cases own : reference = proxyReference
      · rw [if_pos own]
        refine Script.guarantees_bind_except.mpr ⟨quiet, ?_⟩
        rintro reply after (⟨failure, other, rfl, rfl⟩ | ⟨rfl, rfl⟩)
        · exact quiet.failed other
        refine Script.guarantees_bind_except.mpr ⟨opened (.inr own), ?_⟩
        rintro reply after ⟨⟨online, rfl⟩, rfl⟩
        cases online with
        | false => exact (opened (.inr own)).failed (by decide)
        | true => exact guarantees_relayStream requests (routed (.inr own))
      · rw [if_neg own]
        exact quiet.failed (by decide)
  | pool =>
      refine Script.guarantees_bind_except.mpr ⟨quiet, ?_⟩
      rintro reply after (⟨failure, other, rfl, rfl⟩ | ⟨rfl, rfl⟩)
      · exact quiet.failed other
      · exact guarantees_relayStream requests (routed (.inl rfl))

theorem guarantees_direct (requests : Requests input request rest target)
    (routed : runtime.route (request.action policy target) = some .direct) :
    Script.Guarantees ProxyWorld.Answers
      (fun world _ => Progress runtime policy input upstreamOutput world)
      (Finished runtime policy input upstreamOutput)
      (do
        ProxyScript.connect target
        writeSuccess request.protocol
        writeForwardHead request.protocol
        ProxyScript.copyBidirectional : ProxyScript Unit)
      ⟨rest, request.protocol.greeting, [], [], upstreamOutput⟩ := by
  have quiet : Progress runtime policy input upstreamOutput
      ⟨rest, request.protocol.greeting, [], [], upstreamOutput⟩ :=
    .resolving requests.read
  refine Script.guarantees_bind_except.mpr ⟨quiet, ?_⟩
  rintro reply after (⟨failure, other, rfl, rfl⟩ | ⟨rfl, rfl⟩)
  · exact quiet.failed other
  apply guarantees_answer requests routed
  refine ⟨.forwarding requests routed List.prefix_rfl, ?_⟩
  intro reply after copies
  exact finished_of_copies requests routed (fun _ => trivial) copies

theorem guarantees_reject (requests : Requests input request rest target)
    (rejected : request.action policy target = .reject) :
    Script.Guarantees ProxyWorld.Answers
      (fun world _ => Progress runtime policy input upstreamOutput world)
      (Finished runtime policy input upstreamOutput)
      (do
        writeRejected request.protocol
        throw .rejected : ProxyScript Unit)
      ⟨rest, request.protocol.greeting, [], [], upstreamOutput⟩ := by
  have quiet : Progress runtime policy input upstreamOutput
      ⟨rest, request.protocol.greeting, [], [], upstreamOutput⟩ :=
    .resolving requests.read
  have rejecting : ∀ sent, sent <+: request.protocol.rejected →
      Progress runtime policy input upstreamOutput ⟨rest,
        request.protocol.greeting ++ sent, [], [], upstreamOutput⟩ :=
    fun sent part => .rejecting requests rejected part
  refine Script.guarantees_bind_except.mpr ⟨quiet, ?_⟩
  rintro reply after (⟨sent, part, rfl, rfl⟩ | ⟨rfl, rfl⟩)
  · exact (rejecting sent part).failed (by decide)
  · refine ⟨rejecting _ List.prefix_rfl, ?_, fun _ => ?_⟩
    · intro served
      cases served
    · exact ⟨request, rest, target, requests, rejected, rfl, rfl⟩

/-- What follows when the request has been read and its target is known. -/
theorem guarantees_decided (requests : Requests input request rest target) :
    Script.Guarantees ProxyWorld.Answers
      (fun world _ => Progress runtime policy input upstreamOutput world)
      (Finished runtime policy input upstreamOutput)
      (match policy.decide
          ⟨request.target.hostName, target.ip, target.port⟩ with
        | .direct => do
            ProxyScript.connect target
            writeSuccess request.protocol
            writeForwardHead request.protocol
            ProxyScript.copyBidirectional
        | .proxy => relayProxy runtime proxyReference target request.protocol
        | .reject => do
            writeRejected request.protocol
            throw .rejected
        | .node node => relayProxy runtime node target request.protocol :
          ProxyScript Unit)
      ⟨rest, request.protocol.greeting, [], [], upstreamOutput⟩ := by
  cases decided : policy.decide
      ⟨request.target.hostName, target.ip, target.port⟩ with
  | direct =>
      apply guarantees_direct requests
      rw [ProxyRequest.action, decided, ProxyRuntime.route]
  | proxy =>
      apply guarantees_relayProxy requests
      intro _
      rw [ProxyRequest.action, decided, ProxyRuntime.route]
  | reject => exact guarantees_reject requests decided
  | node node =>
      apply guarantees_relayProxy requests
      intro chosen
      rw [ProxyRequest.action, decided, ProxyRuntime.route, if_pos chosen]

theorem guarantees_serve :
    Script.Guarantees ProxyWorld.Answers
      (fun world _ => Progress runtime policy input upstreamOutput world)
      (Finished runtime policy input upstreamOutput) (serve runtime policy)
      ⟨input, [], [], [], upstreamOutput⟩ := by
  have unread : ∀ sent left, sent <+: [5, 0] →
      (sent ≠ [] → input.head? = some 5) →
      Progress runtime policy input upstreamOutput
        ⟨left, sent, [], [], upstreamOutput⟩ :=
    fun sent left part greeted => .reading part greeted
  refine Script.guarantees_bind_except.mpr ⟨?_, ?_⟩
  · exact unread [] input List.nil_prefix (fun sent => absurd rfl sent)
  rintro reply after (⟨failure, sent, left, rfl, other, part, greeted, rfl⟩ |
    ⟨request, rest, read, rfl, rfl⟩)
  · exact (unread sent left part greeted).failed other
  have quiet : Progress runtime policy input upstreamOutput
      ⟨rest, request.protocol.greeting, [], [], upstreamOutput⟩ :=
    .resolving read
  refine Script.guarantees_bind_except.mpr ?_
  cases named : request.target with
  | address literal =>
      have requests : Requests input request rest literal :=
        ⟨read, by rw [named]; exact rfl⟩
      have decided := @guarantees_decided runtime policy input upstreamOutput
        request rest literal requests
      rw [named] at decided
      exact decided
  | domain host port =>
      refine ⟨quiet, ?_⟩
      rintro reply after ⟨⟨failure, other, rfl⟩ | ⟨address, same, rfl⟩, rfl⟩
      · exact quiet.failed other
      · have requests : Requests input request rest address :=
          ⟨read, by rw [named]; exact same⟩
        have decided := @guarantees_decided runtime policy input upstreamOutput
          request rest address requests
        rw [named] at decided
        exact decided

/-- Wherever the connection is cut off, it is in one of the stages, and at the
end it has done what its result says. -/
theorem proxy_serves :
    (∀ final, Script.Leads ProxyWorld.Answers ⟨input, [], [], [],
      upstreamOutput⟩ (serve runtime policy) final →
        Progress runtime policy input upstreamOutput final) ∧
    ∀ result final, Script.Ends ProxyWorld.Answers ⟨input, [], [], [],
      upstreamOutput⟩ (serve runtime policy) result final →
        Finished runtime policy input upstreamOutput result final := by
  have held := @guarantees_serve runtime policy input upstreamOutput
  refine ⟨?_, fun result final ended => held.of_ends ended⟩
  intro final cut
  exact held.of_leads (fun kept => kept) (fun ends => ends.progress) cut

end Steps

/-! ## A run without failures -/

def ProxyWorld.perform (world : ProxyWorld) :
    (call : ProxyCall) → call.Reply × ProxyWorld
  | .readRequest =>
      match readRequest (.ok ()) world.input with
      | .ok (request, rest) => (.ok request, { world with
          input := rest
          output := world.output ++ request.protocol.greeting })
      | .error failure => (.error (.io failure), world)
  | .lookupHost _ _ => (.error .transport, world)
  | .connect target =>
      (.ok (), { world with opened := world.opened ++ [(.direct, target)] })
  | .openStream reference target => (.ok (), { world with
      opened := world.opened ++ [(.node reference, target)] })
  | .isGenerationOnline => (.ok true, world)
  | .write bytes => (.ok (), { world with output := world.output ++ bytes })
  | .writeUpstream bytes =>
      (.ok (), { world with upstreamInput := world.upstreamInput ++ bytes })
  | .copyBidirectional | .relayHalves => (.ok (), { world with
      input := []
      output := world.output ++ world.upstreamOutput
      upstreamInput := world.upstreamInput ++ world.input
      upstreamOutput := [] })

theorem ProxyWorld.copies_all (world : ProxyWorld) :
    world.Copies True (.ok ()) { world with
      input := []
      output := world.output ++ world.upstreamOutput
      upstreamInput := world.upstreamInput ++ world.input
      upstreamOutput := [] } :=
  ⟨world.input, world.upstreamOutput, [], [], List.prefix_rfl,
    List.prefix_rfl, rfl, .inr ⟨rfl, rfl, fun _ => rfl⟩⟩

theorem ProxyWorld.answers_perform (world : ProxyWorld) (call : ProxyCall) :
    world.Answers call (world.perform call).1 (world.perform call).2 := by
  cases call with
  | readRequest =>
      cases read : Proxy.readRequest (.ok ()) world.input with
      | error failure =>
          simp only [ProxyWorld.perform, read]
          refine .inl ⟨.io failure, [], world.input, rfl, by simp,
            List.nil_prefix, fun sent => absurd rfl sent, ?_⟩
          rw [List.append_nil]
      | ok found =>
          simp only [ProxyWorld.perform, read]
          exact .inr ⟨found.1, found.2, read, rfl, rfl⟩
  | lookupHost host port => exact ⟨.inl ⟨.transport, by simp, rfl⟩, rfl⟩
  | connect target => exact .inr ⟨rfl, rfl⟩
  | openStream reference target => exact .inr ⟨rfl, rfl⟩
  | isGenerationOnline => exact ⟨⟨true, rfl⟩, rfl⟩
  | write bytes => exact .inr ⟨rfl, rfl⟩
  | writeUpstream bytes => exact .inr ⟨rfl, rfl⟩
  | copyBidirectional => exact world.copies_all
  | relayHalves => exact world.relays_all

/-- A request for a stream to port 80 of the own host, and one byte for it. -/
def ownHostRequest : List UInt8 :=
  [5, 1, 0] ++ [5, 1, 0, 1, 127, 0, 0, 1, 0, 80] ++ [9]

theorem length_loopback : ([127, 0, 0, 1] : List UInt8).length = 4 := rfl

def ownHostAnswered : ProxyWorld where
  input := []
  output := [5, 0] ++ [5, 0, 0, 1, 0, 0, 0, 0, 0, 0] ++ [7, 8]
  opened := [(.node proxyReference,
    SocketAddr.new (.v4 ⟨[127, 0, 0, 1], length_loopback⟩) 80)]
  upstreamInput := [9]
  upstreamOutput := []

/-- The policy without rules. -/
def plainPolicy : RoutingPolicy := ⟨[], by decide⟩

theorem proxy_serves_sample : Finished .single plainPolicy ownHostRequest [7, 8]
    (.ok ()) ownHostAnswered := by
  have run := Script.ends_run ProxyWorld.answers_perform
    (serve .single plainPolicy) ⟨ownHostRequest, [], [], [], [7, 8]⟩
  have done : Script.run ProxyWorld.perform (serve .single plainPolicy)
      ⟨ownHostRequest, [], [], [], [7, 8]⟩ = (.ok (), ownHostAnswered) := by
    decide +kernel
  rw [done] at run
  exact proxy_serves.2 _ _ run

end Velum.Proxy
