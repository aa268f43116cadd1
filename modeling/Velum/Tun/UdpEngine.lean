import Velum.Tun.Leases

/-!
# The datagram engine of a tunnel

The engine moves frames between two bounded queues and the relay.  Its
registry and its association table are written by separate calls, and a send
can fail between them and the next frame; the two stay in step because a flow
is associated whenever it is admitted.
-/

namespace Velum.Tun

open Foundation Protocol Velum.Runtime

inductive FrameQueueError where
  | oversized
  | full
  deriving DecidableEq, Repr

structure TunFrameQueue where
  mtu : Nat
  capacity : Nat
  inbound : List (List UInt8)
  outbound : List (List UInt8)

namespace TunFrameQueue

def new (mtu capacity : Nat) : Except TunAdapterConfigError TunFrameQueue :=
  if mtu < 576 ∨ capacity = 0 then .error .frameQueue
  else .ok ⟨mtu, capacity, [], []⟩

def pushInbound (queue : TunFrameQueue) (frame : List UInt8) :
    Except FrameQueueError Unit × TunFrameQueue :=
  if queue.mtu < frame.length then (.error .oversized, queue)
  else if queue.inbound.length = queue.capacity then (.error .full, queue)
  else (.ok (), { queue with inbound := queue.inbound ++ [frame] })

def popOutbound (queue : TunFrameQueue) :
    Option (List UInt8) × TunFrameQueue :=
  (queue.outbound.head?, { queue with outbound := queue.outbound.tail })

def popInbound (queue : TunFrameQueue) :
    Option (List UInt8) × TunFrameQueue :=
  (queue.inbound.head?, { queue with inbound := queue.inbound.tail })

def pushOutbound (queue : TunFrameQueue) (frame : List UInt8) :
    Except FrameQueueError Unit × TunFrameQueue :=
  if queue.mtu < frame.length then (.error .oversized, queue)
  else if queue.outbound.length = queue.capacity then (.error .full, queue)
  else (.ok (), { queue with outbound := queue.outbound ++ [frame] })

end TunFrameQueue

inductive TunUdpEngineError where
  | queue (error : FrameQueueError)
  | forward (error : UdpForwardError)
  | receive (error : UdpReceiveError)
  deriving DecidableEq, Repr

structure TunUdpEngine where
  queue : TunFrameQueue
  registry : TunFlowRegistry
  associations : UdpAssociationTable

namespace TunUdpEngine

def new (limits : TunAdapterLimits) (mtu queueCapacity : Nat) :
    Except TunAdapterConfigError TunUdpEngine := do
  let queue ← TunFrameQueue.new mtu queueCapacity
  let associations ← UdpAssociationTable.new limits.maxUdpAssociations
  let registry ← TunFlowRegistry.new limits
  return { queue, registry, associations }

def pushInbound (engine : TunUdpEngine) (frame : List UInt8) :
    Except FrameQueueError Unit × TunUdpEngine :=
  let (pushed, queue) := engine.queue.pushInbound frame
  (pushed, { engine with queue })

/-- Forwards one queued packet, if any.  A caller that gives up while the send
is awaited leaves the state that the call would have left. -/
def forwardNext (engine : TunUdpEngine) (views : PacketViews)
    (awaited : Awaited Unit) :
    Outcome SessionFault TunUdpEngineError (Option UInt64) × TunUdpEngine :=
  match engine.queue.popInbound with
  | (none, queue) => (.ok none, { engine with queue })
  | (some frame, queue) =>
      let (sent, registry, associations) :=
        engine.registry.forwardUdp views frame engine.associations awaited
      (sent.bimap some .forward, { queue, registry, associations })

/-- Receives one relay datagram and queues its authenticated response. -/
def receiveNext (engine : TunUdpEngine) (views : PacketViews)
    (response : Except RuntimeError ClientDatagram)
    (snapshot online : RuntimeSnapshot) :
    Except TunUdpEngineError Unit × TunUdpEngine :=
  match engine.registry.receiveUdp views engine.associations engine.queue.mtu
      response snapshot online with
  | .error failure => (.error (.receive failure), engine)
  | .ok frame =>
      let (pushed, queue) := engine.queue.pushOutbound frame
      (pushed.mapError .queue, { engine with queue })

def popOutbound (engine : TunUdpEngine) :
    Option (List UInt8) × TunUdpEngine :=
  let (frame, queue) := engine.queue.popOutbound
  (frame, { engine with queue })

/-- Invalidates all packet-to-runtime associations after stop or
replacement. -/
def clear (engine : TunUdpEngine) : TunUdpEngine :=
  { engine with
    registry := engine.registry.clear
    associations := engine.associations.clear }

/-! ## Registry and associations in step -/

/-- The leases of captured datagram flows are those of associated flows. -/
structure InStep (registry : TunFlowRegistry)
    (associations : UdpAssociationTable) : Prop where
  paired : associations.Paired
  within : registry.WithinLimits
  sameLimit : associations.limit = registry.limits.maxUdpAssociations
  sameFlows : ∀ flow, flow.protocol = .udp →
    (registry.flows.get? flow = none ↔
      associations.byFlow.get? flow = none)
  sameCount : registry.used .udp = associations.byFlow.size

namespace InStep

variable {registry : TunFlowRegistry} {associations : UdpAssociationTable}

theorem cleared (step : InStep registry associations) :
    InStep registry.clear associations.clear where
  paired := step.paired.clear
  within := fun _ => Nat.zero_le _
  sameLimit := step.sameLimit
  sameFlows := fun _ _ => iff_of_true rfl rfl
  sameCount := rfl

theorem limit_eq (step : InStep registry associations) {flow : FlowKey}
    (udp : flow.protocol = .udp) :
    registry.limit flow = associations.limit.toNat := by
  rw [TunFlowRegistry.limit, udp, step.sameLimit]
  rfl

/-- A flow with a lease of any generation holds one of the used slots. -/
theorem used_of_leased {flow : FlowKey} {lease : FlowLease}
    (udp : flow.protocol = .udp)
    (leased : registry.flows.get? flow = some lease) :
    registry.used .udp = 1 + registry.others flow := by
  have counted := OrderedMap.length_filter_of_get? leased
    (·.1.protocol = .udp)
  simpa [TunFlowRegistry.used, TunFlowRegistry.others,
    TunFlowRegistry.without, udp] using counted

theorem used_lease (registry : TunFlowRegistry) {flow : FlowKey}
    (udp : flow.protocol = .udp) (generation : UInt64) :
    (registry.lease flow generation).used .udp =
      1 + registry.others flow := by
  rw [registry.used_lease, if_pos udp, TunFlowRegistry.others, udp]

/-- Renewing the lease of an associated flow changes neither set of flows. -/
theorem renew (step : InStep registry associations) {flow : FlowKey}
    {old : FlowLease} (udp : flow.protocol = .udp)
    (leased : registry.flows.get? flow = some old)
    (room : registry.others flow < registry.limit flow)
    (generation : UInt64) :
    InStep (registry.lease flow generation) associations where
  paired := step.paired
  within := step.within.lease room generation
  sameLimit := step.sameLimit
  sameFlows := by
    intro other otherUdp
    rw [← step.sameFlows other otherUdp]
    by_cases same : other = flow
    · subst same
      rw [leased]
      exact iff_of_false
        (by simp [TunFlowRegistry.lease]) (Option.some_ne_none old)
    · rw [TunFlowRegistry.lease, OrderedMap.get?_insert_of_ne _ _ same]
  sameCount := by
    rw [used_lease registry udp, ← used_of_leased udp leased]
    exact step.sameCount

/-- A new lease and a new association go together. -/
theorem associate (step : InStep registry associations) {flow : FlowKey}
    (udp : flow.protocol = .udp)
    (unleased : registry.flows.get? flow = none)
    (room : registry.others flow < registry.limit flow)
    (generation : UInt64) {session : DatagramSessionId} {next : UInt64}
    (paired : (associations.associate flow session next).Paired) :
    InStep (registry.lease flow generation)
      (associations.associate flow session next) where
  paired := paired
  within := step.within.lease room generation
  sameLimit := step.sameLimit
  sameFlows := by
    intro other otherUdp
    by_cases same : other = flow
    · subst same
      exact iff_of_false (by simp [TunFlowRegistry.lease])
        (by simp [UdpAssociationTable.associate])
    · rw [TunFlowRegistry.lease, UdpAssociationTable.associate,
        OrderedMap.get?_insert_of_ne _ _ same,
        OrderedMap.get?_insert_of_ne _ _ same]
      exact step.sameFlows other otherUdp
  sameCount := by
    have unknown := (step.sameFlows flow udp).mp unleased
    have count := step.sameCount
    rw [used_lease registry udp, TunFlowRegistry.others,
      TunFlowRegistry.without_of_absent unleased, udp, count,
      UdpAssociationTable.associate,
      OrderedMap.size_insert_of_absent unknown, Nat.add_comm]

/-- An admission either refuses a flow and leaves the registry as it was, or
admits a flow that the table then finds a session for. -/
theorem admitFlow (step : InStep registry associations) {flow : FlowKey}
    (udp : flow.protocol = .udp) (reads : Reads) :
    (∃ failure, registry.admitFlow reads flow = (.error failure, registry)) ∨
    ∃ generation admitted session associated,
      registry.admitFlow reads flow = (.ok generation, admitted) ∧
      associations.sessionFor flow = (.ok session, associated) ∧
      InStep admitted associated := by
  have known : registry.flows.get? flow ≠ none → ∃ session,
      associations.sessionFor flow = (.ok session, associations) := by
    intro leased
    obtain ⟨session, found⟩ := Option.ne_none_iff_exists'.mp
      (mt (step.sameFlows flow udp).mpr leased)
    exact ⟨session, step.paired.sessionFor_of_get? found⟩
  rcases registry.admitFlow_cases reads flow with
    ⟨_, same⟩ | ⟨generation, _, ⟨leased, same⟩ | ⟨unleased, full, same⟩ |
      ⟨unleased, room, same⟩⟩
  · exact .inl ⟨_, same⟩
  · obtain ⟨session, looked⟩ := known (by simp [leased])
    exact .inr ⟨generation, registry, session, associations, same, looked,
      step⟩
  · -- A lease of the flow itself would leave room for it.
    cases stored : registry.flows.get? flow with
    | none =>
        rw [TunFlowRegistry.without_of_absent stored] at same
        exact .inl ⟨_, same⟩
    | some old =>
        have slots := used_of_leased udp stored
        have within := step.within .udp
        rw [TunFlowRegistry.limit, udp] at full
        omega
  · right
    cases stored : registry.flows.get? flow with
    | some old =>
        obtain ⟨session, looked⟩ := known (by simp [stored])
        exact ⟨generation, _, session, associations, same, looked,
          step.renew udp stored room generation⟩
    | none =>
        have unknown := (step.sameFlows flow udp).mp stored
        have free : associations.byFlow.size ≠ associations.limit.toNat := by
          have slots := room
          rw [step.limit_eq udp, TunFlowRegistry.others,
            TunFlowRegistry.without_of_absent stored, udp,
            step.sameCount] at slots
          omega
        rcases step.paired.sessionFor_cases flow with
          ⟨other, _⟩ | ⟨_, found, _⟩ | ⟨_, _, full, _⟩ |
            ⟨_, _, _, session, next, nonzero, unused, looked⟩
        · exact absurd udp other
        · rw [unknown] at found
          cases found
        · exact absurd full free
        · exact ⟨generation, _, session, _, same, looked,
            step.associate udp stored room generation
              (step.paired.associate udp unknown free nonzero unused)⟩

/-- Forwarding keeps both in step, returns, and never fails for an
association. -/
theorem forwardUdp (step : InStep registry associations)
    (views : PacketViews) (frame : List UInt8) (awaited : Awaited Unit) :
    InStep (registry.forwardUdp views frame associations awaited).2.1
      (registry.forwardUdp views frame associations awaited).2.2 ∧
    (registry.forwardUdp views frame associations awaited).1.Returned ∧
    ∀ failure,
      (registry.forwardUdp views frame associations awaited).1 ≠
        .err (.association failure) := by
  unfold TunFlowRegistry.forwardUdp
  cases classified : views.classifyIpv4Packet frame with
  | error failure =>
      exact ⟨step, trivial, fun _ same => by cases same⟩
  | ok flow =>
      cases extracted : views.udpPayload frame with
      | error failure =>
          exact ⟨step, trivial, fun _ same => by cases same⟩
      | ok payload =>
          have udp := views.udp_of_udpPayload classified extracted
          rcases step.admitFlow udp awaited.reads with
            ⟨failure, refused⟩ |
              ⟨generation, admitted, session, associated, admits, looked,
                after⟩
          · simp only [refused]
            exact ⟨step, trivial, fun _ same => by cases same⟩
          · simp only [admits, looked]
            cases awaited.answer with
            | error failure =>
                exact ⟨after, trivial, fun _ same => by cases same⟩
            | ok sent =>
                simp only
                split
                · exact ⟨after, trivial, fun _ same => by cases same⟩
                · exact ⟨after, trivial, fun _ same => by cases same⟩

end InStep

/-! ## Runs of an engine -/

inductive Call where
  | pushInbound (frame : List UInt8)
  | forwardNext (views : PacketViews) (awaited : Awaited Unit)
  | receiveNext (views : PacketViews)
      (response : Except RuntimeError ClientDatagram)
      (snapshot online : RuntimeSnapshot)
  | popOutbound
  | clear

def perform (engine : TunUdpEngine) : Call → TunUdpEngine
  | .pushInbound frame => (engine.pushInbound frame).2
  | .forwardNext views awaited => (engine.forwardNext views awaited).2
  | .receiveNext views response snapshot online =>
      (engine.receiveNext views response snapshot online).2
  | .popOutbound => engine.popOutbound.2
  | .clear => engine.clear

def Step (before : TunUdpEngine) (call : Call) (after : TunUdpEngine) :
    Prop :=
  after = before.perform call

theorem inStep_forwardNext {engine : TunUdpEngine}
    (step : InStep engine.registry engine.associations) (views : PacketViews)
    (awaited : Awaited Unit) :
    InStep (engine.forwardNext views awaited).2.registry
      (engine.forwardNext views awaited).2.associations ∧
    (engine.forwardNext views awaited).1.Returned ∧
    ∀ failure, (engine.forwardNext views awaited).1 ≠
      .err (.forward (.association failure)) := by
  unfold forwardNext
  split
  next queue popped =>
      exact ⟨step, trivial, fun _ same => by cases same⟩
  next frame queue popped =>
      obtain ⟨after, returned, unassociated⟩ :=
        step.forwardUdp views frame awaited
      refine ⟨after, (Outcome.returned_bimap _ _ _).mpr returned, ?_⟩
      intro failure same
      simp only at same
      cases outcome : (engine.registry.forwardUdp views frame
          engine.associations awaited).1 with
      | ok generation =>
          rw [outcome] at same
          cases same
      | err error =>
          rw [outcome] at same
          cases same
          exact unassociated failure outcome
      | panic fault =>
          rw [outcome] at same
          cases same

theorem receiveNext_keeps (engine : TunUdpEngine) (views : PacketViews)
    (response : Except RuntimeError ClientDatagram)
    (snapshot online : RuntimeSnapshot) :
    (engine.receiveNext views response snapshot online).2.registry =
        engine.registry ∧
      (engine.receiveNext views response snapshot online).2.associations =
        engine.associations := by
  unfold receiveNext
  split
  · exact ⟨rfl, rfl⟩
  · exact ⟨rfl, rfl⟩

theorem inStep_perform {engine : TunUdpEngine}
    (step : InStep engine.registry engine.associations) (call : Call) :
    InStep (engine.perform call).registry
      (engine.perform call).associations := by
  cases call with
  | pushInbound frame => exact step
  | forwardNext views awaited =>
      exact (inStep_forwardNext step views awaited).1
  | receiveNext views response snapshot online =>
      obtain ⟨sameRegistry, sameTable⟩ :=
        engine.receiveNext_keeps views response snapshot online
      simp only [perform]
      rw [sameRegistry, sameTable]
      exact step
  | popOutbound => exact step
  | clear => exact step.cleared

theorem inStep_new {limits : TunAdapterLimits} {mtu queueCapacity : Nat}
    {engine : TunUdpEngine}
    (created : new limits mtu queueCapacity = .ok engine) :
    InStep engine.registry engine.associations := by
  obtain ⟨queue, _, created⟩ := bind_eq_ok created
  obtain ⟨associations, table, created⟩ := bind_eq_ok created
  obtain ⟨registry, opened, created⟩ := bind_eq_ok created
  cases created
  have paired := UdpAssociationTable.paired_new table
  have within := TunFlowRegistry.withinLimits_new opened
  obtain rfl := TunFlowRegistry.eq_of_new opened
  rw [UdpAssociationTable.new] at table
  split at table
  · cases table
  · cases table
    exact ⟨paired, within, rfl, fun _ _ => iff_of_true rfl rfl, rfl⟩

theorem inStep_of_reachable {limits : TunAdapterLimits}
    {mtu queueCapacity : Nat} {fresh engine : TunUdpEngine}
    (created : new limits mtu queueCapacity = .ok fresh)
    (reached : Reachable Step fresh engine) :
    InStep engine.registry engine.associations := by
  obtain ⟨trace, run⟩ := reached
  induction run with
  | nil => exact inStep_new created
  | snoc _ move induction =>
      rw [move]
      exact inStep_perform induction _

/-- Over any calls the association table is a bounded bijection with stable
sessions.  Over any calls of an engine, the captured datagram flows with a
lease are the associated ones, and no packet is refused by the table. -/
theorem udp_engine_coherent (limit : UInt64)
    (freshTable table : UdpAssociationTable)
    (createdTable : UdpAssociationTable.new limit = .ok freshTable)
    (reachedTable : Reachable UdpAssociationTable.Step freshTable table)
    (limits : TunAdapterLimits) (mtu queueCapacity : Nat)
    (fresh engine : TunUdpEngine)
    (created : new limits mtu queueCapacity = .ok fresh)
    (reached : Reachable Step fresh engine) :
    table.Coherent ∧ engine.associations.Coherent ∧
      (∀ flow, flow.protocol = .udp →
        ((engine.registry.flows.get? flow).isSome ↔
          (engine.associations.byFlow.get? flow).isSome)) ∧
      ∀ (views : PacketViews) (awaited : Awaited Unit),
        (engine.forwardNext views awaited).1.Returned ∧
          ∀ failure, (engine.forwardNext views awaited).1 ≠
            .err (.forward (.association failure)) := by
  have paired := (UdpAssociationTable.paired_new createdTable).run reachedTable
  have step := inStep_of_reachable created reached
  refine ⟨paired.coherent, step.paired.coherent, ?_, ?_⟩
  · intro flow udp
    rw [Option.isSome_iff_ne_none, Option.isSome_iff_ne_none]
    exact not_congr (step.sameFlows flow udp)
  · intro views awaited
    exact (inStep_forwardNext step views awaited).2

/-- Views that read every frame as a packet of one captured flow. -/
def singleFlowViews : PacketViews where
  ipv4Packet frame := some frame
  ipv4Repr _ := some
    { srcAddr := 10 ::ᵥ 0 ::ᵥ 0 ::ᵥ 2 ::ᵥ .nil
      dstAddr := 1 ::ᵥ 1 ::ᵥ 1 ::ᵥ 1 ::ᵥ .nil
      nextHeader := .udp }
  tcpPacket _ := none
  udpPacket frame := some (⟨50000, 443⟩, frame.drop 28)
  emitUdpIpv4 _ _ payload := List.replicate 28 0 ++ payload
  emitUdpIpv6 _ _ payload := List.replicate 48 0 ++ payload

def smallTable : UdpAssociationTable :=
  ⟨1, .empty, .empty, 1⟩

def smallEngine : TunUdpEngine :=
  ⟨⟨1280, 1, [], []⟩, ⟨TunFlowRegistry.singleLimits, .empty⟩, smallTable⟩

/-- The first frame is admitted, and its send fails. -/
def failedSend : List Call :=
  [.pushInbound [69],
    .forwardNext singleFlowViews (TunFlowRegistry.lostStream 1)]

theorem udp_engine_coherent_after_failure :
    ((failedSend.foldl perform smallEngine).associations.byFlow.get?
      (TunFlowRegistry.sampleFlow .udp 50000)).isSome := by
  have run : Run Step smallEngine failedSend
      (failedSend.foldl perform smallEngine) :=
    .snoc (.snoc .nil rfl) rfl
  have coherent := udp_engine_coherent 1 smallTable smallTable rfl ⟨[], .nil⟩
    TunFlowRegistry.singleLimits 1280 1 smallEngine _ rfl ⟨_, run⟩
  exact (coherent.2.2.1 (TunFlowRegistry.sampleFlow .udp 50000) rfl).mp
    (by decide)

end TunUdpEngine

end Velum.Tun
