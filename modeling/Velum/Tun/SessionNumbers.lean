import Velum.Tun.UdpPath

/-!
# Session numbers are not used twice

The cursor of the association table only moves on, so the sessions below it
have been given away and a fresh one lies at it.  This ends when the cursor
comes round, after as many flows as there are nonzero words.
-/

namespace Velum.Tun

open Foundation Protocol Velum.Runtime

namespace UdpAssociationTable

/-- Every session that was given to a flow lies below the cursor and was
given to one flow only. -/
structure Numbered (given : DatagramSessionId → FlowKey → Prop)
    (count : Nat) (table : UdpAssociationTable) : Prop where
  bound : table.nextSession.toNat ≤ count + 1
  below : ∀ session flow, given session flow →
    session.value.toNat < table.nextSession.toNat
  stored : ∀ session flow, table.bySession.get? session = some flow →
    given session flow
  single : ∀ session one other, given session one → given session other →
    one = other

variable {given : DatagramSessionId → FlowKey → Prop} {count : Nat}
  {table : UdpAssociationTable}

theorem numbered_new {limit : UInt64} (created : new limit = .ok table) :
    Numbered (fun _ _ => False) 0 table := by
  rw [new] at created
  split at created
  · cases created
  · cases created
    constructor
    · exact Nat.le_refl 1
    · exact fun _ _ never => never.elim
    · intro session flow found
      cases found
    · exact fun _ _ _ never => never.elim

namespace Numbered

theorem congr {more : DatagramSessionId → FlowKey → Prop}
    (numbered : Numbered given count table)
    (same : ∀ session flow, more session flow ↔ given session flow) :
    Numbered more count table where
  bound := numbered.bound
  below := fun session flow known =>
    numbered.below session flow ((same session flow).mp known)
  stored := fun session flow found =>
    (same session flow).mpr (numbered.stored session flow found)
  single := fun session one other here there =>
    numbered.single session one other ((same session one).mp here)
      ((same session other).mp there)

theorem clear (numbered : Numbered given count table) :
    Numbered given count table.clear where
  bound := numbered.bound
  below := numbered.below
  stored := by
    intro session flow found
    cases found
  single := numbered.single

/-- The cursor stands at a free session, which the loop takes at once. -/
theorem allocateSession (numbered : Numbered given count table)
    (nonzero : table.nextSession ≠ 0) :
    table.allocateSession = (.ok ⟨table.nextSession, nonzero⟩,
      { table with nextSession := sessionAfter table.nextSession }) := by
  have free : table.bySession.get? ⟨table.nextSession, nonzero⟩ = none := by
    cases stored : table.bySession.get? ⟨table.nextSession, nonzero⟩ with
    | none => rfl
    | some flow =>
        have below := numbered.below _ flow (numbered.stored _ flow stored)
        exact absurd below (Nat.lt_irrefl _)
  have first : allocateFrom 1 table = (.ok ⟨table.nextSession, nonzero⟩,
      { table with nextSession := sessionAfter table.nextSession }) := by
    simp only [allocateFrom, new_of_ne_zero nonzero, OrderedMap.contains,
      free, Option.isSome_none, Bool.false_eq_true, if_false]
  exact allocateFrom_add first (2 ^ 64 - 2)

/-- A session that is looked up has been given to the flow, now or before. -/
theorem sessionFor (numbered : Numbered given count table)
    (paired : table.Paired) (room : count + 2 < 2 ^ 64) {flow : FlowKey}
    {session : DatagramSessionId} {after : UdpAssociationTable}
    (looked : table.sessionFor flow = (.ok session, after)) :
    Numbered (fun other named => given other named ∨
      other = session ∧ named = flow) (count + 1) after := by
  rcases paired.sessionFor_cases flow with
    ⟨_, same⟩ | ⟨known, found, same⟩ | ⟨_, _, _, same⟩ |
      ⟨udp, unknown, free, fresh, next, nonzero, unused, same⟩
  · rw [same] at looked
    cases looked
  · rw [same] at looked
    cases looked
    have before := numbered.stored session flow
      ((paired.inverse flow session).mp found)
    have unchanged : Numbered (fun other named => given other named ∨
        other = session ∧ named = flow) count table := by
      apply numbered.congr
      intro other named
      constructor
      · rintro (earlier | ⟨rfl, rfl⟩)
        · exact earlier
        · exact before
      · exact Or.inl
    exact { unchanged with bound := Nat.le_succ_of_le unchanged.bound }
  · rw [same] at looked
    cases looked
  · rw [same] at looked
    cases looked
    -- The loop has taken the cursor itself.
    have taken := numbered.allocateSession paired.nextNonzero
    have both : table.sessionFor flow = (.ok ⟨table.nextSession,
        paired.nextNonzero⟩, table.associate flow ⟨table.nextSession,
        paired.nextNonzero⟩ (sessionAfter table.nextSession)) := by
      simp [UdpAssociationTable.sessionFor, udp, unknown, free, taken,
        UdpAssociationTable.associate]
    rw [same] at both
    have cursor : session = ⟨table.nextSession, paired.nextNonzero⟩ :=
      Outcome.ok.inj (congrArg Prod.fst both)
    have moved : next = sessionAfter table.nextSession :=
      congrArg UdpAssociationTable.nextSession (congrArg Prod.snd both)
    have here : session.value.toNat = table.nextSession.toNat := by
      rw [cursor]
    have bound := numbered.bound
    have later : next.toNat = table.nextSession.toNat + 1 := by
      rw [moved, toNat_sessionAfter]
      unfold following
      rw [if_neg (by omega)]
    constructor
    case bound =>
      change next.toNat ≤ _
      omega
    case below =>
      intro other named known
      change other.value.toNat < next.toNat
      rcases known with earlier | ⟨rfl, _⟩
      · have := numbered.below other named earlier
        omega
      · omega
    case stored =>
      intro other named stored
      rcases OrderedMap.get?_insert_eq_some_iff.mp stored with
        ⟨rfl, rfl⟩ | ⟨_, before⟩
      · exact .inr ⟨rfl, rfl⟩
      · exact .inl (numbered.stored other named before)
    case single =>
      have apart (named : FlowKey) : ¬given session named := by
        intro earlier
        have := numbered.below session named earlier
        omega
      intro other one another first second
      rcases first with first | ⟨rfl, rfl⟩
      · rcases second with second | ⟨rfl, _⟩
        · exact numbered.single other one another first second
        · exact absurd first (apart one)
      · rcases second with second | ⟨_, rfl⟩
        · exact absurd second (apart another)
        · rfl

end Numbered

end UdpAssociationTable

namespace TunUdpEngine

variable {engine : TunUdpEngine} {views : PacketViews}

theorem forwardNext_queue (awaited : Awaited Unit) :
    (engine.forwardNext views awaited).2.queue.mtu = engine.queue.mtu ∧
      (engine.forwardNext views awaited).2.queue.outbound =
        engine.queue.outbound := by
  unfold forwardNext
  split
  next queue popped =>
      obtain rfl := (congrArg Prod.snd popped).symm
      exact ⟨rfl, rfl⟩
  next frame queue popped =>
      obtain rfl := (congrArg Prod.snd popped).symm
      exact ⟨rfl, rfl⟩

theorem receiveNext_queue (response : Except RuntimeError ClientDatagram)
    (snapshot online : RuntimeSnapshot) :
    (engine.receiveNext views response snapshot online).2.queue.mtu =
        engine.queue.mtu ∧
      ∀ frame ∈ (engine.receiveNext views response snapshot
          online).2.queue.outbound,
        frame ∈ engine.queue.outbound ∨
          engine.registry.receiveUdp views engine.associations
            engine.queue.mtu response snapshot online = .ok frame := by
  unfold receiveNext
  split
  next => exact ⟨rfl, fun _ member => .inl member⟩
  next frame encoded =>
      simp only [TunFrameQueue.pushOutbound]
      split
      · exact ⟨rfl, fun _ member => .inl member⟩
      · split
        · exact ⟨rfl, fun _ member => .inl member⟩
        · refine ⟨rfl, ?_⟩
          intro other member
          rcases List.mem_append.mp member with before | last
          · exact .inl before
          · rw [List.mem_singleton.mp last]
            exact .inr encoded

/-- What is known of a frame that is encoded for the device. -/
theorem receiveUdp_ok {registry : TunFlowRegistry}
    {associations : UdpAssociationTable} {mtu : Nat}
    {response : Except RuntimeError ClientDatagram}
    {snapshot online : RuntimeSnapshot} {frame : List UInt8}
    (encoded : registry.receiveUdp views associations mtu response snapshot
      online = .ok frame) :
    ∃ datagram flow, response = .ok datagram ∧
      associations.bySession.get? datagram.sessionId = some flow ∧
      flow.destination = datagram.source ∧
      views.encodeUdpResponse flow datagram.payload mtu = .ok frame := by
  unfold TunFlowRegistry.receiveUdp at encoded
  split at encoded
  · cases encoded
  next datagram =>
      split at encoded
      · cases encoded
      next flow resolved =>
          unfold UdpAssociationTable.flowForResponse at resolved
          split at resolved
          · cases resolved
          next stored found =>
              split at resolved
              · cases resolved
              next target =>
                  cases resolved
                  split at encoded
                  · cases encoded
                  · split at encoded
                    · cases encoded
                    next written =>
                        cases encoded
                        exact ⟨datagram, flow, rfl, found,
                          not_not.mp target, written⟩

/-- Everything that leads to a send. -/
theorem submission_eq_some {reads : Reads} {frame : List UInt8}
    {submission : Submission}
    (submits : engine.submission views reads = some (frame, submission)) :
    (∃ queue, engine.queue.popInbound = (some frame, queue)) ∧
      views.classifyIpv4Packet frame = .ok submission.flow ∧
      views.udpPayload frame = .ok submission.payload ∧
      (∃ generation registry, engine.registry.admitFlow reads
        submission.flow = (.ok generation, registry)) ∧
      ∃ associations, engine.associations.sessionFor submission.flow =
        (.ok submission.sessionId, associations) := by
  unfold TunUdpEngine.submission at submits
  split at submits
  · cases submits
  next popped taken =>
      split at submits
      next flow payload classified extracted =>
          split at submits
          next generation session admits looked =>
              cases submits
              exact ⟨⟨_, Prod.ext taken rfl⟩, classified, extracted,
                ⟨generation, _, Prod.ext admits rfl⟩,
                ⟨_, Prod.ext looked rfl⟩⟩
          next => cases submits
      next => cases submits

/-- Forwarding gives the session of a send to its flow. -/
theorem forwardNext_submitted {awaited : Awaited Unit} {frame : List UInt8}
    {submission : Submission}
    (submits : engine.submission views awaited.reads =
      some (frame, submission)) :
    engine.associations.sessionFor submission.flow =
      (.ok submission.sessionId,
        (engine.forwardNext views awaited).2.associations) := by
  obtain ⟨⟨queue, popped⟩, classified, extracted, ⟨generation, registry,
    admits⟩, associations, looked⟩ := submission_eq_some submits
  rw [looked]
  simp only [forwardNext, popped, TunFlowRegistry.forwardUdp, classified,
    extracted, admits, looked]
  cases awaited.answer with
  | error failure => rfl
  | ok sent =>
      simp only
      split <;> rfl

/-- Forwarding that does not come to a send gives away no session. -/
theorem forwardNext_skipped
    (step : InStep engine.registry engine.associations)
    {awaited : Awaited Unit}
    (nothing : engine.submission views awaited.reads = none) :
    (engine.forwardNext views awaited).2.associations =
      engine.associations := by
  unfold forwardNext
  split
  next => rfl
  next frame queue popped =>
      unfold TunUdpEngine.submission at nothing
      rw [popped] at nothing
      unfold TunFlowRegistry.forwardUdp
      cases classified : views.classifyIpv4Packet frame with
      | error failure => rfl
      | ok flow =>
          cases extracted : views.udpPayload frame with
          | error failure => rfl
          | ok payload =>
              have udp := views.udp_of_udpPayload classified extracted
              rcases step.admitFlow udp awaited.reads with
                ⟨failure, refused⟩ | ⟨generation, admitted, session,
                  associated, admits, looked, _⟩
              · simp only [refused]
              · simp [classified, extracted, admits, looked] at nothing

end TunUdpEngine

end Velum.Tun
