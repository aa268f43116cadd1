import Velum.Node.Egress

/-!
# The listener releases before it closes

The flows that the admission of a connection has reserved are those of its
streams.  So a stream releases a flow that is reserved, and a connection has
none left when it comes to `close`, which is what the accounting asks of its
callers.
-/

namespace Velum.Node

open Foundation Protocol Server

/-- The lease of the flow that a stream has reserved. -/
def StreamPhase.lease : StreamPhase → Option SessionLease
  | .connecting _ session => some session.lease
  | .relaying _ session => some session.lease
  | .releasing lease => some lease
  | .inRelease lease => some lease
  | _ => none

def Connection.lease (connection : Connection) (stream : Nat) :
    Option SessionLease :=
  (connection.streams stream).bind StreamPhase.lease

theorem lease_of_stage {connection : Connection} {stream : Nat}
    {phase : StreamPhase} (stage : connection.streams stream = some phase) :
    connection.lease stream = phase.lease := by
  unfold Connection.lease
  rw [stage]
  rfl

theorem lease_setStream (connection : Connection) (stream : Nat)
    (phase : StreamPhase) :
    (connection.setStream stream phase).lease =
      Function.update connection.lease stream phase.lease := by
  funext other
  unfold Connection.lease Connection.setStream
  by_cases own : other = stream
  · simp [own]
  · simp [own]

/-- The reserved flows are those of the streams. -/
structure Booked (reserved : List (Nat × SessionLease))
    (connection : Connection) : Prop where
  exactly : ∀ stream lease, (stream, lease) ∈ reserved ↔
    connection.lease stream = some lease
  distinct : reserved.Nodup

theorem booked_keep {reserved : List (Nat × SessionLease)}
    {connection moved : Connection} (booked : Booked reserved connection)
    (same : moved.lease = connection.lease) : Booked reserved moved := by
  refine ⟨?_, booked.distinct⟩
  rw [same]
  exact booked.exactly

/-- A stream moves on with the flow that it has, or without one. -/
theorem booked_moves {reserved : List (Nat × SessionLease)}
    {connection : Connection} {stream : Nat} {before after : StreamPhase}
    (booked : Booked reserved connection)
    (stage : connection.streams stream = some before)
    (same : after.lease = before.lease) :
    Booked reserved (connection.setStream stream after) := by
  apply booked_keep booked
  rw [lease_setStream, same, ← lease_of_stage stage, Function.update_eq_self]

theorem booked_reserve {reserved : List (Nat × SessionLease)}
    {connection : Connection} {stream : Nat} {lease : SessionLease}
    {after : StreamPhase} (booked : Booked reserved connection)
    (free : connection.lease stream = none)
    (holds : after.lease = some lease) :
    Booked ((stream, lease) :: reserved)
      (connection.setStream stream after) where
  exactly := by
    intro other held
    rw [lease_setStream, holds, List.mem_cons]
    by_cases own : other = stream
    · have absent : (stream, held) ∉ reserved := by
        intro member
        rw [booked.exactly, free] at member
        cases member
      rw [own, Function.update_self]
      simp [absent, eq_comm]
    · rw [Function.update_of_ne own, booked.exactly]
      simp [own]
  distinct := by
    refine List.nodup_cons.mpr ⟨?_, booked.distinct⟩
    intro member
    rw [booked.exactly, free] at member
    cases member

theorem booked_release {reserved : List (Nat × SessionLease)}
    {connection : Connection} {stream : Nat} {lease : SessionLease}
    {after : StreamPhase} (booked : Booked reserved connection)
    (held : connection.lease stream = some lease)
    (empty : after.lease = none) :
    Booked (reserved.erase (stream, lease))
      (connection.setStream stream after) where
  exactly := by
    intro other kept
    rw [lease_setStream, empty, booked.distinct.mem_erase_iff,
      booked.exactly]
    by_cases own : other = stream
    · rw [own, Function.update_self, held]
      simp [eq_comm]
    · rw [Function.update_of_ne own]
      simp [own]
  distinct := booked.distinct.erase _

namespace Listener

variable {parse : List UInt8 → Option SocketAddr}
  {admission : RelayAdmission} {config : QuicRelayConfig}
  {quota : PrincipalQuota} {node next : Listener} {egress : Egress}

/-- What an operation returns settles the flows of its connection. -/
theorem reserved_of_returned {state after : Admissions} {id : Nat}
    {call : Call} {result : Result}
    (step : Admissions.Step admission state (.returned id call result)
      after) :
    after.reserved = Function.update state.reserved id
      (call.settle result (state.reserved id)) := by
  cases step with
  | unauthenticated rejected => exact (Function.update_eq_self ..).symm
  | returned stage => rfl

theorem reserved_of_unreturned {state after : Admissions} {event : Event}
    (step : Admissions.Step admission state event after)
    (runs : ∀ id call result, event ≠ .returned id call result) :
    after.reserved = state.reserved := by
  cases step with
  | unauthenticated rejected => exact absurd rfl (runs _ _ _)
  | returned stage => exact absurd rfl (runs _ _ _)
  | _ => rfl

/-- The flows of every connection are booked, and nothing is reserved for a
connection before it is accepted. -/
structure AllBooked (node : Listener) : Prop where
  booked : ∀ id connection, node.connections id = some connection →
    connection.phase ≠ .stopped →
    Booked (node.admissions.reserved id) connection
  unserved : ∀ id, node.connections id = none →
    node.admissions.reserved id = []

theorem allBooked_setConnection {after : Listener} {id : Nat}
    {moved : Connection} (all : AllBooked node)
    (connections : after.connections = node.connections)
    (others : ∀ other, other ≠ id →
      after.admissions.reserved other = node.admissions.reserved other)
    (own : moved.phase ≠ .stopped →
      Booked (after.admissions.reserved id) moved) :
    AllBooked (after.setConnection id moved) where
  booked := by
    intro other found member alive
    rcases setConnection_cases member with ⟨rfl, rfl⟩ | ⟨elsewhere, earlier⟩
    · exact own alive
    · rw [connections] at earlier
      rw [admissions_setConnection, others other elsewhere]
      exact all.booked other found earlier alive
  unserved := by
    intro other absent
    change Function.update after.connections id _ other = _ at absent
    by_cases here : other = id
    · rw [here, Function.update_self] at absent
      cases absent
    · rw [Function.update_of_ne here, connections] at absent
      have nothing := all.unserved other absent
      rw [← others other here] at nothing
      exact nothing

/-- A step of a connection after which the same flows are reserved. -/
theorem allBooked_keep {after : Listener} {id : Nat}
    {moved : Connection} (all : AllBooked node)
    (connections : after.connections = node.connections)
    (reserved : after.admissions.reserved = node.admissions.reserved)
    (own : moved.phase ≠ .stopped →
      Booked (node.admissions.reserved id) moved) :
    AllBooked (after.setConnection id moved) := by
  apply allBooked_setConnection all connections
  · intro other _
    rw [reserved]
  · rw [reserved]
    exact own

/-- A connection moves on with what an operation has returned. -/
theorem allBooked_returned {admissions : Admissions} {id : Nat}
    {call : Call} {result : Result} {moved : Connection}
    (all : AllBooked node)
    (move : Admissions.Step admission node.admissions
      (.returned id call result) admissions)
    (own : Booked (call.settle result (node.admissions.reserved id)) moved) :
    AllBooked ((node.setAdmissions admissions).setConnection id moved) := by
  have settled : (node.setAdmissions admissions).admissions.reserved =
      Function.update node.admissions.reserved id
        (call.settle result (node.admissions.reserved id)) :=
    reserved_of_returned move
  apply allBooked_setConnection all
  · rfl
  · intro other elsewhere
    rw [settled, Function.update_of_ne elsewhere]
  · intro _
    rw [settled, Function.update_self]
    exact own

/-- The loop moves on, and the streams stay as they are. -/
theorem booked_loop {id : Nat} {connection moved : Connection}
    {phase : LoopPhase} (all : AllBooked node)
    (present : node.connections id = some connection)
    (stage : connection.phase = phase) (running : phase ≠ .stopped)
    (same : moved.lease = connection.lease) :
    Booked (node.admissions.reserved id) moved := by
  have alive : connection.phase ≠ .stopped := stage.trans_ne running
  exact booked_keep (all.booked id connection present alive) same

theorem allBooked_step (all : AllBooked node)
    (step : Step parse admission config node egress next) :
    AllBooked next := by
  cases step with
  | accept free =>
      apply allBooked_keep all rfl rfl
      intro _
      rw [all.unserved _ free]
      exact ⟨fun _ _ => ⟨nofun, nofun⟩, .nil⟩
  | aborted present =>
      exact allBooked_keep all rfl rfl fun alive => absurd rfl alive
  | @operated id connection event admissions present alive here inner move =>
      have same : admissions.reserved = node.admissions.reserved := by
        apply reserved_of_unreturned move
        intro id call result returned
        rw [returned] at inner
        exact inner
      constructor
      case booked =>
        change ∀ id connection, node.connections id = some connection → _ →
          Booked (admissions.reserved id) connection
        rw [same]
        exact all.booked
      case unserved =>
        change ∀ id, node.connections id = none → admissions.reserved id = []
        rw [same]
        exact all.unserved
  | @streamAccepted id stream connection present listening free =>
      apply allBooked_keep all rfl rfl
      intro alive
      apply booked_keep (all.booked _ _ present alive)
      have nothing : connection.lease stream = none := by
        unfold Connection.lease
        rw [free]
        rfl
      rw [lease_setStream, ← Function.update_eq_self stream connection.lease,
        nothing, Function.update_idem]
      rfl
  | controlTimedOut present alive stage
  | streamRefused present alive stage refused
  | streamAuthorised present alive stage authorised
  | connected present alive stage | relayEnded present alive stage =>
      apply allBooked_keep all rfl rfl
      intro _
      exact booked_moves (all.booked _ _ present alive) stage rfl
  | reserveBegan present alive stage move
  | releaseBegan present alive stage move =>
      have same := reserved_of_unreturned move nofun
      apply allBooked_keep all
      · rfl
      · exact same
      · intro _
        exact booked_moves (all.booked _ _ present alive) stage rfl
  | reserved present alive stage move =>
      apply allBooked_returned all move
      exact booked_reserve (all.booked _ _ present alive)
        (lease_of_stage stage) rfl
  | reserveFailed present alive stage failed move =>
      apply allBooked_returned all move
      rw [Call.settle_of_failure _ _ failed]
      exact booked_moves (all.booked _ _ present alive) stage rfl
  | released present alive stage move =>
      apply allBooked_returned all move
      exact booked_release (all.booked _ _ present alive)
        (lease_of_stage stage) rfl
  | relayed | datagramRejected => exact all
  | datagramDecoded present stage
  | admitUnauthenticated present stage rejected
  | forwardRejected present stage move | forwardAccepted present stage move
  | forwardRefused present stage move | forwarded present stage move
  | loopEnded present stage | relayShutDown present stage move
  | flowsJoined present stage joined =>
      apply allBooked_keep all rfl rfl
      intro _
      exact booked_loop all present stage nofun rfl
  | relayMoved present move seen =>
      apply allBooked_keep all rfl rfl
      intro alive
      exact booked_keep (all.booked _ _ present alive) rfl
  | admitBegan present stage move | closeBegan present stage move =>
      have same := reserved_of_unreturned move nofun
      apply allBooked_keep all
      · rfl
      · exact same
      · intro _
        exact booked_loop all present stage nofun rfl
  | admitted present stage move | admitFailed present stage move
  | admitPanicked present stage move | closed present stage move =>
      apply allBooked_returned all move
      exact booked_loop all present stage nofun rfl

theorem allBooked_of_run {trace : List Egress}
    (run : Run (Step parse admission config)
      { admissions := { quotas := .new quota } } trace node) :
    AllBooked node := by
  induction run with
  | nil =>
      constructor
      case booked =>
        intro id connection present
        cases present
      case unserved =>
        intro id _
        rfl
  | snoc earlier step induction => exact allBooked_step induction step

/-- A stream that wants to release has a reserved flow. -/
theorem reserved_of_releasing {trace : List Egress} {id stream : Nat}
    {connection : Connection} {lease : SessionLease}
    (run : Run (Step parse admission config)
      { admissions := { quotas := .new quota } } trace node)
    (present : node.connections id = some connection)
    (alive : connection.phase ≠ .stopped)
    (stage : connection.streams stream = some (.releasing lease)) :
    (stream, lease) ∈ node.admissions.reserved id := by
  have booked := (allBooked_of_run run).booked id connection present alive
  rw [booked.exactly]
  exact lease_of_stage stage

/-- A connection that comes to `close` has no reserved flow. -/
theorem drained_of_closing {trace : List Egress} {id : Nat}
    {connection : Connection}
    (run : Run (Step parse admission config)
      { admissions := { quotas := .new quota } } trace node)
    (present : node.connections id = some connection)
    (closing : connection.phase = .closing) :
    node.admissions.reserved id = [] := by
  have booked := (allBooked_of_run run).booked id connection present
    (closing.trans_ne nofun)
  have joined : connection.Joined := by
    apply ((history_of_run run).2.1 id connection present).joined
    rw [closing]
    trivial
  apply List.eq_nil_iff_forall_not_mem.mpr
  intro ⟨stream, lease⟩ member
  have held := (booked.exactly stream lease).mp member
  unfold Connection.lease at held
  obtain ⟨phase, found, leased⟩ := Option.bind_eq_some_iff.mp held
  rw [joined stream phase found] at leased
  cases leased

end Listener

end Velum.Node
