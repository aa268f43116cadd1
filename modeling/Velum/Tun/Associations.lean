import Velum.Foundation.Checked
import Velum.Foundation.Cursor
import Velum.Foundation.OrderedMap
import Velum.Foundation.TransitionSystem
import Velum.Protocol.AddressOrder

/-!
# Captured flows and their datagram sessions

The table gives each captured UDP flow a session of its own and finds the flow
of a response again.  Limits are machine words.  The loop that looks for a
free session can only stop at one; a cursor that has come round without
finding any would go round for ever, and the model reports that as a fault.
-/

namespace Velum.Tun

open Foundation Protocol

inductive FlowProtocol where
  | tcp
  | udp
  deriving DecidableEq, Repr

/-- A direction-independent five-tuple identifying one captured flow. -/
structure FlowKey where
  protocol : FlowProtocol
  source : SocketAddr
  destination : SocketAddr
  deriving DecidableEq

namespace FlowKey

def protocolRank : FlowProtocol → Nat
  | .tcp => 0
  | .udp => 1

theorem protocolRank_injective : Function.Injective protocolRank := by
  intro first second same
  cases first <;> cases second
  · rfl
  · cases same
  · cases same
  · rfl

/-- The order of the fields, first by protocol. -/
def rank (key : FlowKey) : Lex (Nat × Lex (SocketAddr × SocketAddr)) :=
  toLex (protocolRank key.protocol, toLex (key.source, key.destination))

theorem rank_injective : Function.Injective rank := by
  intro left right equality
  obtain ⟨protocol, source, destination⟩ := left
  obtain ⟨protocol', source', destination'⟩ := right
  obtain ⟨protocols, addresses⟩ := Prod.mk.inj (toLex.injective equality)
  obtain ⟨rfl, rfl⟩ := Prod.mk.inj (toLex.injective addresses)
  obtain rfl := protocolRank_injective protocols
  rfl

instance : LinearOrder FlowKey :=
  LinearOrder.lift' rank rank_injective

end FlowKey

inductive TunAdapterConfigError where
  | tcpFlowLimit
  | udpAssociationLimit
  | frameQueue
  | ipv4Prefix
  deriving DecidableEq, Repr

inductive UdpAssociationError where
  | notUdp
  | limit
  | unknownSession
  | sourceMismatch
  deriving DecidableEq, Repr

/-- How `allocate_session` can fail to return: its `expect` panics, or its
loop goes round for ever. -/
inductive SessionFault where
  | zeroSession
  | endless
  deriving DecidableEq, Repr

/-- Bounded mapping between a captured UDP flow and one datagram session. -/
structure UdpAssociationTable where
  nextSession : UInt64
  byFlow : OrderedMap FlowKey DatagramSessionId
  bySession : OrderedMap DatagramSessionId FlowKey
  limit : UInt64

namespace UdpAssociationTable

def new (limit : UInt64) : Except TunAdapterConfigError UdpAssociationTable :=
  if limit = 0 then .error .udpAssociationLimit
  else .ok ⟨1, .empty, .empty, limit⟩

/-- The wrapping increment that leaves out zero. -/
def sessionAfter (value : UInt64) : UInt64 :=
  if value + 1 = 0 then 1 else value + 1

/-- The loop of `allocate_session`, for at most the given rounds. -/
def allocateFrom :
    Nat → UdpAssociationTable →
      Except SessionFault DatagramSessionId × UdpAssociationTable
  | 0, table => (.error .endless, table)
  | rounds + 1, table =>
      let candidate := table.nextSession
      let advanced :=
        { table with nextSession := sessionAfter table.nextSession }
      match DatagramSessionId.new candidate with
      | .error _ => (.error .zeroSession, advanced)
      | .ok session =>
          if advanced.bySession.contains session then
            allocateFrom rounds advanced
          else (.ok session, advanced)

/-- After as many rounds as there are sessions the cursor is back where it
started, and the loop repeats itself. -/
def allocateSession (table : UdpAssociationTable) :
    Except SessionFault DatagramSessionId × UdpAssociationTable :=
  allocateFrom (2 ^ 64 - 1) table

def sessionFor (table : UdpAssociationTable) (flow : FlowKey) :
    Outcome SessionFault UdpAssociationError DatagramSessionId ×
      UdpAssociationTable :=
  if flow.protocol ≠ .udp then (.err .notUdp, table)
  else
    match table.byFlow.get? flow with
    | some session => (.ok session, table)
    | none =>
        if table.byFlow.size = table.limit.toNat then (.err .limit, table)
        else
          match table.allocateSession with
          | (.error fault, advanced) => (.panic fault, advanced)
          | (.ok session, advanced) =>
              (.ok session,
                { advanced with
                  byFlow := advanced.byFlow.insert flow session
                  bySession := advanced.bySession.insert session flow })

/-- Resolves a relay response only when its claimed source is the flow
target. -/
def flowForResponse (table : UdpAssociationTable)
    (session : DatagramSessionId) (source : SocketAddr) :
    Except UdpAssociationError FlowKey :=
  match table.bySession.get? session with
  | none => .error .unknownSession
  | some flow =>
      if flow.destination ≠ source then .error .sourceMismatch
      else .ok flow

def clear (table : UdpAssociationTable) : UdpAssociationTable :=
  { table with byFlow := .empty, bySession := .empty }

/-! ## The session loop -/

theorem sessionAfter_ne_zero (value : UInt64) : sessionAfter value ≠ 0 := by
  unfold sessionAfter
  split
  · decide
  · assumption

/-- The wrapping increment goes round the nonzero words. -/
theorem toNat_sessionAfter (value : UInt64) :
    (sessionAfter value).toNat = following 1 (2 ^ 64 - 1) value.toNat := by
  have bound := value.toNat_lt
  have sum : (value + 1).toNat = (value.toNat + 1) % 2 ^ 64 := by
    rw [UInt64.toNat_add]
    rfl
  have wraps : value + 1 = 0 ↔ 2 ^ 64 - 1 < value.toNat + 1 := by
    rw [← UInt64.toNat_inj, sum, UInt64.toNat_zero]
    omega
  unfold sessionAfter following
  by_cases last : value + 1 = 0
  · rw [if_pos last, if_pos (wraps.mp last)]
    rfl
  · rw [if_neg last, if_neg (fun above => last (wraps.mpr above)), sum]
    exact Nat.mod_eq_of_lt (by
      have := mt wraps.mpr last
      omega)

theorem new_of_ne_zero {value : UInt64} (nonzero : value ≠ 0) :
    DatagramSessionId.new value = .ok ⟨value, nonzero⟩ := by
  rw [DatagramSessionId.new, dif_pos nonzero]

/-- The words of the sessions in use. -/
def taken (table : UdpAssociationTable) : List Nat :=
  table.bySession.entries.map fun entry => entry.1.value.toNat

theorem get?_eq_none_of_not_mem_taken {table : UdpAssociationTable}
    {session : DatagramSessionId}
    (free : session.value.toNat ∉ table.taken) :
    table.bySession.get? session = none := by
  rw [OrderedMap.get?_eq_none_iff]
  intro entry member same
  apply free
  rw [← same]
  exact List.mem_map.mpr ⟨entry, member, rfl⟩

/-- The loop returns when the cursor comes to a free session. -/
theorem allocateFrom_returns {rounds : Nat} {table : UdpAssociationTable}
    (nonzero : table.nextSession ≠ 0)
    (free : ∃ step < rounds, (following 1 (2 ^ 64 - 1))^[step]
      table.nextSession.toNat ∉ table.taken) :
    ∃ session next,
      allocateFrom rounds table =
        (.ok session, { table with nextSession := next }) ∧
      next ≠ 0 ∧ table.bySession.get? session = none := by
  induction rounds generalizing table with
  | zero =>
      obtain ⟨_, none, _⟩ := free
      exact absurd none (Nat.not_lt_zero _)
  | succ rounds induction =>
      simp only [allocateFrom, new_of_ne_zero nonzero]
      split
      next used =>
          -- The first candidate is taken, so the free one lies further on.
          obtain ⟨step, inside, found⟩ := free
          have later : ∃ step < rounds, (following 1 (2 ^ 64 - 1))^[step]
              (sessionAfter table.nextSession).toNat ∉ table.taken := by
            cases step with
            | zero =>
                have absent := @get?_eq_none_of_not_mem_taken table
                  ⟨table.nextSession, nonzero⟩ found
                rw [OrderedMap.contains, absent] at used
                cases used
            | succ step =>
                refine ⟨step, by omega, ?_⟩
                rw [toNat_sessionAfter]
                exact found
          exact @induction
            { table with nextSession := sessionAfter table.nextSession }
            (sessionAfter_ne_zero _) later
      next fresh =>
          refine ⟨⟨table.nextSession, nonzero⟩,
            sessionAfter table.nextSession, rfl, sessionAfter_ne_zero _, ?_⟩
          rw [OrderedMap.contains, Option.isSome_iff_ne_none,
            not_not] at fresh
          exact fresh

/-- More rounds do not change what the loop returns. -/
theorem allocateFrom_add {rounds : Nat} {table after : UdpAssociationTable}
    {session : DatagramSessionId}
    (returned : allocateFrom rounds table = (.ok session, after))
    (more : Nat) :
    allocateFrom (rounds + more) table = (.ok session, after) := by
  induction rounds generalizing table with
  | zero => cases returned
  | succ rounds induction =>
      rw [Nat.add_right_comm]
      simp only [allocateFrom] at returned ⊢
      split at returned
      · cases returned
      · split at returned
        next used =>
            rw [if_pos used]
            exact induction returned
        next fresh =>
            rw [if_neg fresh]
            exact returned

/-- Fewer sessions in use than rounds leave one of the candidates free. -/
theorem allocateFrom_of_room {rounds : Nat} {table : UdpAssociationTable}
    (nonzero : table.nextSession ≠ 0)
    (room : table.bySession.size < rounds) (fits : rounds ≤ 2 ^ 64 - 1) :
    ∃ session next,
      allocateFrom rounds table =
        (.ok session, { table with nextSession := next }) ∧
      next ≠ 0 ∧ table.bySession.get? session = none := by
  have bound := table.nextSession.toNat_lt
  apply allocateFrom_returns nonzero
  apply Cursor.exists_free
  · omega
  · rw [taken, List.length_map]
    exact room
  · omega

/-! ## Coherence of the two maps -/

/-- The two maps are inverse to each other and within the limit. -/
structure Paired (table : UdpAssociationTable) : Prop where
  nextNonzero : table.nextSession ≠ 0
  inverse : ∀ flow session,
    table.byFlow.get? flow = some session ↔
      table.bySession.get? session = some flow
  sameSize : table.byFlow.size = table.bySession.size
  bounded : table.byFlow.size ≤ table.limit.toNat
  udp : ∀ flow session, table.byFlow.get? flow = some session →
    flow.protocol = .udp

theorem paired_new {limit : UInt64} {table : UdpAssociationTable}
    (created : new limit = .ok table) : table.Paired := by
  rw [new] at created
  split at created
  · cases created
  · cases created
    exact ⟨show (1 : UInt64) ≠ 0 by decide, fun flow session => by simp,
      rfl, Nat.zero_le _, fun flow session found => by cases found⟩

/-- A new association of a flow with a free session. -/
def associate (table : UdpAssociationTable) (flow : FlowKey)
    (session : DatagramSessionId) (next : UInt64) : UdpAssociationTable where
  nextSession := next
  byFlow := table.byFlow.insert flow session
  bySession := table.bySession.insert session flow
  limit := table.limit

namespace Paired

variable {table : UdpAssociationTable}

/-- A table below its limit finds a session for any nonzero cursor. -/
theorem allocateSession (paired : table.Paired)
    (room : table.byFlow.size ≠ table.limit.toNat) {next : UInt64}
    (nonzero : next ≠ 0) :
    ∃ session after,
      ({ table with
        nextSession := next } : UdpAssociationTable).allocateSession =
        (.ok session, { table with nextSession := after }) ∧
      after ≠ 0 ∧ table.bySession.get? session = none := by
  have bound := table.limit.toNat_lt
  have below := paired.bounded
  have same := paired.sameSize
  exact @allocateFrom_of_room _ { table with nextSession := next } nonzero
    (show table.bySession.size < 2 ^ 64 - 1 by omega) le_rfl

/-- Everything a lookup of a session can do. -/
theorem sessionFor_cases (paired : table.Paired) (flow : FlowKey) :
    (flow.protocol ≠ .udp ∧ table.sessionFor flow = (.err .notUdp, table)) ∨
    (∃ session, table.byFlow.get? flow = some session ∧
      table.sessionFor flow = (.ok session, table)) ∨
    (flow.protocol = .udp ∧ table.byFlow.get? flow = none ∧
      table.byFlow.size = table.limit.toNat ∧
      table.sessionFor flow = (.err .limit, table)) ∨
    (flow.protocol = .udp ∧ table.byFlow.get? flow = none ∧
      table.byFlow.size ≠ table.limit.toNat ∧
      ∃ session next, next ≠ 0 ∧ table.bySession.get? session = none ∧
        table.sessionFor flow =
          (.ok session, table.associate flow session next)) := by
  by_cases udp : flow.protocol = .udp
  · cases found : table.byFlow.get? flow with
    | some session =>
        refine .inr (.inl ⟨session, rfl, ?_⟩)
        simp [sessionFor, udp, found]
    | none =>
        by_cases full : table.byFlow.size = table.limit.toNat
        · refine .inr (.inr (.inl ⟨udp, rfl, full, ?_⟩))
          simp [sessionFor, udp, found, full]
        · obtain ⟨session, next, allocated, nonzero, free⟩ :=
            paired.allocateSession full paired.nextNonzero
          refine .inr (.inr (.inr
            ⟨udp, rfl, full, session, next, nonzero, free, ?_⟩))
          have same : table.allocateSession =
              (.ok session, { table with nextSession := next }) := allocated
          simp [sessionFor, udp, found, full, same, associate]
  · refine .inl ⟨udp, ?_⟩
    simp [sessionFor, udp]

theorem associate (paired : table.Paired) {flow : FlowKey}
    {session : DatagramSessionId} {next : UInt64}
    (udp : flow.protocol = .udp) (unknown : table.byFlow.get? flow = none)
    (room : table.byFlow.size ≠ table.limit.toNat) (nonzero : next ≠ 0)
    (free : table.bySession.get? session = none) :
    (table.associate flow session next).Paired where
  nextNonzero := nonzero
  inverse := by
    intro other used
    simp only [UdpAssociationTable.associate,
      OrderedMap.get?_insert_eq_some_iff, paired.inverse]
    constructor
    · rintro (⟨rfl, rfl⟩ | ⟨otherFlow, stored⟩)
      · exact .inl ⟨rfl, rfl⟩
      · refine .inr ⟨?_, stored⟩
        rintro rfl
        rw [free] at stored
        cases stored
    · rintro (⟨rfl, rfl⟩ | ⟨otherSession, stored⟩)
      · exact .inl ⟨rfl, rfl⟩
      · refine .inr ⟨?_, stored⟩
        rintro rfl
        rw [← paired.inverse, unknown] at stored
        cases stored
  sameSize := by
    simp only [UdpAssociationTable.associate]
    rw [OrderedMap.size_insert_of_absent unknown,
      OrderedMap.size_insert_of_absent free, paired.sameSize]
  bounded := by
    simp only [UdpAssociationTable.associate]
    rw [OrderedMap.size_insert_of_absent unknown]
    have below := paired.bounded
    omega
  udp := by
    intro other used found
    rcases OrderedMap.get?_insert_eq_some_iff.mp found with
      ⟨rfl, _⟩ | ⟨_, stored⟩
    · exact udp
    · exact paired.udp other used stored

theorem sessionFor (paired : table.Paired) (flow : FlowKey) :
    (table.sessionFor flow).2.Paired := by
  rcases paired.sessionFor_cases flow with
    ⟨_, same⟩ | ⟨_, _, same⟩ | ⟨_, _, _, same⟩ |
      ⟨udp, unknown, room, session, next, nonzero, free, same⟩
  · rw [same]
    exact paired
  · rw [same]
    exact paired
  · rw [same]
    exact paired
  · rw [same]
    exact paired.associate udp unknown room nonzero free

theorem clear (paired : table.Paired) : table.clear.Paired where
  nextNonzero := paired.nextNonzero
  inverse := fun flow session => by simp [UdpAssociationTable.clear]
  sameSize := rfl
  bounded := Nat.zero_le _
  udp := fun flow session found => by cases found

theorem returned (paired : table.Paired) (flow : FlowKey) :
    (table.sessionFor flow).1.Returned := by
  rcases paired.sessionFor_cases flow with
    ⟨_, same⟩ | ⟨_, _, same⟩ | ⟨_, _, _, same⟩ | ⟨_, _, _, _, _, _, _, same⟩
  all_goals
    rw [same]
    trivial

end Paired

/-! ## Runs of a table -/

inductive Call where
  | sessionFor (flow : FlowKey)
  | flowForResponse (session : DatagramSessionId) (source : SocketAddr)
  | clear
  deriving DecidableEq

def perform (table : UdpAssociationTable) : Call → UdpAssociationTable
  | .sessionFor flow => (table.sessionFor flow).2
  | .flowForResponse _ _ => table
  | .clear => table.clear

def Step (before : UdpAssociationTable) (call : Call)
    (after : UdpAssociationTable) : Prop :=
  after = before.perform call

theorem Paired.perform {table : UdpAssociationTable} (paired : table.Paired)
    (call : Call) : (table.perform call).Paired := by
  cases call with
  | sessionFor flow => exact paired.sessionFor flow
  | flowForResponse session source => exact paired
  | clear => exact paired.clear

theorem Paired.run {table later : UdpAssociationTable}
    (paired : table.Paired) (reached : Reachable Step table later) :
    later.Paired := by
  refine Reachable.invariant paired ?_ reached
  rintro before call after paired rfl
  exact paired.perform call

/-- Only clearing the table takes a session away from its flow. -/
theorem Paired.perform_keeps {table : UdpAssociationTable}
    (paired : table.Paired) {call : Call} (kept : call ≠ .clear)
    {flow : FlowKey} {session : DatagramSessionId}
    (found : table.byFlow.get? flow = some session) :
    (table.perform call).byFlow.get? flow = some session := by
  cases call with
  | sessionFor other =>
      simp only [UdpAssociationTable.perform]
      rcases paired.sessionFor_cases other with
        ⟨_, same⟩ | ⟨_, _, same⟩ | ⟨_, _, _, same⟩ |
          ⟨_, unknown, _, used, next, _, _, same⟩
      · rw [same]
        exact found
      · rw [same]
        exact found
      · rw [same]
        exact found
      · rw [same]
        refine OrderedMap.get?_insert_eq_some_iff.mpr (.inr ⟨?_, found⟩)
        rintro rfl
        rw [unknown] at found
        cases found
  | flowForResponse used source => exact found
  | clear => exact absurd rfl kept

theorem Paired.run_keeps {table later : UdpAssociationTable}
    (paired : table.Paired) {trace : List Call}
    (run : Run Step table trace later) (kept : .clear ∉ trace)
    {flow : FlowKey} {session : DatagramSessionId}
    (found : table.byFlow.get? flow = some session) :
    later.byFlow.get? flow = some session := by
  induction run with
  | nil => exact found
  | @snoc trace state next call front move induction =>
      have before := induction fun member =>
        kept (List.mem_append_left _ member)
      rw [move]
      refine (paired.run ⟨trace, front⟩).perform_keeps ?_ before
      rintro rfl
      exact kept (by simp)

/-- What a lookup returned is stored. -/
theorem Paired.get?_of_sessionFor {table : UdpAssociationTable}
    (paired : table.Paired) {flow : FlowKey} {session : DatagramSessionId}
    (returned : (table.sessionFor flow).1 = .ok session) :
    (table.sessionFor flow).2.byFlow.get? flow = some session := by
  rcases paired.sessionFor_cases flow with
    ⟨_, same⟩ | ⟨_, found, same⟩ | ⟨_, _, _, same⟩ |
      ⟨_, _, _, _, _, _, _, same⟩
  · rw [same] at returned
    cases returned
  · rw [same] at returned ⊢
    cases returned
    exact found
  · rw [same] at returned
    cases returned
  · rw [same] at returned ⊢
    cases returned
    exact OrderedMap.get?_insert_self _ _ _

theorem Paired.sessionFor_of_get? {table : UdpAssociationTable}
    (paired : table.Paired) {flow : FlowKey} {session : DatagramSessionId}
    (found : table.byFlow.get? flow = some session) :
    table.sessionFor flow = (.ok session, table) := by
  have udp := paired.udp flow session found
  simp [UdpAssociationTable.sessionFor, udp, found]

theorem Paired.flowForResponse_eq_ok_iff {table : UdpAssociationTable}
    (paired : table.Paired) {session : DatagramSessionId}
    {source : SocketAddr} {flow : FlowKey} :
    table.flowForResponse session source = .ok flow ↔
      table.byFlow.get? flow = some session ∧ flow.destination = source := by
  rw [paired.inverse, flowForResponse]
  cases stored : table.bySession.get? session with
  | none => simp
  | some other =>
      by_cases same : other.destination = source
      · simp only [same, ne_eq, not_true_eq_false, if_false,
          Except.ok.injEq, Option.some.injEq]
        constructor
        · rintro rfl
          exact ⟨rfl, same⟩
        · exact fun both => both.1
      · simp only [ne_eq, same, not_false_eq_true, if_true, reduceCtorEq,
          Option.some.injEq, false_iff, not_and]
        rintro rfl
        exact same

/-- What holds of every table that calls can produce. -/
structure Coherent (table : UdpAssociationTable) : Prop where
  inverse : ∀ flow session,
    table.byFlow.get? flow = some session ↔
      table.bySession.get? session = some flow
  bounded : table.byFlow.size = table.bySession.size ∧
    table.byFlow.size ≤ table.limit.toNat
  nonzero : ∀ flow session, table.byFlow.get? flow = some session →
    session.value ≠ 0
  distinct : ∀ flow other session, table.byFlow.get? flow = some session →
    table.byFlow.get? other = some session → flow = other
  returns : ∀ flow, (table.sessionFor flow).1.Returned
  stable : ∀ flow session trace later,
    (table.sessionFor flow).1 = .ok session →
    Run Step (table.sessionFor flow).2 trace later → .clear ∉ trace →
    later.sessionFor flow = (.ok session, later)
  responses : ∀ session source flow,
    table.flowForResponse session source = .ok flow ↔
      table.byFlow.get? flow = some session ∧ flow.destination = source
  terminates : table.byFlow.size ≠ table.limit.toNat →
    ∀ next : UInt64, next ≠ 0 → ∃ session,
      (allocateFrom (table.bySession.size + 1)
        { table with nextSession := next }).1 = .ok session ∧
      ({ table with nextSession := next } :
        UdpAssociationTable).allocateSession.1 = .ok session

theorem Paired.terminates {table : UdpAssociationTable}
    (paired : table.Paired) (room : table.byFlow.size ≠ table.limit.toNat)
    (next : UInt64) (nonzero : next ≠ 0) :
    ∃ session,
      (allocateFrom (table.bySession.size + 1)
        { table with nextSession := next }).1 = .ok session ∧
      ({ table with nextSession := next } :
        UdpAssociationTable).allocateSession.1 = .ok session := by
  have limited := table.limit.toNat_lt
  have bounded := paired.bounded
  have same := paired.sameSize
  obtain ⟨session, after, returned, _, _⟩ := @allocateFrom_of_room
    (table.bySession.size + 1) { table with nextSession := next } nonzero
    (Nat.lt_succ_self _) (by omega)
  refine ⟨session, by rw [returned], ?_⟩
  have rest := allocateFrom_add returned
    (2 ^ 64 - 1 - (table.bySession.size + 1))
  rw [Nat.add_sub_cancel' (by omega)] at rest
  rw [UdpAssociationTable.allocateSession, rest]

theorem Paired.coherent {table : UdpAssociationTable}
    (paired : table.Paired) : table.Coherent where
  inverse := paired.inverse
  bounded := ⟨paired.sameSize, paired.bounded⟩
  nonzero := fun flow session _ => session.nonzero
  distinct := by
    intro flow other session first second
    rw [paired.inverse] at first second
    exact Option.some.inj (first.symm.trans second)
  returns := paired.returned
  stable := by
    intro flow session trace later returned run kept
    have stored := paired.get?_of_sessionFor returned
    have after := paired.sessionFor flow
    exact (after.run ⟨trace, run⟩).sessionFor_of_get?
      (after.run_keeps run kept stored)
  responses := fun session source flow => paired.flowForResponse_eq_ok_iff
  terminates := paired.terminates

end UdpAssociationTable

end Velum.Tun
